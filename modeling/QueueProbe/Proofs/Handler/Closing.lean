import QueueProbe.Proofs.Handler.Lifecycle

/-! Closing a handler. With a connection it succeeds whatever went before, but for one case: a closed
channel answers nothing any more, so a handler that consumes on it cannot be closed. Its subscription is
gone all the same, as it went with the channel. -/

namespace QueueProbe

theorem Tied.none_due {K V : Type} {made : List (Nat × ConsumerTag)} {b : Broker} {n : Nat}
    {h : Handler K V} {x : Consumer} (t : Tied made b n h x) (hc : b.isClosed h.channel = true) :
    x.due b = [] := by
  unfold Consumer.due
  cases active : x.active.value with
  | none => rfl
  | some a => exact if_pos ((t.handle a active).1 ▸ hc)

namespace Bench

variable {K V : Type} [DecidableEq K] [Debug K] {made : List (Nat × ConsumerTag)} {w w' : Bench K V}
  {n : Nat} {h : Handler K V} {x : Consumer}

/-- The channel of the handler was closed while the handler consumed on it. -/
def Cut (w : Bench K V) (h : Handler K V) : Prop :=
  h.visibleState = .consuming ∧ w.broker.isClosed h.channel = true

/-- What comes of closing handler `n` now. -/
structure Closing (made : List (Nat × ConsumerTag)) (w : Bench K V) (n : Nat) (h : Handler K V) : Prop where
  accepted : ¬w.Cut h → ∃ w', w.handlerClose n = (.ok (), w') ∧ w'.stateOf n = some .closed
  refused : w.Cut h → ∃ w', w.handlerClose n = (.error (.ofBroker (.channelClosed h.channel)), w') ∧
    w'.stateOf n = some .consuming
  gone : (w.after (.asked n .close)).broker.ownSubscriptions (made ++ w.makes (.asked n .close)) n = []

/-! A consumer that is closed, by what it has. -/

theorem close_idle (hx : w.consumers[n]? = some x) (hp : x.active.poisoned = false)
    (idle : x.active.value = none) : w.close n = (.ok (), w) := by
  have ht : x.active.take QueueError.synchronisation = .ok none := by simp [Lock.take, hp, idle]
  simp only [close, hx, ht]

theorem close_active (hx : w.consumers[n]? = some x) (hp : x.active.poisoned = false) {a : Handle}
    (active : x.active.value = some a) : ∃ m, w.close n = (w.note m).release n x a := by
  have ht : x.active.take QueueError.synchronisation = .ok (some a) := by simp [Lock.take, hp, active]
  exact ⟨.debug ("closing consumer " ++ a.tag.text ++ " on " ++ a.queue), by simp only [close, hx, ht]⟩

theorem release_shut {a : Handle} (hc : w.broker.isClosed x.channel = true)
    (hf : w.faults.get? (x.channel, .unsubscribe) = none) :
    w.release n x a = (.error (.ofBroker (.channelClosed x.channel)), w) := by
  have hb : w.broker.unsubscribe x.channel a.tag = (.error (.channelClosed x.channel), w.broker) := by
    simp [Broker.unsubscribe, Broker.through, Broker.usable, hc]
  unfold release unsubscribe leave
  rw [through_ok hf hb]
  rfl

/-! A handler that is closed. -/

theorem handlerClose_intact (ok : Intact w n h x) (hs : h.state.value ≠ .closed) :
    ∃ m, w.handlerClose n = underLock n .closed ((w.note m).close h.consumer) := by
  have ht : h.state.take QueueError.synchronisation = .ok h.state.value := by simp [Lock.take, ok.state]
  refine ⟨.debug ("closing queue handler for " ++ h.queue), ?_⟩
  unfold handlerClose
  simp only [ok.handler, ht]

theorem Life.accepted (life : Life made w) (ok : Intact w n h x) (up : w.broker.connected = true)
    (hf : w.faults.get? (h.channel, .unsubscribe) = none) (uncut : ¬w.Cut h) :
    ∃ w', w.handlerClose n = (.ok (), w') := by
  obtain ⟨-, tied⟩ := life.tied ok
  have hv := h.visibleState_intact ok.state
  by_cases hs : h.state.value = .closed
  · exact ⟨w, (ok.rests (hv.trans hs)).2.2.2⟩
  · obtain ⟨m, hclose⟩ := handlerClose_intact ok hs
    rw [hclose]
    cases active : x.active.value with
    | none =>
      rw [close_idle (w := w.note m) ok.consumer ok.active active]
      exact ⟨_, rfl⟩
    | some a =>
      have hconsuming : h.state.value = .consuming := tied.state.2 (by simp [active])
      have hopen : w.broker.isClosed h.channel = false := by
        cases hc : w.broker.isClosed h.channel with
        | false => rfl
        | true => exact absurd ⟨hv.trans hconsuming, hc⟩ uncut
      obtain ⟨s, hsub, hsc⟩ := life.served ok active hopen
      obtain ⟨m', hrel⟩ := close_active (w := w.note m) ok.consumer ok.active active
      have hu : w.broker.usable x.channel = .ok () :=
        Broker.usable_of_open (tied.channel ▸ hopen) up
      obtain ⟨w', hr⟩ := release_ok (w := (w.note m).note m') (n := h.consumer) hu hsub hsc
        (tied.channel ▸ hf)
      rw [hrel, hr]
      exact ⟨_, rfl⟩

theorem Life.refused (life : Life made w) (ok : Intact w n h x)
    (hf : w.faults.get? (h.channel, .unsubscribe) = none) (cut : w.Cut h) :
    ∃ w', w.handlerClose n = (.error (.ofBroker (.channelClosed h.channel)), w') := by
  obtain ⟨hs, hc⟩ := cut
  obtain ⟨-, tied⟩ := life.tied ok
  rw [h.visibleState_intact ok.state] at hs
  obtain ⟨a, active⟩ := Option.isSome_iff_exists.1 (tied.state.1 hs)
  obtain ⟨m, hclose⟩ := handlerClose_intact ok (by simp [hs])
  obtain ⟨m', hrel⟩ := close_active (w := w.note m) ok.consumer ok.active active
  have hr := release_shut (w := (w.note m).note m') (n := h.consumer) (x := x) (a := a)
    (tied.channel ▸ hc) (tied.channel ▸ hf)
  rw [hclose, hrel, hr, tied.channel]
  exact ⟨_, rfl⟩

/-- On a live connection a handler can be closed after every history, unless its channel was closed while
it consumed; either way nothing of it stays at the broker. -/
theorem closing (life : Life made w) (ok : Intact w n h x) (up : w.broker.connected = true)
    (hf : w.faults.get? (h.channel, .unsubscribe) = none) : Closing made w n h := by
  obtain ⟨log, run⟩ := life.run
  obtain ⟨hn, tied⟩ := life.tied ok
  have after : w.after (.asked n .close) = (w.handlerClose n).2 := rfl
  -- the life goes on with this call, and its makers know the handler still
  have life' := life.snoc (.asked n .close)
  by_cases cut : w.Cut h
  · obtain ⟨w', hr⟩ := life.refused ok hf cut
    have hw := (handlerClose_comes ok.handler ok.consumer run).unmoved hr
    refine ⟨fun uncut => absurd cut uncut, fun _ => ⟨w', hr, ?_⟩, ?_⟩
    · rw [stateOf, hw.handlers, ok.handler, Option.map_some, cut.1]
    · rw [hr] at after
      rw [after] at life' ⊢
      obtain ⟨y, -, t⟩ := life'.kept.tied n h (hw.handlers ▸ ok.handler)
      refine t.none_own (t.none_due ?_)
      rw [Broker.isClosed, hw.closed]
      exact cut.2
  · obtain ⟨w', hr⟩ := life.accepted ok up hf cut
    obtain ⟨hst, hact⟩ := life.closed ok hr
    refine ⟨fun _ => ⟨w', hr, hst⟩, fun hc => absurd hc cut, ?_⟩
    rw [hr] at after
    rw [after] at life' ⊢
    obtain ⟨h', hh', -⟩ := Option.map_eq_some_iff.1 hst
    obtain ⟨y, hy, t⟩ := life'.kept.tied n h' hh'
    have hidle : y.active.value = none := by
      rw [hn] at hact
      simp only [activeHandle, hy] at hact
      exact take_ok hact
    exact t.none_own (by rw [Consumer.due, hidle])

/-- A close fails without a connection, and succeeds once there is one again. -/
theorem closing_reconnected : ∃ (made : List (Nat × ConsumerTag)) (w : Bench String Bytes)
    (h : Handler String Bytes), Closing made w 0 h ∧ ¬w.Cut h ∧
    made = [(0, Broker.consumerTag 1)] ∧ h.visibleState = .consuming := by
  have life := Life.nil (K := String) (V := Bytes) |>.snoc (.befell .openChannel rfl)
    |>.snoc (.befell (.declare "jobs") rfl) |>.snoc (.befell (.build (jobsPlan ⟨1⟩ .requeue)) rfl)
    |>.snoc (.asked 0 (.consume none)) |>.snoc (.befell (.connect false) rfl) |>.snoc (.asked 0 .close)
    |>.snoc (.befell (.connect true) rfl)
  refine ⟨_, _, _, closing life ⟨rfl, rfl, rfl, rfl⟩ rfl rfl, fun hc => ?_, ?_, rfl⟩
  · exact absurd hc.2 (by decide +kernel)
  · decide +kernel

/-- The owner closes the channel, and the handler on it cannot be closed any more. -/
theorem close_refused_on_closed_channel : ∃ (made : List (Nat × ConsumerTag)) (w : Bench String Bytes)
    (h : Handler String Bytes) (x : Consumer), Life made w ∧ Intact w 0 h x ∧
    w.broker.connected = true ∧ w.faults = [] ∧
    (w.handlerClose 0).1 = .error (.transport "Channel ChannelId(1) is closed") ∧
    (w.handlerClose 0).2.stateOf 0 = some .consuming := by
  have life := Life.nil (K := String) (V := Bytes) |>.snoc (.befell .openChannel rfl)
    |>.snoc (.befell (.declare "jobs") rfl) |>.snoc (.befell (.build (jobsPlan ⟨1⟩ .requeue)) rfl)
    |>.snoc (.asked 0 (.consume none)) |>.snoc (.befell (.close ⟨1⟩) rfl)
  refine ⟨_, _, _, _, life, ⟨rfl, rfl, rfl, rfl⟩, rfl, rfl, ?_, ?_⟩ <;> decide +kernel

end Bench
end QueueProbe
