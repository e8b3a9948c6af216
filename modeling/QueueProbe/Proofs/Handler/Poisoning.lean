import QueueProbe.Proofs.Handler.Counting
import QueueProbe.Proofs.Handler.Lasting
import QueueProbe.Proofs.Handler.Lifecycle

/-! Poisoning. A channel call that panics poisons the locks of the handler that made it, and does nothing
else. From then on the handler is as good as closed: its calls are refused before they do anything. What
it received and counted can still be read, and the worker of its subscription goes on. -/

namespace QueueProbe

variable {K V : Type}

/-- The answer to whoever would take a poisoned lock. -/
def Lock.refusal : QueueError := .synchronisation poisonText

theorem Lock.take_poisoned {α : Type} {l : Lock α} (hp : l.poisoned = true) :
    l.take QueueError.synchronisation = .error refusal := if_pos hp

theorem Handler.takeOpen_poisoned {h : Handler K V} (hp : h.state.poisoned = true) (operation : String) :
    h.takeOpen operation = .error Lock.refusal := by
  rw [takeOpen, Lock.take_poisoned hp]

namespace Bench

/-- The bench with another broker, and other channel calls that fail. -/
def amid (w : Bench K V) (b : Broker) (faults : Table (ChannelId × Call) Fault) : Bench K V :=
  { w with broker := b, faults }

def spoiled (w : Bench K V) (n : Nat) (notes : List Note) : Bench K V :=
  ({ w with journal := w.journal ++ notes }.poisonActive n).poisonState n

variable [DecidableEq K] [Debug K] {w w' w₁ w₂ : Bench K V} {log more : List (Entry K V)} {n : Nat}
  {h : Handler K V} {x : Consumer}

/-- A call of handler `n` panicked, and this is the bench that it left. -/
inductive Crashes (w : Bench K V) (n : Nat) : Bench K V → Prop where
  | consume (credits : Option Nat) (p : Panic) (panics : (w.consume n credits).1 = .panic p) :
      Crashes w n (w.consume n credits).2
  | cancel (p : Panic) (panics : (w.handlerCancel n).1 = .panic p) : Crashes w n (w.handlerCancel n).2
  | close (p : Panic) (panics : (w.handlerClose n).1 = .panic p) : Crashes w n (w.handlerClose n).2

/-- All calls of handler `n` are refused, and none does anything: it is all the same to them what the broker
has, and which calls of a channel would fail or panic. -/
structure Inert (w : Bench K V) (n : Nat) : Prop where
  consume : ∀ b f credits, (w.amid b f).consume n credits = (.error Lock.refusal, w.amid b f)
  publish : ∀ b f batch schedule,
    (w.amid b f).handlerPublish n batch schedule = (.error Lock.refusal, w.amid b f)
  publishValues : ∀ b f values schedule,
    (w.amid b f).handlerPublishValues n values schedule = (.error Lock.refusal, w.amid b f)
  cancel : ∀ b f, (w.amid b f).handlerCancel n = (.error Lock.refusal, w.amid b f)
  close : ∀ b f, (w.amid b f).handlerClose n = (.error Lock.refusal, w.amid b f)
  drop : ∀ b f, (w.amid b f).dropHandler n = (.ok (), w.amid b f)
  state : w.stateOf n = some .closed

/-- What can be read of handler `n`, by the deliveries that it handled. -/
structure Readable (log : List (Entry K V)) (w : Bench K V) (n : Nat) (h : Handler K V) : Prop where
  received : w.received n = Store.ofPuts (h.puts (handledBy n log))
  message : ∀ k, (w.received n).get? k = ((h.puts (handledBy n log)).filter (·.1 = k)).getLast?.map (·.2)
  stats : (w.handlerStats n).handlings = h.tally (handledBy n log)
  counters : ∃ x, w.consumers[n]? = some x ∧ w.handlerStats n = x.stats

/-! A panic in a call. -/

omit [DecidableEq K] [Debug K] in
theorem underLock_panic {α : Type} {s : HandlerState} {r : Outcome QueueError α × Bench K V} {p : Panic}
    (hr : (underLock n s r).1 = .panic p) :
    ∃ w', r = (.panic p, w') ∧ (underLock n s r).2 = w'.poisonState n := by
  rcases r with ⟨_ | _ | q, w'⟩ <;> cases hr
  exact ⟨w', rfl, rfl⟩

omit [DecidableEq K] [Debug K] in
theorem start_panicked (hx : w.consumers[n]? = some x) {q : String} {decoder : Decoder V} {key : KeyFn K V}
    {policy : FailurePolicy} {credits : Option Nat} {p : Panic}
    (hr : w.start n q decoder key policy credits = (.panic p, w')) :
    ∃ m, w' = (w.note m).poisonActive n := by
  unfold start at hr
  simp only [hx] at hr
  split at hr
  · cases hr
  · cases hr
  · rcases (w.note _).subscribe_turnout x.channel q x.prefetch (.filing ⟨n, q, decoder, key, policy⟩)
      credits with ⟨v, -, hs, -⟩ | ⟨e, v, hs, -⟩ | ⟨p', hs⟩ <;> rw [hs] at hr <;> cases hr
    exact ⟨_, rfl⟩

theorem release_panicked {a : Handle} {p : Panic} (hr : w.release n x a = (.panic p, w')) :
    w' = w.poisonActive n := by
  rcases w.release_cases n x a with ⟨s, -, -, -, h⟩ | ⟨e, h⟩ | ⟨p', h⟩ <;> rw [h] at hr <;> cases hr
  rfl

theorem cancel_panicked (hx : w.consumers[n]? = some x) {a : Handle} {p : Panic}
    (hr : w.cancel n a = (.panic p, w')) : ∃ m, w' = (w.note m).poisonActive n := by
  rcases cancel_cases hx a with ⟨-, -, hc⟩ | ⟨-, -, text, hc⟩ | ⟨-, hc⟩ <;> rw [hc] at hr
  · exact ⟨_, release_panicked hr⟩
  · cases hr
  · cases hr

theorem close_panicked (hx : w.consumers[n]? = some x) {p : Panic} (hr : w.close n = (.panic p, w')) :
    ∃ m, w' = (w.note m).poisonActive n := by
  rcases close_cases hx with ⟨a, -, hc⟩ | ⟨-, hc⟩ | ⟨e, hc⟩ <;> rw [hc] at hr
  · exact ⟨_, release_panicked hr⟩
  · cases hr
  · cases hr

/-- The locks of handler and consumer are all that a panic touches. -/
theorem Crashes.spoiled (run : Run log w) (hh : w.handlers[n]? = some h) (crash : w.Crashes n w₁) :
    ∃ notes, w₁ = w.spoiled n notes := by
  obtain ⟨x, hx⟩ := run.consumer hh
  have hn := run.numbered hh
  cases crash with
  | consume credits p panics =>
    unfold Bench.consume at panics ⊢
    simp only [hh, hn] at panics ⊢
    cases ho : h.takeOpen "consume" with
    | error e =>
      rw [ho] at panics
      cases panics
    | ok s =>
      rw [ho] at panics
      obtain ⟨w', hs, hw⟩ := underLock_panic panics
      obtain ⟨m, rfl⟩ := start_panicked hx hs
      exact ⟨[m], hw⟩
  | cancel p panics =>
    unfold handlerCancel at panics ⊢
    simp only [hh, hn] at panics ⊢
    cases ho : h.takeOpen "cancel" with
    | error e =>
      rw [ho] at panics
      cases panics
    | ok s =>
      rw [ho] at panics
      rcases ha : w.activeHandle n with e | _ | a <;> rw [ha] at panics
      · cases panics
      · cases panics
      · obtain ⟨w', hs, hw⟩ := underLock_panic panics
        obtain ⟨m, rfl⟩ := cancel_panicked hx hs
        exact ⟨[m], hw⟩
  | close p panics =>
    unfold handlerClose at panics ⊢
    simp only [hh, hn] at panics ⊢
    rcases ht : h.state.take QueueError.synchronisation with e | s <;> rw [ht] at panics
    · cases panics
    · cases s with
      | closed => cases panics
      | created | consuming =>
        obtain ⟨w', hs, hw⟩ := underLock_panic panics
        obtain ⟨m, rfl⟩ := close_panicked (w := w.note _) hx hs
        refine ⟨[.debug ("closing queue handler for " ++ h.queue), m], hw.trans ?_⟩
        simp only [Bench.spoiled, note, List.append_assoc, List.cons_append, List.nil_append]

theorem Crashes.leads (crash : w.Crashes n w₁) : Leads w w₁ := by
  cases crash with
  | consume credits => exact .request w (.consume n credits)
  | cancel => exact .request w (.cancel n)
  | close => exact .request w (.close n)

/-- Whoever asks comes to the state lock first. -/
theorem inert (hh : w.handlers[n]? = some h) (hp : h.state.poisoned = true) : w.Inert n := by
  have here : ∀ b f, (w.amid b f).handlers[n]? = some h := fun b f => hh
  have closed : h.visibleState = .closed := if_pos hp
  have publish : ∀ b f batch schedule,
      (w.amid b f).handlerPublish n batch schedule = (.error Lock.refusal, w.amid b f) := by
    intro b f batch schedule
    simp only [handlerPublish, here, Handler.takeOpen_poisoned hp]
  refine ⟨fun b f credits => ?_, publish, fun b f values => publish b f _, fun b f => ?_, fun b f => ?_,
    fun b f => ?_, ?_⟩
  · simp only [Bench.consume, here, Handler.takeOpen_poisoned hp]
  · simp only [handlerCancel, here, Handler.takeOpen_poisoned hp]
  · simp only [handlerClose, here, Lock.take_poisoned hp]
  · simp only [dropHandler, here, closed, if_true]
  · rw [stateOf, hh, Option.map_some, closed]

theorem Run.readable (run : Run log w) (hh : w.handlers[n]? = some h) : Readable log w n h where
  received := run.received_here hh
  message := (run.replayed hh).latest
  stats := run.counted hh
  counters := by
    obtain ⟨x, hx⟩ := run.consumer hh
    exact ⟨x, hx, by simp [handlerStats, statsOf, hh, run.numbered hh, hx]⟩

/-- Whatever befell a handler before, and whatever happens after: once a channel call panicked in its consume,
cancel or close, which poisons its locks and does nothing else, each call of it is refused with the error
of a poisoned lock, has no effect and makes no call of the broker; it reads as closed, and dropping it does
nothing. What it received and counted is all there, and grows by what its worker still handles. -/
theorem poison_absorbs (run : Run log w) (hh : w.handlers[n]? = some h) (crash : w.Crashes n w₁)
    (later : Meanwhile w₁ w₂) :
    (∃ notes, w₁ = w.spoiled n notes) ∧ w₂.Inert n ∧
      ∃ more, Onward w more w₂ ∧ Readable (log ++ more) w₂ n h := by
  obtain ⟨notes, hw⟩ := crash.spoiled run hh
  obtain ⟨past, run₁⟩ := run.leads crash.leads
  have poisoned : w₁.handlers[n]? = some { h with state := h.state.poison } := by
    rw [hw]
    simp [spoiled, poisonState, poisonActive, onHandler, onConsumer, hh]
  -- the poison is there for good
  obtain ⟨h₂, hh₂, ages⟩ := (run₁.lasts later).handler poisoned
  obtain ⟨more, on⟩ := (crash.leads.trans later.leads).onward
  have frame : h₂.frame = h.frame := ages.frame
  have puts : h₂.puts = h.puts := (congrArg Handler.puts frame :)
  have tally : h₂.tally = h.tally := (congrArg Handler.tally frame :)
  have readable := (run.onward on).readable hh₂
  refine ⟨⟨notes, hw⟩, inert hh₂ (ages.poison rfl), more, on, ?_⟩
  exact ⟨puts ▸ readable.received, puts ▸ readable.message, tally ▸ readable.stats, readable.counters⟩

/-- A cancel panics while a delivery is under way. It is filed and acked all the same, and the subscription
is there still after all that is asked of the handler. -/
theorem poison_absorbs_cancel : ∃ (log more : List (Entry String Bytes)) (w w' : Bench String Bytes)
    (h : Handler String Bytes), Onward w more w' ∧ w'.Inert 0 ∧ Readable (log ++ more) w' 0 h ∧
    (w.received 0).messages = [] ∧
    (w'.received 0).messages = [("a", ⟨[1], { messageId := some "a" }⟩)] ∧
    w'.handlerStats 0 = ⟨1, 1, 0, 0, 0⟩ ∧ w'.broker.unacked = [] ∧
    w'.broker.subscriptions.map (·.tag) = [Broker.consumerTag 1] := by
  have run := Run.nil (K := String) (V := Bytes) |>.snoc .openChannel |>.snoc (.declare "jobs")
    |>.snoc (.send ⟨1⟩ "jobs" ⟨[1], { messageId := some "a" }⟩) |>.snoc (.build (jobsPlan ⟨1⟩ .requeue))
    |>.snoc (.subscribe 0 none) |>.snoc (.active 0 (·.put (some ⟨Broker.consumerTag 1, ⟨1⟩, "jobs"⟩)))
    |>.snoc (.state 0 (·.put .consuming)) |>.snoc (.work (Broker.consumerTag 1))
    |>.snoc (.fault ⟨1⟩ .unsubscribe (some .crash))
  obtain ⟨-, inert, more, on, readable⟩ := poison_absorbs run (n := 0) rfl
    (.cancel (.message "unsubscribe panicked") (by decide +kernel))
    (Meanwhile.nothing |>.befell (.fault ⟨1⟩ .unsubscribe none) trivial
      |>.befell (.work (Broker.consumerTag 1)) trivial |>.asked (.close 0) |>.asked (.consume 0 none)
      |>.befell (.work (Broker.consumerTag 1)) trivial |>.asked (.drop 0))
  refine ⟨_, more, _, _, _, on, inert, readable, ?_, ?_, ?_, ?_, ?_⟩ <;> decide +kernel

end Bench
end QueueProbe
