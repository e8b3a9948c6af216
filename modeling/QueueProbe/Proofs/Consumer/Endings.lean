import QueueProbe.Proofs.Consumer.Aftermath
import QueueProbe.Proofs.Handler.Turnouts

/-! Endings. A cancel or close that succeeds takes the subscription off the broker and waits until its
worker has handled and settled what it holds, whichever phase it is in. Then the subscription is over. -/

namespace QueueProbe

variable {K V : Type}

/-- How many steps a worker there makes until it can go. -/
def Phase.ahead : Phase → Nat
  | idle => 1
  | settling _ _ => 2
  | holding _ => 3

namespace Bench

theorem worker?_setPhase (w : Bench K V) (t : ConsumerTag) (p : Phase) :
    (w.setPhase t p).worker? t = (w.worker? t).map fun k => { k with phase := p } := by
  simp only [worker?, setPhase, onWorker]
  induction w.workers with
  | nil => rfl
  | cons k ks ih => by_cases hk : k.tag = t <;> simp [hk, ih]

theorem worker?_dismiss (w : Bench K V) (t : ConsumerTag) : (w.dismiss t).worker? t = none := by
  simp [worker?, dismiss]

/-- How many steps the worker of a subscription still makes once that is gone. -/
def remaining (w : Bench K V) (t : ConsumerTag) : Nat := ((w.worker? t).map (·.phase.ahead)).getD 0

theorem remaining_setPhase (w : Bench K V) (t : ConsumerTag) (p : Phase) :
    (w.setPhase t p).remaining t ≤ p.ahead := by
  rw [remaining, worker?_setPhase]
  cases w.worker? t with
  | none => exact Nat.zero_le _
  | some k => exact Nat.le_refl _

theorem remaining_dismiss (w : Bench K V) (t : ConsumerTag) : (w.dismiss t).remaining t = 0 := by
  rw [remaining, worker?_dismiss]
  rfl

variable [DecidableEq K] [Debug K] {w w' : Bench K V} {t : ConsumerTag}

theorem remaining_file (w : Bench K V) (t : ConsumerTag) (f : Filing K V) (d : Delivery) :
    (w.file t f d).remaining t ≤ 2 := by
  unfold file
  dsimp only
  split
  · exact remaining_setPhase _ t _
  · split <;> exact remaining_setPhase _ t _

omit [DecidableEq K] [Debug K] in
theorem remaining_settle (w : Bench K V) (k : Worker K V) (d : Delivery) (r : Option Bool) :
    (w.settle k d r).remaining k.tag ≤ 1 := by
  obtain ⟨w', -, h | ⟨n, f, m, h⟩ | h⟩ := w.settle_cases k d r
  · rw [h, remaining_dismiss]
    exact Nat.zero_le 1
  · rw [h]
    exact remaining_setPhase _ k.tag .idle
  · rw [h]
    exact remaining_setPhase _ k.tag .idle

theorem remaining_work (clerks : ∀ k ∈ w.workers, ∃ f, k.duty = .filing f) (gone : w.isSubscribed t = false) :
    ((w.advance t).getD w).remaining t ≤ w.remaining t - 1 := by
  unfold advance
  cases hk : w.worker? t with
  | none => simp [remaining, hk]
  | some k =>
    obtain ⟨f, duty⟩ := clerks k (List.mem_of_find?_eq_some hk)
    obtain rfl : k.tag = t := by simpa using List.find?_some hk
    have now : w.remaining k.tag = k.phase.ahead := by simp [remaining, hk]
    rw [now]
    dsimp only
    cases hp : k.phase with
    | idle =>
      have departed : (w.depart k).remaining k.tag = 0 := by
        simp only [depart, duty]
        exact w.remaining_dismiss k.tag
      simp only [gone, Bool.false_eq_true, if_false, Option.getD_some, departed]
      exact Nat.zero_le _
    | holding d =>
      have may : w.mayHandle k = true := by simp [mayHandle, gone]
      simp only [may, if_true, Option.getD_some, handle, duty]
      exact remaining_file _ k.tag f d
    | settling d r => exact remaining_settle w k d r

omit [DecidableEq K] [Debug K] in
theorem over_of (gone : w.isSubscribed t = false) (nobody : w.worker? t = none) : w.scene.Over t where
  unsubscribed r hr ht := by
    have := List.any_eq_false.1 gone r hr
    simp [ht] at this
  unserved c hc ht := by
    obtain ⟨k, hk, -, hkt, -⟩ := clerk_of_mem hc
    exact absurd (decide_eq_true (hkt.trans ht)) (List.find?_eq_none.1 nobody k hk)

omit [DecidableEq K] [Debug K] in
theorem remaining_le (w : Bench K V) (t : ConsumerTag) : w.remaining t ≤ 3 := by
  unfold remaining
  cases w.worker? t with
  | none => exact Nat.zero_le 3
  | some k => cases hp : k.phase <;> simp [hp, Phase.ahead]

omit [DecidableEq K] [Debug K] in
theorem remaining_zero (h : w.remaining t = 0) : w.worker? t = none := by
  unfold remaining at h
  cases hk : w.worker? t with
  | none => rfl
  | some k => cases hp : k.phase <;> simp [hk, hp, Phase.ahead] at h

omit [DecidableEq K] [Debug K] in
theorem leases_effort (w : Bench K V) (t : ConsumerTag) : leases (w.effort t) = [] := by
  unfold effort
  cases w.worker? t with
  | none => rfl
  | some k =>
    dsimp only
    cases k.duty with
    | listening l => rfl
    | filing f =>
      dsimp only
      cases k.phase with
      | idle => cases w.broker.deliver t <;> rfl
      | holding d =>
        dsimp only
        split
        · cases index f d <;> rfl
        · rfl
      | settling d r => rfl

theorem retire_over (staffed : w.scene.strangers = []) (gone : w.isSubscribed t = false) :
    (w.retire t).isSubscribed t = false ∧ (w.retire t).worker? t = none := by
  have step : ∀ {v : Bench K V}, v.scene.strangers = [] → v.isSubscribed t = false →
      (v.undergo (.work t)).scene.strangers = [] ∧ (v.undergo (.work t)).isSubscribed t = false ∧
      (v.undergo (.work t)).remaining t ≤ v.remaining t - 1 := by
    intro v staffed gone
    have clerks : ∀ k ∈ v.workers, ∃ f, k.duty = .filing f := fun k hk => duty_of_mem staffed hk
    exact ⟨(effect staffed (.work t)).strangers staffed, (isSubscribed_alike (alike_work clerks t) t).trans gone,
      remaining_work clerks gone⟩
  obtain ⟨staffed₁, gone₁, few₁⟩ := step staffed gone
  obtain ⟨staffed₂, gone₂, few₂⟩ := step staffed₁ gone₁
  obtain ⟨-, gone₃, few₃⟩ := step staffed₂ gone₂
  have most := w.remaining_le t
  have none : (w.retire t).remaining t = 0 := Nat.le_zero.1 (few₃.trans (by omega))
  exact ⟨gone₃, remaining_zero none⟩

variable {n : Nat} {x : Consumer} {a : Handle}

/-- What a cancel or close does with the broker and the worker, in steps. -/
def leaving (n : Nat) (c : ChannelId) (t : ConsumerTag) : List (Happening K V) :=
  [.act (.unsubscribe c t), .work t, .work t, .work t, .forget n]

theorem leases_leaving (w : Bench K V) (n : Nat) (c : ChannelId) (t : ConsumerTag) :
    leases (w.chronicle (leaving n c t)) = [] := by
  simp only [leaving, chronicle, leases_append, marks, leases_effort]
  rfl

theorem release_over (staffed : w.scene.strangers = []) (found : w.consumers[n]? = some x)
    (active : x.active.value = some a) (h : w.release n x a = (.ok (), w')) :
    w' = w.undergoAll (leaving n x.channel a.tag) ∧ w'.scene.Over a.tag := by
  rcases w.release_cases n x a with ⟨s, usable, hs, hc, hr⟩ | ⟨e, hr⟩ | ⟨p, hr⟩
  · obtain rfl : _ = w' := congrArg Prod.snd (hr.symm.trans h)
    have left : w.undergo (.act (.unsubscribe x.channel a.tag)) = { w with broker := w.broker.left a.tag } := by
      simp [undergo, reserved, Broker.act, Broker.unsubscribe, Broker.through, Broker.notified, usable, hs, hc,
        Broker.left]
    have gone : ({ w with broker := w.broker.left a.tag } : Bench K V).isSubscribed a.tag = false := by
      simp [isSubscribed, Broker.left]
    obtain ⟨gone, nobody⟩ := retire_over (w := { w with broker := w.broker.left a.tag }) staffed gone
    have alike := alike_retire (w := { w with broker := w.broker.left a.tag }) staffed a.tag
    have before : ({ w with broker := w.broker.left a.tag } : Bench K V).consumers[n]? = some x := found
    obtain ⟨y, hy, desk⟩ := alike.symm.consumer before
    have held : y.active.value = some a := (congrArg (·.active.value) desk).trans active
    have forgot : (retire { w with broker := w.broker.left a.tag } a.tag).undergo (.forget n) =
        (retire { w with broker := w.broker.left a.tag } a.tag).setActive n none := by
      simp [undergo, hy, held, gone, nobody]
    refine ⟨?_, over_of gone nobody⟩
    rw [← left] at forgot ⊢
    exact forgot.symm
  · cases hr.symm.trans h
  · cases hr.symm.trans h

/-- The ways to end the subscription that consumer `n` has the handle `a` of. -/
inductive Ends (w : Bench K V) (n : Nat) (a : Handle) : Bench K V → Prop where
  | cancel {w' : Bench K V} (h : w.cancel n a = (.ok (), w')) : Ends w n a w'
  | close {w' : Bench K V} (h : w.close n = (.ok (), w')) : Ends w n a w'
  | handlerCancel {w' : Bench K V} (i : Nat) (y : Handler K V) (found : w.handlers[i]? = some y)
      (mine : y.consumer = n) (h : w.handlerCancel i = (.ok (), w')) : Ends w n a w'
  | handlerClose {w' : Bench K V} (i : Nat) (y : Handler K V) (found : w.handlers[i]? = some y)
      (mine : y.consumer = n) (still : y.state.value ≠ .closed) (h : w.handlerClose i = (.ok (), w')) :
      Ends w n a w'

theorem Sequel.aside {more : List (Mark K V)} (h : Sequel w more w') (change : Bench K V → Bench K V) :
    Sequel w more (w'.undergo (.aside change)) := List.append_nil more ▸ h.snoc (.aside change)

theorem cancel_over (staffed : w.scene.strangers = []) (found : w.consumers[n]? = some x)
    (h : w.cancel n a = (.ok (), w')) :
    w' = (w.note (.debug ("cancelling consumer " ++ a.tag.text ++ " on " ++ a.queue))).undergoAll
      (leaving n x.channel a.tag) ∧ w'.scene.Over a.tag := by
  rcases cancel_cases found a with ⟨mine, -, hc⟩ | ⟨-, -, text, hc⟩ | ⟨-, hc⟩ <;> rw [hc] at h
  · exact release_over (w := w.note _) staffed found (by rw [mine]) h
  · cases h
  · cases h

theorem close_over (staffed : w.scene.strangers = []) (found : w.consumers[n]? = some x)
    (active : x.active.value = some a) (h : w.close n = (.ok (), w')) :
    w' = (w.note (.debug ("closing consumer " ++ a.tag.text ++ " on " ++ a.queue))).undergoAll
      (leaving n x.channel a.tag) ∧ w'.scene.Over a.tag := by
  rcases close_cases found with ⟨current, running, hc⟩ | ⟨idle, -⟩ | ⟨e, hc⟩
  · obtain rfl : a = current := Option.some.inj (active.symm.trans running)
    rw [hc] at h
    exact release_over (w := w.note _) staffed found active h
  · cases active.symm.trans idle
  · rw [hc] at h
    cases h

/-- A cancel or close is a run, with a note before it and perhaps a new state of a handler after it. -/
theorem left_over {v : Bench K V} {m : Note} {c : ChannelId} {t : ConsumerTag}
    (done : v = (w.note m).undergoAll (leaving n c t) ∧ v.scene.Over t) (change : Bench K V → Bench K V) :
    ∃ more, Sequel w more (v.undergo (.aside change)) ∧ leases more = [] ∧
      (v.undergo (.aside change)).scene.Over t := by
  obtain ⟨rfl, ended⟩ := done
  have noted : Sequel w [] (w.note m) := Sequel.here.aside fun w => w.note m
  have left := noted.trans (sequel_all (w.note m) (leaving n c t))
  exact ⟨_, left.aside change, leases_leaving _ n c t, ended⟩

omit [DecidableEq K] [Debug K] in
theorem underLock_ok {α : Type} {i : Nat} {next : HandlerState} {r : Outcome QueueError α × Bench K V} {b : α}
    (h : underLock i next r = (.ok b, w')) : ∃ v, r = (.ok b, v) ∧ w' = v.setState i next := by
  obtain ⟨o, v⟩ := r
  cases o with
  | ok c =>
    obtain ⟨rfl, rfl⟩ : c = b ∧ v.setState i next = w' := by simpa [underLock] using h
    exact ⟨v, rfl, rfl⟩
  | error e => cases h
  | panic p => cases h

theorem Ends.over (ends : Ends w n a w') (staffed : w.scene.strangers = [])
    (found : w.consumers[n]? = some x) (active : x.active.value = some a) :
    ∃ more, Sequel w more w' ∧ leases more = [] ∧ w'.scene.Over a.tag := by
  cases ends with
  | cancel h => exact left_over (cancel_over staffed found h) id
  | close h => exact left_over (close_over staffed found active h) id
  | handlerCancel i y hy mine h =>
    subst mine
    have current : ∀ b, w.activeHandle y.consumer = .ok (some b) → b = a := by
      intro b hb
      rw [activeHandle, found] at hb
      exact Option.some.inj ((take_ok hb).symm.trans active)
    unfold Bench.handlerCancel at h
    rw [hy] at h
    dsimp only at h
    split at h
    · cases h
    · split at h
      · cases h
      · cases h
      · next b hb =>
        obtain rfl := current b hb
        obtain ⟨v, hv, rfl⟩ := underLock_ok h
        exact left_over (cancel_over staffed found hv) fun w => w.setState i .created
  | handlerClose i y hy mine still h =>
    subst mine
    unfold Bench.handlerClose at h
    rw [hy] at h
    dsimp only at h
    split at h
    · cases h
    · next ht => exact absurd (take_ok ht) still
    · obtain ⟨v, hv, rfl⟩ := underLock_ok h
      obtain ⟨more, on, unstarted, ended⟩ :=
        left_over (close_over (w := w.note _) staffed found active hv) fun w => w.setState i .closed
      exact ⟨more, (Sequel.here.aside fun w => w.note _).trans on, unstarted, ended⟩

variable {log : List (Mark K V)}

/-- After every run, a cancel or close that succeeds, of the consumer or its handler, leaves the subscription
over, and so does one that others come between. What the subscription then has unacked is exactly its
deliveries whose settle call failed and that nothing else has ended: all of those if nobody else settles and
the channel is open, and none if no call failed. Whatever comes later, no delivery is made to its tag and
nobody else is given it. Until the consumer is started again its books stay as they are, and so does its
store, unless somebody else files into it. -/
theorem endings_settle_the_rest (run : History log w) (found : w.consumers[n]? = some x)
    (active : x.active.value = some a) :
    (∀ w', Ends w n a w' → ∃ more, Sequel w more w' ∧ leases more = [] ∧ w'.scene.Over a.tag) ∧
    ∀ more w', Sequel w more w' → w'.scene.Over a.tag →
      (∀ d, d ∈ (w'.broker.pending a.tag).map Broker.told ↔
        ∃ y ∈ calls (Seat.hasTag a.tag) (log ++ more), y.1.delivery = d ∧ y.2 ≠ .ok () ∧
          d.tag ∉ (Broker.finished (story (log ++ more))).map Prod.fst) ∧
      (Alone (· = a.tag) (log ++ more) → w'.broker.isClosed a.channel = false →
        ∀ d, d ∈ (w'.broker.pending a.tag).map Broker.told ↔
          ∃ y ∈ calls (Seat.hasTag a.tag) (log ++ more), y.1.delivery = d ∧ y.2 ≠ .ok ()) ∧
      ((∀ y ∈ calls (Seat.hasTag a.tag) (log ++ more), y.2 = .ok ()) → w'.broker.pending a.tag = []) ∧
      ∀ later w'', Sequel w' later w'' →
        Broker.received a.tag (story (log ++ more ++ later)) = Broker.received a.tag (story (log ++ more)) ∧
        (∀ c q p t, (w''.broker.subscribe c q p).1 = .ok t → t ≠ a.tag) ∧
        ((∀ l ∈ leases (more ++ later), l.1.how.consumer ≠ n) →
          w''.statsOf n = w'.statsOf n ∧
          ((∀ seat d key m, .filed seat d key m ∈ later →
              ∀ y, w''.consumers[seat.how.consumer]? = some y → y.store ≠ x.store) →
            w''.storeOf n = w'.storeOf n)) := by
  refine ⟨fun w' ends => ends.over (Sequel.staffed run rfl) found active, fun more w' on ended => ?_⟩
  obtain ⟨l, hl, hn, rfl⟩ := run.tenancy.handles n x a found active
  have soFar : History (log ++ more) w' := run.trans on
  have hl : l ∈ leases (log ++ more) := by
    rw [leases_append]
    exact List.mem_append_left _ hl
  have free : ∀ k ∈ w'.scene.crew, k.tag = l.1.tag → k.phase = .idle := fun k hk ht =>
    absurd ht (ended.unserved k hk)
  refine ⟨fun d => soFar.mem_pending hl free, fun alone still d => ?_, fun clean => ?_,
    fun later w'' onward => ⟨soFar.received_over hl ended onward, fun c q p t ht same => ?_, fun unstarted => ?_⟩⟩
  · refine (soFar.mem_pending hl free).trans ⟨?_, ?_⟩
    · rintro ⟨y, hy, hd, failed, -⟩
      exact ⟨y, hy, hd, failed⟩
    · rintro ⟨y, hy, rfl, failed⟩
      exact ⟨y, hy, rfl, failed, soFar.unfinished hl free alone still hy failed⟩
  · have none : (w'.broker.pending l.1.tag).map Broker.told = [] := by
      refine List.eq_nil_iff_forall_not_mem.2 fun d hd => ?_
      obtain ⟨y, hy, -, failed, -⟩ := (soFar.mem_pending hl free).1 hd
      exact failed (clean y hy)
    exact List.map_eq_nil_iff.1 none
  · have last : History (log ++ more ++ later) w'' := soFar.trans onward
    have hl : l ∈ leases (log ++ more ++ later) := by
      rw [leases_append]
      exact List.mem_append_left _ hl
    rcases w''.broker.subscribe_cases c q p none with ⟨-, -, -, h⟩ | ⟨e, k, h⟩
    · rw [h] at ht
      exact last.tenancy.fresh hl (same.symm.trans (Except.ok.inj ht).symm)
    · rw [h] at ht
      cases ht
  · rw [leases_append] at unstarted
    have all := run.all_over found active on ended fun l hl => unstarted l (List.mem_append_left _ hl)
    have vacant := soFar.vacant all onward fun l hl => unstarted l (List.mem_append_right _ hl)
    refine ⟨soFar.stats_still onward vacant, fun others => ?_⟩
    obtain ⟨y, hy, hys⟩ := run.housed on found
    obtain ⟨z, hz, hzs⟩ := soFar.housed onward hy
    rw [storeOf_eq hz, storeOf_eq hy, hzs, hys]
    exact soFar.shelf onward others

omit [DecidableEq K] [Debug K] in
theorem answered {r : Outcome QueueError Unit × Bench K V} (h : r.1 = .ok ()) : r = (.ok (), r.2) :=
  Prod.ext h rfl

/-- A consumer is cancelled that has lost an ack to a refusal and holds the next delivery: it acks that one and
leaves the first unacked. What is posted then goes to another consumer with a store of its own. -/
theorem endings_settle_the_rest_held : ∃ (log more later : List (Mark String Bytes))
    (w w' w'' : Bench String Bytes), History log w ∧
    w.cancel 0 ⟨Broker.consumerTag 1, ⟨1⟩, "jobs"⟩ = (.ok (), w') ∧ Sequel w more w' ∧
    w.workers.map (·.phase) = [.holding ⟨2, [2], { messageId := some "b" }, false, 1⟩] ∧
    (w'.broker.pending (Broker.consumerTag 1)).map (·.tag) = [1] ∧ w'.statsOf 0 = ⟨2, 2, 0, 0, 1⟩ ∧
    Sequel w' later w'' ∧ w''.statsOf 1 = ⟨1, 1, 0, 0, 0⟩ ∧ w''.statsOf 0 = w'.statsOf 0 ∧
    w''.storeOf 0 = w'.storeOf 0 := by
  let t (k : Nat) : Happening String Bytes := .work (Broker.consumerTag k)
  let hs : List (Happening String Bytes) := [.act .openChannel, .act (.declare "jobs"), .newStore, .newStore,
    .newConsumer ⟨1⟩ 0 2, .newConsumer ⟨1⟩ 1 1, post "jobs" 1 (some "a"), post "jobs" 2 (some "b"),
    .start 0 "jobs" Codec.bytesDecoder Codec.byMessageId .requeue (some 1),
    faulting ⟨1⟩ .ack (some .refuse), t 1, t 1, t 1, t 1, faulting ⟨1⟩ .ack none]
  let on : List (Happening String Bytes) :=
    [post "jobs" 3 (some "c"), subscribing 1 "jobs" 3, t 2, t 2, t 2]
  let a : Handle := ⟨Broker.consumerTag 1, ⟨1⟩, "jobs"⟩
  let x : Consumer := ⟨⟨1⟩, 0, 2, ⟨some a, false⟩, ⟨1, 1, 0, 0, 1⟩⟩
  let w : Bench String Bytes := ({} : Bench String Bytes).undergoAll hs
  let w' : Bench String Bytes := (w.cancel 0 a).2
  have run : History (({} : Bench String Bytes).chronicle hs) w := sequel_all {} hs
  have later := sequel_all w' on
  have ok : w.cancel 0 a = (.ok (), w') := answered (by decide +kernel)
  have ending := endings_settle_the_rest (n := 0) (x := x) (a := a) run (by decide +kernel) rfl
  obtain ⟨more, onward, unstarted, ended⟩ := ending.1 w' (.cancel ok)
  obtain ⟨-, -, -, still⟩ := ending.2 more w' onward ended
  have started : ∀ l ∈ leases (w'.chronicle on), l.1.how.consumer ≠ 0 := by decide +kernel
  have files : ∀ s ∈ (w'.chronicle on).filterMap Mark.seat?, s.how.consumer = 1 := by decide +kernel
  have second : ((w'.undergoAll on).consumers[1]?).map (·.store) = some 1 := by decide +kernel
  have none : ∀ l ∈ leases (more ++ w'.chronicle on), l.1.how.consumer ≠ 0 := by
    rw [leases_append, unstarted, List.nil_append]
    exact started
  have unchanged := (still _ _ later).2.2 none
  refine ⟨_, more, _, w, w', _, run, ok, onward, ?_, ?_, ?_, later, ?_, unchanged.1, unchanged.2 ?_⟩
  · decide +kernel
  · decide +kernel
  · decide +kernel
  · decide +kernel
  · intro seat d key m hm y hy
    have mine := files seat (List.mem_filterMap.2 ⟨_, hm, rfl⟩)
    rw [mine] at hy
    rw [hy] at second
    simp [Option.some.inj second]

/-- Not so if somebody else settles. A consumer without credits is cancelled while it holds a delivery that was
acked meanwhile on its channel: its own ack fails, and nothing is left unacked. -/
theorem cancel_after_foreign_ack : ∃ (log more : List (Mark String Bytes)) (w w' : Bench String Bytes),
    History log w ∧ w.cancel 0 ⟨Broker.consumerTag 1, ⟨1⟩, "jobs"⟩ = (.ok (), w') ∧ Sequel w more w' ∧
    (calls (Seat.hasTag (Broker.consumerTag 1)) (log ++ more)).map (fun y => (y.1.delivery.tag, y.2)) =
      [(1, .error (.unknownDeliveryTag 1))] ∧
    w'.broker.pending (Broker.consumerTag 1) = [] := by
  let hs : List (Happening String Bytes) := [.act .openChannel, .act (.declare "jobs"), .newStore,
    .newConsumer ⟨1⟩ 0 1, post "jobs" 1 (some "a"),
    .start 0 "jobs" Codec.bytesDecoder Codec.byMessageId .requeue (some 0), .work (Broker.consumerTag 1),
    .act (.ack ⟨1⟩ 1)]
  let a : Handle := ⟨Broker.consumerTag 1, ⟨1⟩, "jobs"⟩
  let x : Consumer := ⟨⟨1⟩, 0, 1, ⟨some a, false⟩, {}⟩
  let w : Bench String Bytes := ({} : Bench String Bytes).undergoAll hs
  let m : Note := .debug ("cancelling consumer " ++ a.tag.text ++ " on " ++ a.queue)
  let w' : Bench String Bytes := (w.note m).undergoAll (leaving 0 ⟨1⟩ a.tag)
  have run : History (({} : Bench String Bytes).chronicle hs) w := sequel_all {} hs
  have ok : w.cancel 0 a = (.ok (), (w.cancel 0 a).2) := answered (by decide +kernel)
  have left : (w.cancel 0 a).2 = w' :=
    (cancel_over (x := x) (Sequel.staffed run rfl) (by decide +kernel) ok).1
  have noted : Sequel w [] (w.note m) := Sequel.here.aside fun w => w.note m
  have on : Sequel w _ w' := noted.trans (sequel_all (w.note m) (leaving 0 ⟨1⟩ a.tag))
  refine ⟨_, _, w, w', run, left ▸ ok, on, ?_, ?_⟩
  · decide +kernel
  · decide +kernel

end Bench
end QueueProbe
