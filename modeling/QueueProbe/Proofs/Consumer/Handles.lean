import QueueProbe.Proofs.Consumer.Endings

/-! Handles. Whole calls of consumers are made on a bench where anything may happen in between. What the
lock of a consumer is left with is told by the replies it gave; and since tags are never issued twice, the
only handle that cancels is the one of its last start, until it is cancelled or closed. -/

namespace QueueProbe

variable {K V : Type}

/-- What no call of a consumer has a part in. -/
def Happening.isApart : Happening K V → Bool
  | .start .. | .forget _ | .spoil _ => false
  | .act _ | .aside _ | .newStore | .newConsumer .. | .work _ | .grant .. => true

/-- A lock after a call made under it, which has a value to put there if it succeeds. -/
def Lock.after {α : Type} (l : Lock (Option Handle)) (left : α → Option Handle) :
    Outcome QueueError α → Lock (Option Handle)
  | .ok a => l.put (left a)
  | .error _ => l
  | .panic _ => l.poison

/-- A call of a consumer, or anything else that comes about on a bench. -/
inductive Occasion (K V : Type) where
  | start (consumer : Nat) (queue : String) (decoder : Decoder V) (key : KeyFn K V)
    (policy : FailurePolicy) (credits : Option Nat)
  | cancel (consumer : Nat) (handle : Handle)
  | close (consumer : Nat)
  | befell (what : Happening K V) (apart : what.isApart = true)

/-- What a consumer answered to a start, or to a cancel or close. -/
inductive Reply where
  | started (consumer : Nat) (answer : Outcome QueueError Handle)
  | ended (consumer : Nat) (answer : Outcome QueueError Unit)

namespace Reply

def consumer : Reply → Nat
  | started n _ | ended n _ => n

/-- The handle that was given, and by whom. -/
def handle? : Reply → Option (Nat × Handle)
  | started n (.ok h) => some (n, h)
  | _ => none

/-- Consumer `n` was started, or its subscription ended. -/
def turns (n : Nat) : Reply → Prop
  | started m answer => m = n ∧ ∃ h, answer = .ok h
  | ended m answer => m = n ∧ answer = .ok ()

def panics (n : Nat) : Reply → Prop
  | started m answer => m = n ∧ ∃ why, answer = .panic why
  | ended m answer => m = n ∧ ∃ why, answer = .panic why

/-- What the lock of the consumer that replies is left with. -/
def leave (l : Lock (Option Handle)) : Reply → Lock (Option Handle)
  | started _ answer => l.after some answer
  | ended _ answer => l.after (fun _ => none) answer

end Reply

/-- The last start of consumer `n` that succeeded gave this handle, and no cancel or close has since. -/
def IsCurrent (n : Nat) (h : Handle) (log : List Reply) : Prop :=
  ∃ before after, log = before ++ .started n (.ok h) :: after ∧ ∀ r ∈ after, ¬ r.turns n

/-- What the replies of consumer `n` leave its lock with. -/
def replay (n : Nat) (log : List Reply) : Lock (Option Handle) :=
  (log.filter (·.consumer = n)).foldl Reply.leave { value := none }

theorem replay_snoc (n : Nat) (log : List Reply) (r : Reply) :
    replay n (log ++ [r]) = if r.consumer = n then r.leave (replay n log) else replay n log := by
  unfold replay
  by_cases hr : r.consumer = n <;> simp [hr]

theorem isCurrent_snoc {n : Nat} {h : Handle} {log : List Reply} {r : Reply} :
    IsCurrent n h (log ++ [r]) ↔ r = .started n (.ok h) ∨ (¬ r.turns n ∧ IsCurrent n h log) := by
  constructor
  · rintro ⟨before, after, hl, quiet⟩
    -- the new reply is the start itself, or the last of what came after it
    rcases List.eq_nil_or_concat after with rfl | ⟨after, r', rfl⟩
    · exact Or.inl (List.singleton_inj.1 (List.append_inj' hl rfl).2)
    · rw [List.concat_eq_append, ← List.cons_append, ← List.append_assoc] at hl
      obtain ⟨rfl, hr⟩ := List.append_inj' hl rfl
      obtain rfl := List.singleton_inj.1 hr
      simp only [List.concat_eq_append, List.mem_append, List.mem_singleton] at quiet
      exact Or.inr ⟨quiet r (Or.inr rfl), before, after, rfl, fun r' hr' => quiet r' (Or.inl hr')⟩
  · rintro (rfl | ⟨other, before, after, rfl, quiet⟩)
    · exact ⟨log, [], rfl, by simp⟩
    · refine ⟨before, after ++ [r], by simp, fun r' hr => ?_⟩
      rcases List.mem_append.1 hr with hr | hr
      · exact quiet r' hr
      · rwa [List.mem_singleton.1 hr]

theorem isCurrent_iff {n : Nat} {h : Handle} {log : List Reply} :
    IsCurrent n h log ↔ (replay n log).value = some h := by
  induction log using List.reverseRecOn with
  | nil => simp [IsCurrent, replay]
  | append_singleton log r ih =>
    rw [isCurrent_snoc, replay_snoc, ih]
    by_cases hn : r.consumer = n
    · subst hn
      rcases r with ⟨m, a | e | p⟩ | ⟨m, a | e | p⟩ <;>
        simp [Reply.consumer, Reply.leave, Reply.turns, Lock.after, Lock.put, Lock.poison]
    · rw [if_neg hn]
      rcases r with ⟨m, a | e | p⟩ | ⟨m, a | e | p⟩ <;> simp_all [Reply.consumer, Reply.turns]

theorem replay_poisoned {n : Nat} {log : List Reply} :
    (replay n log).poisoned = true ↔ ∃ r ∈ log, r.panics n := by
  induction log using List.reverseRecOn with
  | nil => simp [replay]
  | append_singleton log r ih =>
    rw [replay_snoc]
    simp only [List.mem_append, List.mem_singleton, or_and_right, exists_or, exists_eq_left, ← ih]
    by_cases hn : r.consumer = n
    · subst hn
      rcases r with ⟨m, a | e | p⟩ | ⟨m, a | e | p⟩ <;>
        simp [Reply.consumer, Reply.leave, Reply.panics, Lock.after, Lock.put, Lock.poison]
    · rw [if_neg hn]
      rcases r with ⟨m, a | e | p⟩ | ⟨m, a | e | p⟩ <;> simp_all [Reply.consumer, Reply.panics]

namespace Bench

/-- The lock of consumer `n`, or a fresh one if there is no such consumer yet. -/
def lockOf (w : Bench K V) (n : Nat) : Lock (Option Handle) :=
  ((w.consumers[n]?).map (·.active)).getD { value := none }

theorem lockOf_eq {w : Bench K V} {n : Nat} {x : Consumer} (found : w.consumers[n]? = some x) :
    w.lockOf n = x.active := by
  simp [lockOf, found]

theorem lockOf_alike {w w' : Bench K V} (h : Alike w w') (n : Nat) : w'.lockOf n = w.lockOf n := by
  have same : ∀ v : Bench K V,
      v.lockOf n = (((v.consumers.map Consumer.desk)[n]?).map (·.active)).getD { value := none } := by
    intro v
    rw [lockOf, List.getElem?_map, Option.map_map]
    rfl
  rw [same, h.desks, ← same]

theorem lockOf_onActive {w : Bench K V} {m : Nat} {x : Consumer} (found : w.consumers[m]? = some x)
    (f : Lock (Option Handle) → Lock (Option Handle)) (n : Nat) :
    (w.onConsumer m fun x => { x with active := f x.active }).lockOf n =
      if m = n then f (w.lockOf n) else w.lockOf n := by
  by_cases hn : m = n
  · subst hn
    simp [lockOf, onConsumer, found]
  · simp [lockOf, onConsumer, hn]

theorem lockOf_setActive {w : Bench K V} {m : Nat} {x : Consumer} (found : w.consumers[m]? = some x)
    (h : Option Handle) (n : Nat) :
    (w.setActive m h).lockOf n = if m = n then (w.lockOf n).put h else w.lockOf n :=
  lockOf_onActive found (·.put h) n

/-- A call leaves the lock of its consumer as its answer says, and no other lock is touched. -/
theorem lockOf_comes {α : Type} {w : Bench K V} {m : Nat} {x : Consumer} {r : Outcome QueueError α × Bench K V}
    {Done : α → Bench K V → Prop} (found : w.consumers[m]? = some x) (h : Comes w (w.poisonActive m) Done r)
    (left : α → Option Handle) (n : Nat) (done : ∀ a w', Done a w' →
      w'.lockOf n = if m = n then (w.lockOf n).put (left a) else w.lockOf n) :
    r.2.lockOf n = if m = n then (w.lockOf n).after left r.1 else w.lockOf n := by
  cases h with
  | failed e w' h => rw [lockOf_alike h.alike]; exact (ite_self _).symm
  | crashed p w' h => rw [lockOf_alike h]; exact lockOf_onActive found (·.poison) n
  | done a w' h => exact done a w' h

variable [DecidableEq K] [Debug K]

def reply (w : Bench K V) : Occasion K V → List Reply
  | .start n q decoder key policy credits => [.started n (w.start n q decoder key policy credits).1]
  | .cancel n h => [.ended n (w.cancel n h).1]
  | .close n => [.ended n (w.close n).1]
  | .befell .. => []

def meet (w : Bench K V) : Occasion K V → Bench K V
  | .start n q decoder key policy credits => (w.start n q decoder key policy credits).2
  | .cancel n h => (w.cancel n h).2
  | .close n => (w.close n).2
  | .befell h _ => w.undergo h

/-- The benches that come of the empty one, with what their consumers replied. -/
inductive Replied : List Reply → Bench K V → Prop where
  | empty : Replied [] {}
  | snoc {log : List Reply} {w : Bench K V} (o : Occasion K V) :
      Replied log w → Replied (log ++ w.reply o) (w.meet o)

def meetAll (w : Bench K V) (os : List (Occasion K V)) : Bench K V := os.foldl meet w

def replies (w : Bench K V) : List (Occasion K V) → List Reply
  | [] => []
  | o :: os => w.reply o ++ replies (w.meet o) os

theorem Replied.all {log : List Reply} {w : Bench K V} (h : Replied log w) (os : List (Occasion K V)) :
    Replied (log ++ w.replies os) (w.meetAll os) := by
  induction os generalizing log w with
  | nil => simpa [replies, meetAll] using h
  | cons o os ih =>
    have rest := ih (h.snoc o)
    rwa [List.append_assoc] at rest

section Step

variable {w : Bench K V} {m : Nat} {a : Handle}

omit [DecidableEq K] [Debug K] in
theorem lockOf_start (w : Bench K V) (m : Nat) (q : String) (decoder : Decoder V) (key : KeyFn K V)
    (policy : FailurePolicy) (credits : Option Nat) (n : Nat) :
    (w.start m q decoder key policy credits).2.lockOf n = if m = n then
      (w.lockOf n).after some (w.start m q decoder key policy credits).1 else w.lockOf n := by
  cases found : w.consumers[m]? with
  | none => simp [start, found, Lock.after]
  | some x =>
    refine lockOf_comes found (start_comes found q decoder key policy credits) some n ?_
    rintro a w' ⟨-, -, rfl, hw⟩
    rw [lockOf_alike hw]
    exact lockOf_setActive (w := { w with broker := w.broker.joined x.channel q x.prefetch }) found _ n

theorem lockOf_cancel (staffed : w.scene.strangers = []) (m : Nat) (a : Handle) (n : Nat) :
    (w.cancel m a).2.lockOf n = if m = n then
      (w.lockOf n).after (fun _ => none) (w.cancel m a).1 else w.lockOf n := by
  cases found : w.consumers[m]? with
  | none => simp [cancel, found, Lock.after]
  | some x =>
    refine lockOf_comes found (cancel_comes staffed found a) (fun _ => none) n ?_
    rintro - w' ⟨-, hw⟩
    rw [lockOf_alike hw]
    exact lockOf_setActive (w := { w with broker := w.broker.left a.tag }) found _ n

theorem lockOf_close (staffed : w.scene.strangers = []) (m n : Nat) :
    (w.close m).2.lockOf n = if m = n then
      (w.lockOf n).after (fun _ => none) (w.close m).1 else w.lockOf n := by
  cases found : w.consumers[m]? with
  | none => simp [close, found, Lock.after]
  | some x =>
    refine lockOf_comes found (close_comes staffed found) (fun _ => none) n ?_
    rintro - w' (⟨idle, hw⟩ | ⟨a, -, hw⟩)
    · rw [lockOf_alike hw]
      split
      · next hn =>
        subst hn
        rw [lockOf_eq found, Lock.put, ← idle]
      · rfl
    · rw [lockOf_alike hw]
      exact lockOf_setActive (w := { w with broker := w.broker.left a.tag }) found _ n

theorem lockOf_apart (staffed : w.scene.strangers = []) {h : Happening K V} (apart : h.isApart = true)
    (n : Nat) : (w.undergo h).lockOf n = w.lockOf n := by
  cases h with
  | act a =>
    simp only [undergo]
    split <;> rfl
  | aside change => rfl
  | newStore => rfl
  | newConsumer c store prefetch =>
    have consumers : ∃ x : Consumer, (w.newConsumer c store prefetch).2.consumers = w.consumers ++ [x] ∧
        x.active = { value := none } := ⟨_, rfl, rfl⟩
    obtain ⟨x, hx, fresh⟩ := consumers
    simp only [undergo, lockOf, hx]
    rcases Nat.lt_trichotomy n w.consumers.length with hn | rfl | hn
    · rw [List.getElem?_append_left hn]
    · simp [fresh]
    · have beyond : (w.consumers ++ [x]).length ≤ n := List.length_append.trans_le (Nat.succ_le_of_lt hn)
      rw [List.getElem?_eq_none beyond, List.getElem?_eq_none hn.le]
  | work t => exact lockOf_alike (alike_work (fun k hk => duty_of_mem staffed hk) t) n
  | grant c k =>
    simp only [undergo, grant]
    split <;> rfl
  | start | forget | spoil => cases apart

/-! A call panics only if its channel was made to. -/

omit [DecidableEq K] [Debug K] in
theorem through_panic {α : Type} {c : ChannelId} {call : Call} {run : Broker → Broker.Answer α} {p : Panic}
    (h : (w.through c call run).1 = .panic p) : w.faults.get? (c, call) = some .crash := by
  unfold through at h
  split at h
  · next hf => exact hf
  · cases h
  · cases hr : (run w.broker).1 <;> simp [hr, Outcome.ofExcept] at h

omit [DecidableEq K] [Debug K] in
theorem start_panic {x : Consumer} {q : String} {decoder : Decoder V} {key : KeyFn K V} {policy : FailurePolicy}
    {credits : Option Nat} {p : Panic} (found : w.consumers[m]? = some x)
    (h : (w.start m q decoder key policy credits).1 = .panic p) :
    w.faults.get? (x.channel, .subscribe) = some .crash := by
  simp only [start, found] at h
  split at h
  · cases h
  · cases h
  · split at h
    · next p' w' hs =>
      unfold subscribe at hs
      split at hs
      · cases hs
      · exact through_panic (w := w.note _) (congrArg Prod.fst hs)
    · cases h
    · cases h

theorem release_panic {x : Consumer} {p : Panic} (h : (w.release m x a).1 = .panic p) :
    w.faults.get? (x.channel, .unsubscribe) = some .crash := by
  unfold release at h
  split at h
  · next p' w' hu =>
    unfold unsubscribe at hu
    split at hu
    · cases hu
    · exact through_panic (congrArg Prod.fst hu)
  · cases h
  · cases h

theorem cancel_panic {x : Consumer} {p : Panic} (found : w.consumers[m]? = some x)
    (h : (w.cancel m a).1 = .panic p) : w.faults.get? (x.channel, .unsubscribe) = some .crash := by
  rcases cancel_cases found a with ⟨-, -, hc⟩ | ⟨-, -, text, hc⟩ | ⟨-, hc⟩ <;> rw [hc] at h
  · exact release_panic (w := w.note _) h
  · cases h
  · cases h

theorem close_panic {x : Consumer} {p : Panic} (found : w.consumers[m]? = some x)
    (h : (w.close m).1 = .panic p) : w.faults.get? (x.channel, .unsubscribe) = some .crash := by
  rcases close_cases found with ⟨a, -, hc⟩ | ⟨-, hc⟩ | ⟨e, hc⟩ <;> rw [hc] at h
  · exact release_panic (w := w.note _) h
  · cases h
  · cases h

theorem crash_of_panic {o : Occasion K V} {r : Reply} {n : Nat} (hr : r ∈ w.reply o) (hp : r.panics n) :
    ∃ x call, w.consumers[n]? = some x ∧ w.faults.get? (x.channel, call) = some .crash := by
  cases o with
  | start m q decoder key policy credits =>
    obtain rfl := List.mem_singleton.1 hr
    obtain ⟨rfl, why, ha⟩ := hp
    cases found : w.consumers[m]? with
    | none => simp [start, found] at ha
    | some x => exact ⟨x, .subscribe, rfl, start_panic found ha⟩
  | cancel m a =>
    obtain rfl := List.mem_singleton.1 hr
    obtain ⟨rfl, why, ha⟩ := hp
    cases found : w.consumers[m]? with
    | none => simp [cancel, found] at ha
    | some x => exact ⟨x, .unsubscribe, rfl, cancel_panic found ha⟩
  | close m =>
    obtain rfl := List.mem_singleton.1 hr
    obtain ⟨rfl, why, ha⟩ := hp
    cases found : w.consumers[m]? with
    | none => simp [close, found] at ha
    | some x => exact ⟨x, .unsubscribe, rfl, close_panic found ha⟩
  | befell => cases hr

theorem lockOf_meet (staffed : w.scene.strangers = []) (o : Occasion K V) {log : List Reply} {n : Nat}
    (same : w.lockOf n = replay n log) : (w.meet o).lockOf n = replay n (log ++ w.reply o) := by
  cases o with
  | start m q decoder key policy credits =>
    simp only [meet, reply]
    rw [replay_snoc, ← same]
    exact lockOf_start w m q decoder key policy credits n
  | cancel m a =>
    simp only [meet, reply]
    rw [replay_snoc, ← same]
    exact lockOf_cancel staffed m a n
  | close m =>
    simp only [meet, reply]
    rw [replay_snoc, ← same]
    exact lockOf_close staffed m n
  | befell h apart =>
    simp only [meet, reply]
    rw [List.append_nil, ← same]
    exact lockOf_apart staffed apart n

end Step

/-! Each occasion is a run, in which nothing is leased but by a start that succeeds. -/

section Runs

variable {w : Bench K V} {n : Nat} {x : Consumer} {a : Handle}

theorem release_run (staffed : w.scene.strangers = []) (found : w.consumers[n]? = some x)
    (active : x.active.value = some a) :
    ∃ more, Sequel w more (w.release n x a).2 ∧ leases more = [] := by
  rcases w.release_cases n x a with ⟨s, -, -, -, hr⟩ | ⟨e, hr⟩ | ⟨p, hr⟩
  · obtain ⟨ended, -⟩ := release_over staffed found active hr
    rw [hr, ended]
    exact ⟨_, sequel_all w _, leases_leaving w n x.channel a.tag⟩
  · rw [hr]
    exact ⟨[], .here, rfl⟩
  · rw [hr]
    exact ⟨_, Sequel.here.snoc (.spoil n), rfl⟩

theorem release_listed {s : Subscription} (usable : w.broker.usable x.channel = .ok ())
    (clear : w.faults.get? (x.channel, .unsubscribe) = none) (listed : w.broker.subscription? a.tag = some s)
    (channel : s.channel = x.channel) : (w.release n x a).1 = .ok () := by
  simp [release, unsubscribe, leave, through, clear, Broker.unsubscribe, Broker.through, usable, listed, channel,
    Outcome.ofExcept]

theorem cancel_ok (found : w.consumers[n]? = some x) (ok : (w.cancel n a).1 = .ok ()) :
    x.active.value = some a ∧ ∃ s ∈ w.broker.subscriptions, s.tag = a.tag ∧ s.channel = a.channel := by
  rcases cancel_cases found a with ⟨mine, here, hc⟩ | ⟨-, -, text, hc⟩ | ⟨-, hc⟩ <;> rw [hc] at ok
  · refine ⟨by rw [mine], ?_⟩
    rcases (w.note _).release_cases n x a with ⟨s, -, hs, channel, -⟩ | ⟨e, hr⟩ | ⟨p, hr⟩
    · exact ⟨s, List.mem_of_find?_eq_some hs, Broker.subscription?_tag hs, channel.trans here.symm⟩
    · rw [hr] at ok
      cases ok
    · rw [hr] at ok
      cases ok
  · cases ok
  · cases ok

theorem cancel_run (staffed : w.scene.strangers = []) (n : Nat) (a : Handle) :
    ∃ more, Sequel w more (w.cancel n a).2 ∧ leases more = [] := by
  cases found : w.consumers[n]? with
  | none => exact ⟨[], by simpa [cancel, found] using Sequel.here, rfl⟩
  | some x =>
    rcases cancel_cases found a with ⟨mine, -, hc⟩ | ⟨-, -, text, hc⟩ | ⟨-, hc⟩ <;> rw [hc]
    · obtain ⟨more, on, unstarted⟩ := release_run (w := w.note _) staffed found (by rw [mine])
      exact ⟨more, (Sequel.here.aside fun w => w.note _).trans on, unstarted⟩
    · exact ⟨[], .here, rfl⟩
    · exact ⟨[], .here, rfl⟩

theorem close_run (staffed : w.scene.strangers = []) (n : Nat) :
    ∃ more, Sequel w more (w.close n).2 ∧ leases more = [] := by
  cases found : w.consumers[n]? with
  | none => exact ⟨[], by simpa [close, found] using Sequel.here, rfl⟩
  | some x =>
    rcases close_cases found with ⟨a, active, hc⟩ | ⟨-, hc⟩ | ⟨e, hc⟩ <;> rw [hc]
    · obtain ⟨more, on, unstarted⟩ := release_run (w := w.note _) staffed found active
      exact ⟨more, (Sequel.here.aside fun w => w.note _).trans on, unstarted⟩
    · exact ⟨[], .here, rfl⟩
    · exact ⟨[], .here, rfl⟩

omit [DecidableEq K] [Debug K] in
theorem leases_apart {h : Happening K V} (apart : h.isApart = true) : leases (w.marks h) = [] := by
  cases h with
  | act a =>
    simp only [marks]
    split <;> rfl
  | work t => exact leases_effort w t
  | start => cases apart
  | _ => rfl

omit [DecidableEq K] [Debug K] in
theorem leases_start (w : Bench K V) (n : Nat) (q : String) (decoder : Decoder V) (key : KeyFn K V)
    (policy : FailurePolicy) (credits : Option Nat) :
    (leases (w.marks (.start n q decoder key policy credits))).map (fun l => (l.1.how.consumer, l.1.handle)) =
      (Reply.started n (w.start n q decoder key policy credits).1).handle?.toList := by
  simp only [marks, start]
  cases found : w.consumers[n]? with
  | none => rfl
  | some x =>
    dsimp only
    cases taken : x.active.take QueueError.synchronisation with
    | error e => rfl
    | ok active =>
      cases active with
      | some current => rfl
      | none =>
        unfold subscribe through
        simp only [unstarted_note]
        cases hf : w.faults.get? (x.channel, .subscribe) with
        | some g => cases g <;> simp [note, hf, leases, Reply.handle?]
        | none =>
          rcases w.broker.subscribe_cases x.channel q x.prefetch w.unstarted with
              ⟨hu, hq, -, hs⟩ | ⟨e, j, hs⟩ <;>
            simp [note, hf, hs, Outcome.ofExcept, leases, Mark.lease?, Reply.handle?, Seat.handle]

end Runs

/-- How the bench and the replies go together. -/
structure Told (log : List Reply) (w : Bench K V) : Prop where
  history : ∃ past, History past w ∧
    (leases past).map (fun l => (l.1.how.consumer, l.1.handle)) = log.filterMap Reply.handle?
  locks : ∀ n, w.lockOf n = replay n log

variable {w : Bench K V} {n : Nat} {x : Consumer} {log : List Reply}

theorem Told.meet (h : Told log w) (o : Occasion K V) : Told (log ++ w.reply o) (w.meet o) := by
  obtain ⟨past, run, leased⟩ := h.history
  have staffed := Sequel.staffed run rfl
  refine ⟨?_, fun n => lockOf_meet staffed o (h.locks n)⟩
  -- what is left is a run from here, which leases what the reply gives a handle of
  suffices ∃ more, Sequel w more (w.meet o) ∧
      (leases more).map (fun l => (l.1.how.consumer, l.1.handle)) = (w.reply o).filterMap Reply.handle? by
    obtain ⟨more, on, new⟩ := this
    exact ⟨past ++ more, run.trans on, by rw [leases_append, List.map_append, leased, new, List.filterMap_append]⟩
  cases o with
  | start m q decoder key policy credits =>
    refine ⟨_, Sequel.here.snoc (.start m q decoder key policy credits), ?_⟩
    rw [List.nil_append, leases_start]
    cases hr : (Reply.started m (w.start m q decoder key policy credits).1).handle? <;> simp [reply, hr]
  | cancel m a =>
    obtain ⟨more, on, none⟩ := cancel_run staffed m a
    exact ⟨more, on, by rw [none]; rfl⟩
  | close m =>
    obtain ⟨more, on, none⟩ := close_run staffed m
    exact ⟨more, on, by rw [none]; rfl⟩
  | befell h apart =>
    refine ⟨_, Sequel.here.snoc h, ?_⟩
    rw [List.nil_append, leases_apart apart]
    rfl

theorem Replied.told (h : Replied log w) : Told log w := by
  induction h with
  | empty => exact ⟨⟨[], .here, rfl⟩, fun n => rfl⟩
  | snoc o _ ih => exact ih.meet o

/-- After every history of starts, cancels and closes, whatever comes about in between: a cancel succeeds
only with the handle that the last start of this consumer gave if no cancel or close has succeeded since, while
the broker still has the subscription, and takes off the broker just that. With any other handle nothing at all
changes, and the answer is that of a wrong state of the subscription, or of the lock if a call of this consumer
panicked before, which none does unless its channel was made to. No tag is given twice. And with the current
handle a cancel does succeed, as long as the broker has the subscription and the channel lets the call
through. -/
theorem only_current_cancels (run : Replied log w) (found : w.consumers[n]? = some x) (h : Handle) :
    ((w.cancel n h).1 = .ok () → IsCurrent n h log ∧
      (∃ s ∈ w.broker.subscriptions, s.tag = h.tag ∧ s.channel = h.channel) ∧
      (w.cancel n h).2.broker.terms = w.broker.terms.filter (·.tag ≠ h.tag)) ∧
    (¬ IsCurrent n h log → (w.cancel n h).2 = w ∧
      ((∃ text, (w.cancel n h).1 = .error (.subscriptionState text)) ∨
        (∃ r ∈ log, r.panics n) ∧ (w.cancel n h).1 = .error (.synchronisation Lock.poisonText))) ∧
    (∀ o r, r ∈ w.reply o → r.panics n → ∃ call, w.faults.get? (x.channel, call) = some .crash) ∧
    ((log.filterMap Reply.handle?).map fun given => given.2.tag).Nodup ∧
    (IsCurrent n h log → (¬ ∃ r ∈ log, r.panics n) → h.channel = x.channel ∧
      (w.broker.usable h.channel = .ok () → w.faults.get? (h.channel, .unsubscribe) = none →
        (∃ s ∈ w.broker.subscriptions, s.tag = h.tag) → (w.cancel n h).1 = .ok ())) := by
  obtain ⟨past, history, leased⟩ := run.told.history
  have staffed := Sequel.staffed history rfl
  have lock : x.active = replay n log := (lockOf_eq found).symm.trans (run.told.locks n)
  have current : IsCurrent n h log ↔ x.active.value = some h := lock ▸ isCurrent_iff
  have poisoned : x.active.poisoned = true ↔ ∃ r ∈ log, r.panics n := lock ▸ replay_poisoned
  refine ⟨fun ok => ?_, fun other => ?_, fun o r hr hp => ?_, ?_, fun mine calm => ?_⟩
  · obtain ⟨active, live⟩ := cancel_ok found ok
    obtain ⟨-, alike⟩ := (cancel_comes staffed found h).success (Prod.ext ok rfl)
    exact ⟨current.2 active, live, alike.terms.trans (Broker.terms_left ..)⟩
  · rcases cancel_cases found h with ⟨mine, -, -⟩ | ⟨-, -, text, hc⟩ | ⟨broken, hc⟩
    · exact absurd (current.2 (by rw [mine])) other
    · rw [hc]
      exact ⟨rfl, Or.inl ⟨text, rfl⟩⟩
    · rw [hc]
      exact ⟨rfl, Or.inr ⟨poisoned.1 broken, rfl⟩⟩
  · obtain ⟨y, call, hy, crash⟩ := crash_of_panic hr hp
    obtain rfl := Option.some.inj (found.symm.trans hy)
    exact ⟨call, crash⟩
  · rw [← leased, List.map_map]
    exact history.tenancy.once
  · have active := current.1 mine
    have sound : x.active.poisoned = false := Bool.eq_false_iff.2 (calm ∘ poisoned.1)
    -- a consumer has its handle of a lease, and leases know the channel of their consumer
    obtain ⟨l, hl, hn, rfl⟩ := history.tenancy.handles n x h found active
    obtain ⟨y, hy, channel, -⟩ := history.tenancy.terms l hl
    obtain rfl := Option.some.inj (found.symm.trans (hn ▸ hy))
    refine ⟨channel.symm, fun usable clear ⟨s, hs, ht⟩ => ?_⟩
    obtain ⟨-, theirs, -⟩ := history.tenancy.listed l hl s hs ht
    have listed := history.tenancy.sound.subscription?_of_mem hs
    rcases cancel_cases found l.1.handle with ⟨-, -, hc⟩ | ⟨-, other, -⟩ | ⟨broken, -⟩
    · rw [hc]
      exact release_listed (w := w.note _) (channel ▸ usable) (channel ▸ clear) (ht ▸ listed)
        (theirs.trans channel.symm)
    · exact absurd channel.symm (other active)
    · cases sound.symm.trans broken

/-- Two consumers on one channel and a third on another; the first was cancelled and is started again. Its old
handle and those of the others are refused, and its new one is not. -/
theorem only_current_cancels_restarted : ∃ (log : List Reply) (w : Bench String Bytes), Replied log w ∧
    w.consumers.map (·.channel) = [⟨1⟩, ⟨1⟩, ⟨2⟩] ∧
    log.filterMap Reply.handle? = [(0, ⟨Broker.consumerTag 1, ⟨1⟩, "jobs"⟩),
      (1, ⟨Broker.consumerTag 2, ⟨1⟩, "jobs"⟩), (2, ⟨Broker.consumerTag 3, ⟨2⟩, "jobs"⟩),
      (0, ⟨Broker.consumerTag 4, ⟨1⟩, "jobs"⟩)] ∧
    (∀ h ∈ [⟨Broker.consumerTag 1, ⟨1⟩, "jobs"⟩, ⟨Broker.consumerTag 2, ⟨1⟩, "jobs"⟩,
        ⟨Broker.consumerTag 3, ⟨2⟩, "jobs"⟩],
      (w.cancel 0 h).2 = w ∧ ∃ text, (w.cancel 0 h).1 = .error (.subscriptionState text)) ∧
    (w.cancel 0 ⟨Broker.consumerTag 4, ⟨1⟩, "jobs"⟩).1 = .ok () := by
  let begin (n : Nat) : Occasion String Bytes :=
    .start n "jobs" Codec.bytesDecoder Codec.byMessageId .requeue none
  let os : List (Occasion String Bytes) := [.befell (.act .openChannel) rfl, .befell (.act .openChannel) rfl,
    .befell (.act (.declare "jobs")) rfl, .befell .newStore rfl, .befell (.newConsumer ⟨1⟩ 0 1) rfl,
    .befell (.newConsumer ⟨1⟩ 0 1) rfl, .befell (.newConsumer ⟨2⟩ 0 1) rfl, begin 0, begin 1, begin 2,
    .cancel 0 ⟨Broker.consumerTag 1, ⟨1⟩, "jobs"⟩, begin 0]
  let log := ({} : Bench String Bytes).replies os
  let w := ({} : Bench String Bytes).meetAll os
  let last : Handle := ⟨Broker.consumerTag 4, ⟨1⟩, "jobs"⟩
  have run : Replied log w := Replied.empty.all os
  have found : w.consumers[0]? = some ⟨⟨1⟩, 0, 1, ⟨some last, false⟩, {}⟩ := by decide +kernel
  have lock : replay 0 log = ⟨some last, false⟩ := by decide +kernel
  have calm : ¬ ∃ r ∈ log, r.panics 0 := by rw [← replay_poisoned, lock]; simp
  refine ⟨log, w, run, by decide +kernel, by decide +kernel, fun h hh => ?_, ?_⟩
  · have other : ¬ IsCurrent 0 h log := by
      rw [isCurrent_iff, lock]
      intro he
      cases he
      exact absurd hh (by decide +kernel)
    obtain ⟨same, refused | ⟨panicked, -⟩⟩ := (only_current_cancels run found h).2.1 other
    · exact ⟨same, refused⟩
    · exact absurd panicked calm
  · have mine : IsCurrent 0 last log := isCurrent_iff.2 (by rw [lock])
    obtain ⟨-, cancels⟩ := (only_current_cancels run found last).2.2.2.2 mine calm
    exact cancels (by decide +kernel) (by decide +kernel) (by decide +kernel)

end Bench
end QueueProbe
