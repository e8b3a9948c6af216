import QueueProbe.Proofs.Consumer.Dealings

/-! The books of a consumer. They are those that the log would have kept, and with no delivery in hand
they account for all of them: each was settled by one call, which was counted by what it was to do,
before it was made, and once more if it failed. -/

namespace QueueProbe

variable {K V : Type}

def Outcome.isError {ε α : Type} : Outcome ε α → Bool
  | error _ => true
  | ok _ | panic _ => false

/-- The books of consumer `n` as the log has them. -/
def books (n : Nat) (log : List (Mark K V)) : Stats where
  delivered := (verdicts (Seat.isOf n) log).length
  stored := (verdicts (Seat.isOf n) log).countP (·.requeue = none)
  rejected := (verdicts (Seat.isOf n) log).countP (·.requeue = some true)
  deadLettered := (verdicts (Seat.isOf n) log).countP (·.requeue = some false)
  transportFailures := (calls (Seat.isOf n) log).countP (·.2.isError)

section Books

variable {m : Mark K V} {v : Verdict K V} {answer : Outcome BrokerError Unit}

theorem books_quiet (judged : m.verdict? = none) (called : m.call? = none) (n : Nat)
    (log : List (Mark K V)) : books n (log ++ [m]) = books n log := by
  simp [books, verdicts, calls, judged, called]

theorem books_handled (judged : m.verdict? = some v) (called : m.call? = none) (n : Nat)
    (log : List (Mark K V)) : books n (log ++ [m]) =
      if v.seat.how.consumer = n then (books n log).handled v.requeue else books n log := by
  split
  · next hn =>
    rcases hr : v.requeue with _ | _ | _ <;>
      simp [books, verdicts, calls, judged, called, Seat.isOf, hn, hr, Stats.handled]
  · next hn => simp [books, verdicts, calls, judged, called, Seat.isOf, hn]

theorem books_called (v : Verdict K V) (answer : Outcome BrokerError Unit) (n : Nat)
    (log : List (Mark K V)) : books n (log ++ [.settled v answer]) =
      if answer.isError ∧ v.seat.how.consumer = n then (books n log).failed else books n log := by
  by_cases hn : v.seat.how.consumer = n <;> cases he : answer.isError <;>
    simp [books, verdicts, calls, Mark.verdict?, Mark.call?, Seat.isOf, hn, he, Stats.failed]

/-- Whatever was handled went into one of three accounts. -/
theorem books_sum (n : Nat) (log : List (Mark K V)) : (books n log).delivered =
    (books n log).stored + (books n log).rejected + (books n log).deadLettered := by
  simp only [books]
  induction verdicts (Seat.isOf n) log with
  | nil => rfl
  | cons v vs ih => rcases hr : v.requeue with _ | _ | _ <;> simp [hr, ih] <;> omega

end Books

namespace Scene

def statsOf (s : Scene K V) (n : Nat) : Stats := ((s.consumers[n]?).map (·.stats)).getD {}

variable {s : Scene K V} {x : Consumer}

theorem statsOf_tally {m : Nat} (hx : s.consumers[m]? = some x) (f : Stats → Stats) (n : Nat) :
    (s.tally m f).statsOf n = if m = n then f (s.statsOf n) else s.statsOf n := by
  simp only [statsOf, tally, List.getElem?_modify]
  by_cases hn : m = n
  · subst hn
    simp [hx]
  · simp [hn]

theorem statsOf_onActive (s : Scene K V) (m : Nat) (f : Lock (Option Handle) → Lock (Option Handle)) (n : Nat) :
    (s.onActive m f).statsOf n = s.statsOf n := by
  rw [statsOf, statsOf, consumers_onActive]
  split
  · cases s.consumers[n]? <;> rfl
  · rfl

theorem statsOf_enrolled (clean : x.stats = {}) (n : Nat) :
    ({ s with consumers := s.consumers ++ [x] } : Scene K V).statsOf n = s.statsOf n := by
  simp only [statsOf, List.getElem?_append]
  split
  · rfl
  · next hn =>
    rw [List.getElem?_eq_none (Nat.not_lt.1 hn)]
    cases n - s.consumers.length <;> simp [clean]

theorem statsOf_keep [DecidableEq K] (s : Scene K V) (m : Nat) (key : K) (v : Message V) (n : Nat) :
    (s.keep m key v).statsOf n = s.statsOf n := by
  rw [statsOf, statsOf, consumers_keep]

end Scene

variable [DecidableEq K] {log new : List (Mark K V)} {s s' : Scene K V}

theorem booked_step (h : Register log s) (e : Effect s new s') (booked : ∀ n, s.statsOf n = books n log)
    (n : Nat) : s'.statsOf n = books n (log ++ new) := by
  have own : ∀ {k : Clerk K V} (f : Stats → Stats), k ∈ s.crew → (s.tally k.how.consumer f).statsOf n =
      if k.how.consumer = n then f (books n log) else books n log := by
    intro k f hk
    obtain ⟨x, hx, -⟩ := h.tenancy.clerk hk
    rw [Scene.statsOf_tally hx, booked n]
  cases e with
  | still | stored | departed k =>
    rw [List.append_nil]
    exact booked n
  | enrolled x idle clean => rw [Scene.statsOf_enrolled clean, booked, List.append_nil]
  | spoiled m | forgot m => rw [Scene.statsOf_onActive, booked, List.append_nil]
  | acted a | took k d b =>
    rw [books_quiet rfl rfl, ← booked]
    rfl
  | joined f x =>
    rw [books_quiet rfl rfl, ← booked]
    exact Scene.statsOf_onActive _ _ _ n
  | filed k d key m found =>
    rw [books_handled rfl rfl, ← own (·.handled none) found, ← Scene.keep_tally]
    exact Scene.statsOf_keep (s.tally k.how.consumer (·.handled none)) _ key m n
  | refused k d why found =>
    rw [books_handled rfl rfl]
    exact own (·.handled (some (k.how.policy.keeps d.count.toNat))) found
  | failed k d r why found =>
    rw [books_called]
    simp only [Outcome.isError, true_and]
    exact own (·.failed) found
  | settled k d r u | crashed k d r cause =>
    rw [books_called, if_neg (by simp [Outcome.isError]), ← booked]
    rfl

theorem Bench.History.booked [Debug K] {w : Bench K V} (h : Bench.History log w) (n : Nat) :
    w.statsOf n = books n log :=
  h.grow (P := fun log s => ∀ n, s.statsOf n = books n log) (fun _ => rfl) booked_step n

/-! What the broker has of acks and rejects. -/

/-- The settle calls that did what they were to do, by consumers with these tags. -/
def honoured (p : ConsumerTag → Bool) (log : List (Mark K V)) : List (Delivery × Option Bool) :=
  ((calls (fun s => p s.tag) log).filter (·.2 = .ok ())).map fun x => (x.1.delivery, x.1.requeue)

omit [DecidableEq K] in
theorem honoured_append (p : ConsumerTag → Bool) (log new : List (Mark K V)) :
    honoured p (log ++ new) = honoured p log ++ honoured p new := by
  simp [honoured, calls_append]

omit [DecidableEq K] in
theorem Register.given (h : Register log s) {l : Seat K V × Nat} (hl : l ∈ leases log) {v : Verdict K V}
    (hv : v ∈ verdicts (Seat.hasTag l.1.tag) log) : ∃ r, .delivered r v.delivery ∈ story log ∧
      r.tag = l.1.tag ∧ r.queue = l.1.how.queue ∧ r.channel = l.1.channel := by
  have taken : v.taking ∈ takings (Seat.hasTag l.1.tag) log := by
    rw [(h.handed (solitary_hasTag l.1.tag)).taken]
    exact List.mem_append_left _ (List.mem_map_of_mem hv)
  have received : v.delivery ∈ Broker.received l.1.tag (story log) := by
    rw [h.dealt.received _ hl]
    exact List.mem_map.2 ⟨_, taken, rfl⟩
  obtain ⟨r, hr, ht⟩ := Broker.mem_received.1 received
  exact ⟨r, hr, ht, h.dealt.placed l hl r _ hr ht⟩

omit [DecidableEq K] in
theorem Register.entry (h : Register log s) {k : Clerk K V} {d : Delivery} {r : Option Bool} {u : Unacked}
    (hk : k ∈ s.crew) (due : k.phase = .settling d r) (hu : u ∈ s.broker.unacked) (ht : u.tag = d.tag) :
    Broker.told u = d ∧ u.consumer = k.tag := by
  obtain ⟨q, hl⟩ := h.tenancy.leased k hk
  have working := (onDuty_iff (solitary_hasTag k.tag) h.tenancy).2 ⟨hk, decide_eq_true rfl⟩
  have judged : ⟨k.toSeat, d, r⟩ ∈ verdicts (Seat.hasTag k.tag) log := by
    rw [(h.handed (solitary_hasTag k.tag)).judged, dueAt, working]
    simp [Clerk.due, due]
  obtain ⟨r, hd, hr, -⟩ := h.given hl judged
  rw [h.tenancy.broker] at hu
  obtain ⟨r', hu, hr', -⟩ := (story_run log).origin hu
  obtain ⟨rfl, same⟩ := (story_run log).delivered_unique hu hd ht
  exact ⟨same, hr'.symm.trans hr⟩

theorem settlements_append (p : ConsumerTag → Bool) (es fs : List Broker.Event) :
    Broker.settlements p (es ++ fs) = Broker.settlements p es ++ Broker.settlements p fs :=
  List.filterMap_append

theorem settlements_deliver (p : ConsumerTag → Bool) (b : Broker) (t : ConsumerTag) :
    Broker.settlements p (b.events (.deliver t)) = [] := by
  simp only [Broker.events]
  split <;> rfl

theorem settlements_filter (p : ConsumerTag → Bool) (es : List Broker.Event) :
    Broker.settlements p (es.filter fun e => (e.settlement p).isSome) = Broker.settlements p es := by
  induction es with
  | nil => rfl
  | cons e es ih =>
    simp only [Broker.settlements] at ih
    cases h : e.settlement p <;> simp [Broker.settlements, h, ih]

variable {p : ConsumerTag → Bool}

theorem settlements_step (h : Register log s) (e : Effect s new s') (p : ConsumerTag → Bool) :
    Broker.settlements p (story (log ++ new)) = Broker.settlements p (story log) ++ honoured p new ++
      Broker.settlements p (intrusions p (Broker.after (acts log)) new) := by
  cases e with
  | still | stored | enrolled x | spoiled m | forgot m | departed k =>
    rw [List.append_nil]
    simp [honoured, calls, intrusions, Broker.settlements]
  | acted a =>
    rw [story_act rfl, settlements_append, intrusions, Mark.intrusion, intrusions, List.append_nil,
      settlements_filter]
    simp [honoured, calls, Mark.call?]
  | joined f x =>
    rw [story_act rfl, settlements_append]
    exact (List.append_nil _).symm
  | took k d b =>
    rw [story_act rfl, settlements_append, settlements_deliver]
    exact (List.append_nil _).symm
  | filed k d key m | refused k d why =>
    rw [story_quiet rfl]
    simp [honoured, calls, intrusions, Mark.intrusion, Mark.call?, Broker.settlements]
  | settled k d r u found due usable entry tag channel =>
    obtain ⟨hd, hc⟩ := h.entry found due (List.mem_of_find?_eq_some entry) tag
    have told : (Broker.after (acts log)).events (.settle k.channel d.tag r) =
        [r.elim (.acked u) (.rejected u)] := by
      rw [← h.tenancy.broker, ← channel, ← tag]
      exact Broker.events_settle usable entry r
    have new : Broker.settlements p [r.elim (.acked u) (.rejected u)] =
        honoured p [.settled ⟨k.toSeat, d, r⟩ (.ok ())] := by
      cases hp : p k.tag <;> cases r <;>
        simp [Broker.settlements, Broker.Event.settlement, honoured, calls, Mark.call?, hc, hd, hp]
    rw [story_act rfl, settlements_append, told, new]
    exact (List.append_nil _).symm
  | failed k d r why | crashed k d r cause =>
    rw [story_quiet rfl]
    simp [honoured, calls, intrusions, Mark.intrusion, Mark.call?, Broker.settlements]

theorem Bench.History.honoured_sublist [Debug K] {w : Bench K V} (h : Bench.History log w)
    (p : ConsumerTag → Bool) : (honoured p log).Sublist (Broker.settlements p (story log)) := by
  refine h.grow (P := fun log _ => (honoured p log).Sublist (Broker.settlements p (story log))) (.refl _) ?_
  intro log new s s' register e ih
  rw [settlements_step register e, honoured_append]
  exact (ih.append (List.Sublist.refl _)).trans (List.sublist_append_left _ _)

theorem Bench.History.settlements [Debug K] {w : Bench K V} (h : Bench.History log w) (alone : Alone p log) :
    Broker.settlements p (story log) = honoured p log := by
  refine h.grow (P := fun log _ => Alone p log → Broker.settlements p (story log) = honoured p log)
    (fun _ => rfl) ?_ alone
  intro log new s s' register e ih alone
  rw [Alone, intrusions_append, List.append_eq_nil_iff] at alone
  have none : intrusions p (Broker.after (acts log)) new = [] := alone.2
  rw [settlements_step register e, honoured_append, none, ih alone.1]
  exact List.append_nil _

/-- Whether the tag is of a subscription of consumer `n`. -/
def serves (n : Nat) (log : List (Mark K V)) (t : ConsumerTag) : Bool :=
  (leases log).any fun l => l.1.isOf n && l.1.tag = t

namespace Register

omit [DecidableEq K]

theorem serves_seat (h : Register log s) {l : Seat K V × Nat} (hl : l ∈ leases log) (n : Nat) :
    serves n log l.1.tag = l.1.isOf n := by
  rw [Bool.eq_iff_iff]
  simp only [serves, List.any_eq_true, Bool.and_eq_true, decide_eq_true_eq]
  constructor
  · rintro ⟨l', hl', hn, ht⟩
    rwa [h.tenancy.sole hl hl' ht.symm]
  · intro hn
    exact ⟨l, hl, hn, rfl⟩

theorem seat_of_call (h : Register log s) {x : Verdict K V × Outcome BrokerError Unit}
    (hx : x ∈ log.filterMap Mark.call?) : ∃ p, (x.1.seat, p) ∈ leases log := by
  obtain ⟨m, hm, hmx⟩ := List.mem_filterMap.1 hx
  cases m with
  | settled v answer =>
    obtain rfl := Option.some.inj hmx
    exact h.dealt.seated _ hm _ rfl
  | _ => cases hmx

theorem calls_congr (h : Register log s) {q q' : Seat K V → Bool}
    (same : ∀ l ∈ leases log, q l.1 = q' l.1) : calls q log = calls q' log := by
  refine List.filter_congr fun x hx => ?_
  obtain ⟨p, hp⟩ := h.seat_of_call hx
  exact same _ hp

/-- With no worker at some seats at work, all that was given there was settled. -/
theorem at_rest (h : Register log s) {q : Seat K V → Bool} (single : Solitary q)
    (free : ∀ k ∈ s.crew, q k.toSeat = true → k.phase = .idle) :
    takings q log = (calls q log).map (·.1.taking) ∧ verdicts q log = (calls q log).map (·.1) := by
  have handed := h.handed single
  have none : heldAt q s.crew = [] ∧ dueAt q s.crew = [] := by
    unfold heldAt dueAt
    cases hk : onDuty q s.crew with
    | none => exact ⟨rfl, rfl⟩
    | some k =>
      obtain ⟨hmem, hq⟩ := (onDuty_iff single h.tenancy).1 hk
      simp [Clerk.held, Clerk.due, free k hmem hq]
  have judged := handed.judged
  rw [none.2, List.append_nil] at judged
  refine ⟨?_, judged⟩
  rw [handed.taken, none.1, List.append_nil, judged, List.map_map]
  rfl

end Register

omit [DecidableEq K] in
theorem calls_filter (q q' : Seat K V → Bool) (log : List (Mark K V)) :
    (calls q log).filter (fun x => q' x.1.seat) = calls (fun s => q s && q' s) log := by
  rw [calls, List.filter_filter]
  refine List.filter_congr fun x _ => ?_
  rw [Bool.and_comm]

/-- No worker of consumer `n` is at work. -/
def Bench.Unoccupied (w : Bench K V) (n : Nat) : Prop :=
  ∀ k ∈ w.workers, ∀ f, k.duty = .filing f → f.consumer = n → k.phase = .idle

omit [DecidableEq K] in
theorem Bench.Unoccupied.clerk {w : Bench K V} {n : Nat} (h : w.Unoccupied n) {k : Clerk K V}
    (hk : k ∈ w.scene.crew) (hn : k.toSeat.isOf n = true) : k.phase = .idle := by
  obtain ⟨j, hj, duty, -, -, hp⟩ := clerk_of_mem hk
  rw [← hp]
  exact h j hj _ duty (of_decide_eq_true hn)

omit [DecidableEq K] in
theorem Bench.Unoccupied.of_idle {w : Bench K V} (h : ∀ p ∈ w.workers.map (·.phase), p = .idle) (n : Nat) :
    w.Unoccupied n := fun _ hk _ _ _ => h _ (List.mem_map_of_mem hk)

omit [DecidableEq K] in
/-- What was given to one subscription was settled, delivery by delivery, once its worker is not at work. -/
theorem Register.received_called (h : Register log s) {l : Seat K V × Nat} (hl : l ∈ leases log)
    (free : ∀ k ∈ s.crew, k.tag = l.1.tag → k.phase = .idle) : Broker.received l.1.tag (story log) =
      (calls (Seat.hasTag l.1.tag) log).map (·.1.delivery) := by
  have rest := (h.at_rest (solitary_hasTag l.1.tag) fun k hk ht => free k hk (of_decide_eq_true ht)).1
  rw [h.dealt.received l hl, rest, List.map_map]
  rfl

omit [DecidableEq K] in
theorem Register.resting (h : Register log s) {n : Nat}
    (free : ∀ k ∈ s.crew, k.toSeat.isOf n = true → k.phase = .idle) {l : Seat K V × Nat} (hl : l ∈ leases log)
    (hn : l.1.how.consumer = n) : ∀ k ∈ s.crew, k.tag = l.1.tag → k.phase = .idle := by
  intro k hk ht
  obtain ⟨p, hp⟩ := h.tenancy.leased k hk
  have same := h.tenancy.sole hp hl ht
  refine free k hk (decide_eq_true ?_)
  rw [← hn, ← same]

omit [DecidableEq K] in
theorem Register.calls_of_lease (h : Register log s) {l : Seat K V × Nat} (hl : l ∈ leases log) :
    (calls (Seat.isOf l.1.how.consumer) log).filter (·.1.seat.tag = l.1.tag) =
      calls (Seat.hasTag l.1.tag) log := by
  refine (calls_filter (Seat.isOf l.1.how.consumer) (Seat.hasTag l.1.tag) log).trans
    (h.calls_congr fun l' hl' => ?_)
  by_cases ht : l'.1.tag = l.1.tag
  · rw [h.tenancy.sole hl' hl ht]
    simp [Seat.isOf, Seat.hasTag]
  · simp [Seat.hasTag, ht]

namespace Bench

variable [Debug K] {w : Bench K V}

/-- After every run, with consumer `n` not at work, its books balance: what was delivered was stored,
rejected or given up; each delivery was settled by one call, which was an ack, a reject with requeue or
one without by what the books have of it, and the failures are the calls that came back with an error.
If no call failed and nobody else settled, the books are what the broker has of acks and dead letters. -/
theorem books_balance (h : History log w) (n : Nat) (free : w.Unoccupied n) :
    let stats := w.statsOf n
    let made := calls (Seat.isOf n) log
    stats.delivered = stats.stored + stats.rejected + stats.deadLettered ∧
    stats.transportFailures = made.countP (·.2.isError) ∧
    stats.stored = (made.filter (·.1.requeue = none)).countP (·.2 = .ok ()) +
      (made.filter (·.1.requeue = none)).countP (·.2 ≠ .ok ()) ∧
    stats.rejected = made.countP (·.1.requeue = some true) ∧
    stats.deadLettered = made.countP (·.1.requeue = some false) ∧
    (∀ l ∈ leases log, l.1.how.consumer = n →
      Broker.received l.1.tag (story log) =
        (made.filter (·.1.seat.tag = l.1.tag)).map (·.1.delivery) ∧
      (Broker.received l.1.tag (story log)).Pairwise (·.tag < ·.tag)) ∧
    ((∀ x ∈ made, x.2 = .ok ()) → Alone (serves n log) log →
      stats.stored = (Broker.settlements (serves n log) (story log)).countP (·.2 = none) ∧
      stats.deadLettered = (Broker.settlements (serves n log) (story log)).countP (·.2 = some false)) := by
  intro stats made
  have register := h.register
  have judged := (register.at_rest (solitary_isOf n) fun k hk hn => free.clerk hk hn).2
  have booked : stats = books n log := h.booked n
  have counted : ∀ r : Option Bool, (verdicts (Seat.isOf n) log).countP (·.requeue = r) =
      made.countP (·.1.requeue = r) := by
    intro r
    rw [judged, List.countP_map]
    rfl
  refine ⟨?_, ?_, ?_, ?_, ?_, ?_, ?_⟩
  · rw [booked]
    exact books_sum n log
  · rw [booked]
    rfl
  · have stored : stats.stored = (made.filter (·.1.requeue = none)).length := by
      rw [booked, ← List.countP_eq_length_filter]
      exact counted none
    rw [stored, List.length_eq_countP_add_countP (p := fun x => decide (x.2 = .ok ()))]
    simp
  · rw [booked]
    exact counted _
  · rw [booked]
    exact counted _
  · intro l hl hn
    have resting := register.resting (fun k hk hn => free.clerk hk hn) hl hn
    subst hn
    refine ⟨?_, (story_run log).received_rising _⟩
    rw [register.calls_of_lease hl]
    exact register.received_called hl resting
  · intro clean alone
    have same : calls (fun s => serves n log s.tag) log = made :=
      register.calls_congr fun l hl => register.serves_seat hl n
    have kept : made.filter (·.2 = .ok ()) = made :=
      List.filter_eq_self.2 fun x hx => decide_eq_true (clean x hx)
    have all : ∀ r : Option Bool, (Broker.settlements (serves n log) (story log)).countP (·.2 = r) =
        made.countP (·.1.requeue = r) := by
      intro r
      rw [h.settlements alone, honoured, same, kept, List.countP_map]
      rfl
    rw [all, all, booked]
    exact ⟨counted _, counted _⟩

def post (queue : String) (body : UInt8) (id : Option String) : Happening String Bytes :=
  .act (.send ⟨1⟩ queue ⟨[body], { messageId := id }⟩)

def subscribing (consumer : Nat) (queue : String) (deliveries : Nat) : Happening String Bytes :=
  .start consumer queue Codec.bytesDecoder Codec.byMessageId (.deadLetterAfter deliveries) none

def faulting (c : ChannelId) (call : Call) (f : Option Fault) : Happening String Bytes :=
  .aside fun w => w.setFault c call f

/-- One consumer has an ack refused, puts a body back, panics in an ack and is started again to give the
body up; another one files and gives up undisturbed. -/
theorem books_balance_interrupted : ∃ (log : List (Mark String Bytes)) (w : Bench String Bytes),
    w.statsOf 0 = ⟨4, 2, 1, 1, 1⟩ ∧
    (calls (Seat.isOf 0) log).map (·.2) = [.error (.transport "ack refused"), .ok (),
      .panic (.message "ack panicked"), .ok ()] ∧
    (w.statsOf 0).transportFailures = (calls (Seat.isOf 0) log).countP (·.2.isError) ∧
    w.statsOf 1 = ⟨2, 1, 0, 1, 0⟩ ∧
    (w.statsOf 1).stored = (Broker.settlements (serves 1 log) (story log)).countP (·.2 = none) := by
  let t (n : Nat) : Happening String Bytes := .work (Broker.consumerTag n)
  let hs : List (Happening String Bytes) := [.act .openChannel, .act .openChannel, .act (.declare "jobs"),
    .act (.declare "mail"), .newStore, .newConsumer ⟨1⟩ 0 2, .newConsumer ⟨2⟩ 0 1, post "jobs" 1 (some "a"),
    post "jobs" 2 none, post "jobs" 3 (some "c"), post "mail" 4 (some "d"), post "mail" 5 none,
    subscribing 0 "jobs" 2, faulting ⟨1⟩ .ack (some .refuse), t 1, t 1, t 1, t 1, t 1, t 1,
    faulting ⟨1⟩ .ack (some .crash), t 1, t 1, t 1, .act (.unsubscribe ⟨1⟩ (Broker.consumerTag 1)), .forget 0,
    subscribing 0 "jobs" 2, t 2, t 2, t 2, subscribing 1 "mail" 0, t 3, t 3, t 3, t 3, t 3, t 3]
  have free : ∀ p ∈ (({} : Bench String Bytes).undergoAll hs).workers.map (·.phase), p = .idle := by
    decide +kernel
  have clean : (calls (Seat.isOf 1) (({} : Bench String Bytes).chronicle hs)).map (·.2) = [.ok (), .ok ()] := by
    decide +kernel
  have run : History (({} : Bench String Bytes).chronicle hs) (({} : Bench String Bytes).undergoAll hs) :=
    sequel_all {} hs
  have balance := (books_balance run 1 (.of_idle free 1)).2.2.2.2.2.2 ?_ ?_
  · refine ⟨_, _, ?_, ?_, (books_balance run 0 (.of_idle free 0)).2.1, ?_, balance.1⟩ <;> decide +kernel
  · intro x hx
    have := List.mem_map_of_mem (f := Prod.snd) hx
    simpa [clean] using this
  · decide +kernel

end Bench
end QueueProbe
