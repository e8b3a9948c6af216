import QueueProbe.Proofs.Consumer.Accounts

/-! Stalling. What a subscription has in flight, once nothing is in hand, are the deliveries whose settle
call failed: each takes up room as long as the subscription lives. So it stalls when there are as many of
them as its prefetch. There are two more ways: a settle call that panics takes the worker with it, and a
worker can be passed by as the connection comes back. -/

namespace QueueProbe

variable {K V : Type}

namespace Broker

variable {b : Broker} {s : Subscription} {t : ConsumerTag}

/-- With something to deliver, room is all that a subscription needs whose dispatcher is awake. -/
theorem deliver_isSome_iff (found : b.subscription? s.tag = some s) (up : b.connected = true)
    (awake : b.missed ≠ some s.tag) (ready : b.readyOf s.queue ≠ []) :
    (b.deliver s.tag).isSome = true ↔ s.hasCapacity = true := by
  constructor
  · intro h
    obtain ⟨a, ha⟩ := Option.isSome_iff_exists.1 h
    obtain ⟨r, -, -, -, hr, -, room, -⟩ := deliver_eq ha
    rwa [Option.some.inj (found.symm.trans hr)]
  · intro room
    obtain ⟨e, rest, front⟩ := List.exists_cons_of_ne_nil ready
    rw [deliver_some found up room awake front]
    rfl

theorem missed_declareQueue (b : Broker) (q : String) : (b.declareQueue q).2.missed = b.missed := by
  unfold declareQueue
  split
  · rfl
  · split <;> rfl

/-- A dispatcher is passed by only as the connection is set, and whatever others are told of wakes it. -/
theorem missed_act (b : Broker) (a : Act) :
    (b.act a).missed = b.missed ∨ (b.act a).missed = none ∨
      ∃ up t, a = .connect up (some t) ∧ (b.act a).missed = some t := by
  cases a with
  | connect up late =>
    cases ht : (b.act (.connect up late)).missed with
    | none => exact Or.inr (Or.inl rfl)
    | some t =>
      obtain ⟨rfl, -⟩ := Option.filter_eq_some_iff.1 ht
      exact Or.inr (Or.inr ⟨up, t, rfl, rfl⟩)
  | declare q => exact Or.inl (b.missed_declareQueue q)
  | declareAnonymous =>
    have h := missed_declareQueue { b with nextAnonymous := b.nextAnonymous + 1 } (anonymousName b.nextAnonymous)
    refine Or.inl ?_
    simp only [act, declareAnonymousQueue]
    split <;> next he => rw [he] at h; exact h
  | openChannel =>
    refine Or.inl ?_
    simp only [act, openChannel]
    split <;> rfl
  | send c q l =>
    rcases b.send_cases c q l with ⟨-, -, h⟩ | ⟨e, h⟩ <;> simp [act, h, posted]
  | subscribe c q n unstarted =>
    rcases b.subscribe_cases c q n unstarted with ⟨-, -, -, h⟩ | ⟨e, k, h⟩ <;> simp [act, h, joined]
  | unsubscribe c t =>
    rcases b.unsubscribe_cases c t with ⟨s, -, -, -, h⟩ | ⟨e, h⟩ <;> simp [act, h, left]
  | deliver t =>
    cases h : b.deliver t with
    | none => simp [act, h]
    | some a =>
      obtain ⟨s, x, e, rest, -, -, -, -, -, -, hb⟩ := deliver_eq h
      refine Or.inl ?_
      simp only [act, h, Option.map_some, Option.getD_some, hb]
      rfl
  | ack c n =>
    rcases b.ack_cases c n with ⟨u, -, -, -, h⟩ | ⟨e, h⟩ <;> simp [act, h, settled]
  | reject c n r =>
    rcases b.reject_cases c n r with ⟨u, -, -, -, h⟩ | ⟨e, h⟩
    · exact Or.inr (Or.inl (congrArg (·.2.missed) h))
    · simp [act, h]
  | close c =>
    cases hc : b.isClosed c with
    | true => simp [act, closeChannel, hc]
    | false => simp [act, closeChannel_open hc, shut]

theorem missed_after {as : List Act} (prompt : ∀ up t, .connect up (some t) ∉ as) : (after as).missed = none := by
  induction as using List.reverseRecOn with
  | nil => rfl
  | append_singleton as a ih =>
    have before := ih fun up t hm => prompt up t (List.mem_append_left _ hm)
    rw [after_snoc]
    rcases missed_act (after as) a with h | h | ⟨up, t, rfl, -⟩
    · rw [h, before]
    · exact h
    · exact absurd (List.mem_append_right _ (List.mem_singleton_self _)) (prompt up t)

/-- As long as nothing of a consumer's was put back with its channel, what it has no longer was settled. -/
theorem ended_settlements {es : List Event} (kept : ∀ u, .restored u ∈ es → u.consumer ≠ t) :
    (ended t es).map told = (settlements (· = t) es).map (·.1) := by
  induction es with
  | nil => rfl
  | cons e es ih =>
    have ih := ih fun u hu => kept u (List.mem_cons_of_mem _ hu)
    simp only [ended, settlements] at ih
    cases e with
    | restored u =>
      have hu : u.consumer ≠ t := kept u List.mem_cons_self
      simpa [ended, settlements, List.filterMap_cons, Event.entry?, Event.settlement, hu] using ih
    | sent q l | delivered r d =>
      simpa [ended, settlements, List.filterMap_cons, Event.entry?, Event.settlement] using ih
    | acked u | rejected u k =>
      by_cases hu : u.consumer = t <;>
        simpa [ended, settlements, List.filterMap_cons, Event.entry?, Event.settlement, hu] using ih

end Broker

def Outcome.isPanic {ε α : Type} : Outcome ε α → Bool
  | panic _ => true
  | ok _ | error _ => false

/-- No settle call of the worker of subscription `t` has panicked. -/
def Unbroken (t : ConsumerTag) (log : List (Mark K V)) : Prop :=
  ∀ x ∈ calls (Seat.hasTag t) log, x.2.isPanic = false

instance (t : ConsumerTag) (log : List (Mark K V)) : Decidable (Unbroken t log) :=
  inferInstanceAs (Decidable (∀ x ∈ calls (Seat.hasTag t) log, x.2.isPanic = false))

theorem Unbroken.append {t : ConsumerTag} {log new : List (Mark K V)} :
    Unbroken t (log ++ new) ↔ Unbroken t log ∧ Unbroken t new := by
  simp only [Unbroken, calls_append, List.mem_append]
  constructor
  · intro h
    exact ⟨fun x hx => h x (Or.inl hx), fun x hx => h x (Or.inr hx)⟩
  · rintro ⟨h, h'⟩ x (hx | hx)
    · exact h x hx
    · exact h' x hx

section Marks

variable {m : Mark K V} {v : Verdict K V} {answer : Outcome BrokerError Unit} {t : ConsumerTag}

theorem unbroken_quiet (uncalled : m.call? = none) (t : ConsumerTag) : Unbroken t [m] := by
  simp [Unbroken, calls, uncalled]

theorem unbroken_called : Unbroken t [.settled v answer] ↔ (v.seat.tag = t → answer.isPanic = false) := by
  simp [Unbroken, calls, Mark.call?, Seat.hasTag]

theorem unbroken_calm (calm : answer.isPanic = false) (t : ConsumerTag) : Unbroken t [.settled v answer] :=
  unbroken_called.2 fun _ => calm

end Marks

/-- A subscription has its worker, unless a panic took it. -/
structure Attended (log : List (Mark K V)) (s : Scene K V) : Prop where
  present : ∀ l ∈ leases log, (∃ r ∈ s.broker.subscriptions, r.tag = l.1.tag) → Unbroken l.1.tag log →
    ∃ k ∈ s.crew, k.tag = l.1.tag
  whole : ∀ k ∈ s.crew, Unbroken k.tag log

namespace Attended

variable {log new : List (Mark K V)} {s s' : Scene K V}

theorem empty : Attended [] ({} : Bench K V).scene := by constructor <;> simp [leases, Bench.scene]

theorem keep (h : Attended log s) (lease : leases new = []) (calm : ∀ t, Unbroken t new)
    (subscribed : ∀ l ∈ leases log, (∃ r ∈ s'.broker.subscriptions, r.tag = l.1.tag) →
      ∃ r ∈ s.broker.subscriptions, r.tag = l.1.tag)
    (crew : s'.crew.map (·.tag) = s.crew.map (·.tag)) : Attended (log ++ new) s' := by
  have same : ∀ t, (∃ k ∈ s'.crew, k.tag = t) ↔ ∃ k ∈ s.crew, k.tag = t := by
    intro t
    rw [← List.mem_map, crew, List.mem_map]
  constructor
  · intro l hl live unbroken
    rw [leases_append, lease, List.append_nil] at hl
    exact (same _).2 (h.present l hl (subscribed l hl live) (Unbroken.append.1 unbroken).1)
  · intro k hk
    obtain ⟨j, hj, ht⟩ := (same k.tag).1 ⟨k, hk, rfl⟩
    exact Unbroken.append.2 ⟨ht ▸ h.whole j hj, calm k.tag⟩

theorem dismiss (h : Attended log s) (t : ConsumerTag) (lease : leases new = [])
    (calm : ∀ t', t' ≠ t → Unbroken t' new)
    (reason : (∃ r ∈ s.broker.subscriptions, r.tag = t) → ¬ Unbroken t new) :
    Attended (log ++ new) (s.dismiss t) := by
  constructor
  · intro l hl live unbroken
    rw [leases_append, lease, List.append_nil] at hl
    obtain ⟨before, after⟩ := Unbroken.append.1 unbroken
    by_cases ht : l.1.tag = t
    · rw [ht] at live after
      exact absurd after (reason live)
    · obtain ⟨k, hk, hkt⟩ := h.present l hl live before
      exact ⟨k, List.mem_filter.2 ⟨hk, by simpa [hkt] using ht⟩, hkt⟩
  · intro k hk
    obtain ⟨hk, ht⟩ := List.mem_filter.1 hk
    exact Unbroken.append.2 ⟨h.whole k hk, calm _ (by simpa using ht)⟩

theorem joined (h : Attended log s) (register : Register log s) (x : Consumer) (f : Filing K V) :
    Attended (log ++ [.joined (s.nextSeat x f) x.prefetch]) (s.join x f) := by
  constructor
  · intro l hl live unbroken
    rw [leases_append] at hl
    rcases List.mem_append.1 hl with hl | hl
    · obtain ⟨r, hr, ht⟩ := live
      have old : r ∈ s.broker.subscriptions := by
        rcases List.mem_append.1 hr with hr | hr
        · exact hr
        · rw [List.mem_singleton.1 hr] at ht
          exact absurd ht.symm (register.tenancy.fresh hl)
      obtain ⟨k, hk, hkt⟩ := h.present l hl ⟨r, old, ht⟩ (Unbroken.append.1 unbroken).1
      exact ⟨k, List.mem_append_left _ hk, hkt⟩
    · obtain rfl := List.mem_singleton.1 hl
      exact ⟨_, List.mem_append_right _ (List.mem_singleton_self _), rfl⟩
  · intro k hk
    refine Unbroken.append.2 ⟨?_, unbroken_quiet rfl _⟩
    rcases List.mem_append.1 hk with hk | hk
    · exact h.whole k hk
    · rw [List.mem_singleton.1 hk]
      intro y hy
      -- nobody has called yet under a tag that is issued only now
      obtain ⟨hy, ht⟩ := List.mem_filter.1 hy
      obtain ⟨p, hp⟩ := register.seat_of_call hy
      exact absurd (of_decide_eq_true ht) (register.tenancy.fresh hp)

theorem step [DecidableEq K] (register : Register log s) (e : Effect s new s') (h : Attended log s) :
    Attended (log ++ new) s' := by
  cases e with
  | still | stored | enrolled x | spoiled n | forgot n =>
    exact h.keep rfl (by simp [Unbroken, calls]) (fun _ _ live => live) rfl
  | acted a => exact h.keep rfl (unbroken_quiet rfl) (fun _ hl => register.tenancy.subscribed_act a hl) rfl
  | joined f x => exact h.joined register x f
  | took k d b found free delivered =>
    have hb : s.broker.act (.deliver k.tag) = b := by simp [Broker.act, delivered]
    refine h.keep rfl (unbroken_quiet rfl) (fun l hl live => ?_) (s.tags_setPhase _ _)
    exact register.tenancy.subscribed_act (.deliver k.tag) hl (hb ▸ live)
  | filed k d key m =>
    have kept := s.crew_keep k.how.consumer key m
    refine h.keep rfl (unbroken_quiet rfl) (fun l hl live => s.broker_keep k.how.consumer key m ▸ live) ?_
    exact (congrArg (List.map _ ∘ List.map _) kept).trans (s.tags_setPhase _ _)
  | refused k d why => exact h.keep rfl (unbroken_quiet rfl) (fun _ _ live => live) (s.tags_setPhase _ _)
  | settled k d r u =>
    exact h.keep rfl (unbroken_calm rfl) (fun _ hl => register.tenancy.subscribed_act _ hl) (s.tags_setPhase _ _)
  | failed k d r why => exact h.keep rfl (unbroken_calm rfl) (fun _ _ live => live) (s.tags_setPhase _ _)
  | crashed k d r cause =>
    refine h.dismiss k.tag rfl (fun t ht => ?_) fun _ unbroken => ?_
    · exact unbroken_called.2 fun hk => absurd hk.symm ht
    · exact Bool.noConfusion (unbroken_called.1 unbroken rfl)
  | departed k found free gone =>
    refine h.dismiss k.tag rfl (fun t _ => by simp [Unbroken, calls]) ?_
    rintro ⟨r, hr, ht⟩
    exact absurd (decide_eq_true ht) (List.find?_eq_none.1 gone r hr)

end Attended

theorem Bench.History.attended [DecidableEq K] [Debug K] {log : List (Mark K V)} {w : Bench K V}
    (h : Bench.History log w) : Attended log w.scene := h.grow .empty Attended.step

namespace Register

variable {log : List (Mark K V)} {s : Scene K V} {l : Seat K V × Nat} {r : Subscription}

theorem unrestored (h : Register log s) (hl : l ∈ leases log) (hr : r ∈ s.broker.subscriptions)
    (ht : r.tag = l.1.tag) : ∀ u, .restored u ∈ story log → u.consumer ≠ l.1.tag := by
  intro u hu hc
  have run := story_run log
  obtain ⟨y, hy, hyt, -, hyc⟩ := run.ended_origin hu rfl
  obtain ⟨-, placed⟩ := h.dealt.placed l hl y _ hy (hyt.trans hc)
  obtain ⟨-, channel, -⟩ := h.tenancy.listed l hl r hr ht
  have closed := run.restored_closed hu
  have still := run.attached.subscriptions r (h.tenancy.broker ▸ hr)
  rw [← hyc, placed, ← channel, still] at closed
  cases closed

end Register

namespace Bench

variable [DecidableEq K] [Debug K] {log : List (Mark K V)} {w : Bench K V} {l : Seat K V × Nat}
  {r : Subscription} {n : Nat}

/-- The settle calls for the deliveries of a subscription that came to nothing. -/
def lost (t : ConsumerTag) (log : List (Mark K V)) : Nat := (calls (Seat.hasTag t) log).countP (·.2 ≠ .ok ())

theorem History.inFlight_eq (h : History log w) (hl : l ∈ leases log)
    (live : w.broker.subscription? l.1.tag = some r) (alone : Alone (· = l.1.tag) log)
    (free : ∀ k ∈ w.scene.crew, k.tag = l.1.tag → k.phase = .idle) : r.inFlight = lost l.1.tag log := by
  have register := h.register
  have hb : w.broker = Broker.after (acts log) := register.tenancy.broker
  have run := story_run log
  have hr := List.mem_of_find?_eq_some live
  have ht := Broker.subscription?_tag live
  have counted : r.inFlight = w.broker.load l.1.tag := by
    rw [← ht, hb]
    exact run.accounted.counted r (hb ▸ hr)
  have settled : (Broker.ended l.1.tag (story log)).length =
      (calls (Seat.hasTag l.1.tag) log).countP (·.2 = .ok ()) := by
    have honest := congrArg List.length (Broker.ended_settlements (register.unrestored hl hr ht))
    rw [h.settlements alone, List.length_map, List.length_map, honoured, List.length_map,
      ← List.countP_eq_length_filter] at honest
    exact honest
  have total := run.load_add l.1.tag
  have all := List.length_eq_countP_add_countP (fun x => decide (x.2 = .ok ()))
    (l := calls (Seat.hasTag l.1.tag) log)
  rw [register.received_called hl free, List.length_map, settled, ← hb] at total
  simp only [lost, decide_not, ne_eq, decide_eq_true_eq] at all ⊢
  omega

/-- Whether the worker of a subscription can go on is up to the broker, unless a panic took it. -/
theorem History.advance_isSome (h : History log w) (free : w.Unoccupied n) (hl : l ∈ leases log)
    (hn : l.1.how.consumer = n) (live : w.broker.subscription? l.1.tag = some r) :
    (w.advance l.1.tag).isSome = true ↔
      Unbroken l.1.tag log ∧ (w.broker.deliver l.1.tag).isSome = true := by
  have register := h.register
  have attended := h.attended
  have staffed := Sequel.staffed h rfl
  have hr := List.mem_of_find?_eq_some live
  have ht := Broker.subscription?_tag live
  have subscribed : w.isSubscribed l.1.tag = true := List.any_eq_true.2 ⟨r, hr, decide_eq_true ht⟩
  unfold advance
  cases hk : w.worker? l.1.tag with
  | none =>
    -- there is no worker only if a panic took it
    have broken : ¬ Unbroken l.1.tag log := by
      intro unbroken
      obtain ⟨c, hc, hct⟩ := attended.present l hl ⟨r, hr, ht⟩ unbroken
      obtain ⟨k, hkw, -, hkt, -⟩ := clerk_of_mem hc
      exact absurd (decide_eq_true (hkt.trans hct)) (List.find?_eq_none.1 hk k hkw)
    simp [broken]
  | some k =>
    have hkw := List.mem_of_find?_eq_some hk
    have hkt : k.tag = l.1.tag := by simpa using List.find?_some hk
    obtain ⟨f, duty⟩ := duty_of_mem staffed hkw
    have found := clerk_mem hkw duty
    have unbroken : Unbroken l.1.tag log := hkt ▸ attended.whole _ found
    have resting := register.resting (fun k hk hn => free.clerk hk hn) hl hn
    have idle : k.phase = .idle := resting _ found hkt
    simp [idle, subscribed, take, unbroken]

/-- After every run, what a subscription of consumer `n`, not at work, has in flight is the number of its
deliveries whose settle call failed, if nobody else settles them. On a live connection with something
ready, and unless its worker was passed by as the connection came back, the next delivery can be taken if
and only if that number is below the prefetch; the worker is there to take it unless a panic took it. So
without lost settles it never stops; and nobody is passed by as long as nobody is late. -/
theorem stalls_by_lost_settles (h : History log w) {x : Consumer} {a : Handle}
    (found : w.consumers[n]? = some x) (active : x.active.value = some a)
    (live : w.broker.subscription? a.tag = some r) (alone : Alone (· = a.tag) log) (free : w.Unoccupied n) :
    r.prefetch = x.prefetch ∧ 1 ≤ r.prefetch ∧
    Broker.received a.tag (story log) = (calls (Seat.hasTag a.tag) log).map (·.1.delivery) ∧
    r.inFlight = lost a.tag log ∧
    (w.broker.connected = true → w.broker.missed ≠ some a.tag → w.broker.readyOf r.queue ≠ [] →
      ((w.broker.deliver a.tag).isSome = true ↔ lost a.tag log < r.prefetch) ∧
      ((w.advance a.tag).isSome = true ↔ Unbroken a.tag log ∧ lost a.tag log < r.prefetch) ∧
      ((∀ y ∈ calls (Seat.hasTag a.tag) log, y.2 = .ok ()) → (w.advance a.tag).isSome = true)) ∧
    ((∀ up t, .connect up (some t) ∉ acts log) → w.broker.missed = none) := by
  have register := h.register
  have broker : w.broker = Broker.after (acts log) := register.tenancy.broker
  obtain ⟨l, hl, hn, rfl⟩ := register.tenancy.handles n x a found active
  have live : w.broker.subscription? l.1.tag = some r := live
  have tag := Broker.subscription?_tag live
  have resting := register.resting (fun k hk hn => free.clerk hk hn) hl hn
  obtain ⟨-, -, prefetch⟩ := register.tenancy.listed l hl r (List.mem_of_find?_eq_some live) tag
  obtain ⟨y, hy, -, terms⟩ := register.tenancy.terms l hl
  obtain rfl : x = y := Option.some.inj (found.symm.trans (hn ▸ hy))
  have bounded : 0 < r.prefetch := by
    rw [prefetch, ← terms]
    exact register.tenancy.bounded x (List.mem_of_getElem? found)
  have inFlight := h.inFlight_eq hl live alone resting
  refine ⟨prefetch.trans terms.symm, bounded, register.received_called hl resting, inFlight,
    fun up awake ready => ?_, fun prompt => broker ▸ Broker.missed_after prompt⟩
  have takes : (w.broker.deliver l.1.tag).isSome = true ↔ lost l.1.tag log < r.prefetch := by
    have room := Broker.deliver_isSome_iff (tag ▸ live) up (tag ▸ awake) ready
    rw [tag] at room
    rw [room, Subscription.hasCapacity, inFlight]
    simp [bounded.ne']
  have goes := h.advance_isSome free hl hn live
  rw [takes] at goes
  refine ⟨takes, goes, fun clean => goes.2 ⟨?_, ?_⟩⟩
  · intro y hy
    rw [clean y hy]
    rfl
  · have none : lost l.1.tag log = 0 := List.countP_eq_zero.2 fun y hy => by simp [clean y hy]
    rw [none]
    exact bounded

/-- The worker of consumer `n`, not at work, does not go on though it has room. -/
structure Stuck (log : List (Mark K V)) (w : Bench K V) (n : Nat) (r : Subscription) : Prop where
  run : History log w
  active : (w.consumers[n]?.bind (·.active.value)).map (·.tag) = some r.tag
  live : w.broker.subscription? r.tag = some r
  alone : Alone (· = r.tag) log
  free : w.Unoccupied n
  up : w.broker.connected = true
  ready : w.broker.readyOf r.queue ≠ []
  room : lost r.tag log < r.prefetch
  still : (w.advance r.tag).isSome = false

/-- A worker that has settled nothing is passed by as the connection comes back; one whose ack panicked is
gone, and has room for one more. -/
theorem stuck_with_room : ∃ (log log' : List (Mark String Bytes)) (w w' : Bench String Bytes)
    (r r' : Subscription), Stuck log w 0 r ∧ calls (fun _ => true) log = [] ∧
    Stuck log' w' 0 r' ∧ lost r'.tag log' = 1 ∧ r'.prefetch = 2 := by
  let work : Happening String Bytes := .work (Broker.consumerTag 1)
  let start : List (Happening String Bytes) := [.act .openChannel, .act (.declare "jobs"), .newStore,
    .newConsumer ⟨1⟩ 0 2, subscribing 0 "jobs" 3, post "jobs" 1 (some "a")]
  let passed := start ++ [.act (.connect false), .act (.connect true (some (Broker.consumerTag 1)))]
  let broken := start ++ [faulting ⟨1⟩ .ack (some .crash), work, work, work, post "jobs" 2 (some "b")]
  have resting (hs : List (Happening String Bytes))
      (h : ∀ p ∈ (({} : Bench String Bytes).undergoAll hs).workers.map (·.phase), p = .idle) :
      (({} : Bench String Bytes).undergoAll hs).Unoccupied 0 := .of_idle h 0
  refine ⟨_, _, _, _, ⟨Broker.consumerTag 1, "jobs", ⟨1⟩, 2, 0⟩, ⟨Broker.consumerTag 1, "jobs", ⟨1⟩, 2, 1⟩,
    ⟨sequel_all {} passed, ?_, ?_, ?_, resting passed ?_, ?_, ?_, ?_, ?_⟩, ?_,
    ⟨sequel_all {} broken, ?_, ?_, ?_, resting broken ?_, ?_, ?_, ?_, ?_⟩, ?_, rfl⟩ <;> decide +kernel

/-- With a prefetch of two, an ack lost to a disconnection leaves room for one more, and the next one so
lost leaves none. -/
theorem stalls_by_lost_settles_twice : ∃ (log : List (Mark String Bytes)) (w : Bench String Bytes)
    (more : List (Mark String Bytes)) (w' : Bench String Bytes), History log w ∧ Sequel w more w' ∧
    lost (Broker.consumerTag 1) log = 1 ∧ (w.advance (Broker.consumerTag 1)).isSome = true ∧
    lost (Broker.consumerTag 1) (log ++ more) = 2 ∧ w'.broker.connected = true ∧
    w'.broker.readyOf "jobs" ≠ [] ∧ (w'.broker.deliver (Broker.consumerTag 1)).isSome = false := by
  let work : Happening String Bytes := .work (Broker.consumerTag 1)
  let losing : List (Happening String Bytes) :=
    [work, work, .act (.connect false), work, .act (.connect true)]
  let hs : List (Happening String Bytes) := [.act .openChannel, .act (.declare "jobs"), .newStore,
    .newConsumer ⟨1⟩ 0 2, subscribing 0 "jobs" 3, post "jobs" 1 (some "a"), work, work, work,
    post "jobs" 2 (some "b"), post "jobs" 3 (some "c"), post "jobs" 4 (some "d")] ++ losing
  let a : Handle := ⟨Broker.consumerTag 1, ⟨1⟩, "jobs"⟩
  let x (s : Stats) : Consumer := ⟨⟨1⟩, 0, 2, ⟨some a, false⟩, s⟩
  have run : History (({} : Bench String Bytes).chronicle hs) (({} : Bench String Bytes).undergoAll hs) :=
    sequel_all {} hs
  have on := sequel_all (({} : Bench String Bytes).undergoAll hs) losing
  have free : ∀ p ∈ (({} : Bench String Bytes).undergoAll hs).workers.map (·.phase), p = .idle := by
    decide +kernel
  have free' : ∀ p ∈ ((({} : Bench String Bytes).undergoAll hs).undergoAll losing).workers.map (·.phase),
      p = .idle := by decide +kernel
  have once := stalls_by_lost_settles (n := 0) (x := x ⟨2, 2, 0, 0, 1⟩) (a := a)
    (r := ⟨a.tag, "jobs", ⟨1⟩, 2, 1⟩) run (by decide +kernel) rfl (by decide +kernel) (by decide +kernel)
    (.of_idle free 0)
  have twice := stalls_by_lost_settles (n := 0) (x := x ⟨3, 3, 0, 0, 2⟩) (a := a)
    (r := ⟨a.tag, "jobs", ⟨1⟩, 2, 2⟩) (run.trans on) (by decide +kernel) rfl (by decide +kernel)
    (by decide +kernel) (.of_idle free' 0)
  obtain ⟨-, -, -, one, goes, -⟩ := once
  obtain ⟨-, -, -, two, stalls, -⟩ := twice
  have up := (goes (by decide +kernel) (by decide +kernel) (by decide +kernel)).2.1.2
    ⟨by decide +kernel, one ▸ by decide⟩
  have ready : ((({} : Bench String Bytes).undergoAll hs).undergoAll losing).broker.readyOf "jobs" ≠ [] := by
    decide +kernel
  have down := (stalls (by decide +kernel) (by decide +kernel) ready).1.not.2 (two ▸ by decide)
  exact ⟨_, _, _, _, run, on, one.symm, up, two.symm, by decide +kernel, ready, by simpa using down⟩

end Bench
end QueueProbe
