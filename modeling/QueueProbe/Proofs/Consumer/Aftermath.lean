import QueueProbe.Proofs.Consumer.Accounts

/-! What comes after a subscription. Once it is off the broker and its worker is gone, it is over for good:
its tag is issued to nobody else, no delivery is made to it and nothing is done in its name. What it then
has unacked are deliveries whose settle call failed and that nothing else has ended since. -/

namespace QueueProbe

variable {K V : Type}

structure Scene.Over (s : Scene K V) (t : ConsumerTag) : Prop where
  unsubscribed : ∀ r ∈ s.broker.subscriptions, r.tag ≠ t
  unserved : ∀ k ∈ s.crew, k.tag ≠ t

/-- Nothing of the log is about these seats. -/
def Vacant (p : Seat K V → Bool) (log : List (Mark K V)) : Prop :=
  ∀ m ∈ log, ∀ s, m.seat? = some s → p s = false

namespace Vacant

variable {p : Seat K V → Bool} {log new : List (Mark K V)}

theorem nil (p : Seat K V → Bool) : Vacant p [] := fun _ hm => absurd hm List.not_mem_nil

theorem append (h : Vacant p log) (h' : Vacant p new) : Vacant p (log ++ new) := by
  intro m hm
  rcases List.mem_append.1 hm with hm | hm
  · exact h m hm
  · exact h' m hm

theorem takings (h : Vacant p log) : takings p log = [] := by
  refine List.filter_eq_nil_iff.2 fun x hx => ?_
  obtain ⟨m, hm, hmx⟩ := List.mem_filterMap.1 hx
  cases m with
  | took s d =>
    obtain rfl := Option.some.inj hmx
    simp [h _ hm s rfl]
  | _ => cases hmx

theorem verdicts (h : Vacant p log) : verdicts p log = [] := by
  refine List.filter_eq_nil_iff.2 fun v hv => ?_
  obtain ⟨m, hm, hmv⟩ := List.mem_filterMap.1 hv
  cases m with
  | filed s d k m' | refused s d e =>
    obtain rfl := Option.some.inj hmv
    simp [h _ hm s rfl]
  | _ => cases hmv

theorem calls (h : Vacant p log) : calls p log = [] := by
  refine List.filter_eq_nil_iff.2 fun x hx => ?_
  obtain ⟨m, hm, hmx⟩ := List.mem_filterMap.1 hx
  cases m with
  | settled v answer =>
    obtain rfl := Option.some.inj hmx
    simp [h _ hm v.seat rfl]
  | _ => cases hmx

end Vacant

section Over

variable [DecidableEq K] {log new : List (Mark K V)} {s s' : Scene K V} {l : Seat K V × Nat}

theorem Scene.Over.step (ended : s.Over l.1.tag) (tenancy : Tenancy log s) (hl : l ∈ leases log)
    (e : Effect s new s') : s'.Over l.1.tag ∧ Vacant (Seat.hasTag l.1.tag) new := by
  have acted : ∀ a, ∀ r ∈ (s.broker.act a).subscriptions, r.tag ≠ l.1.tag := by
    intro a r hr ht
    obtain ⟨r', hr', ht'⟩ := tenancy.subscribed_act a hl ⟨r, hr, ht⟩
    exact ended.unsubscribed r' hr' ht'
  have turned : ∀ t p, ∀ k ∈ (s.setPhase t p).crew, k.tag ≠ l.1.tag := by
    intro t p k hk
    obtain ⟨j, hj, rfl⟩ := List.mem_map.1 hk
    have := ended.unserved j hj
    split <;> exact this
  have left : ∀ t, ∀ k ∈ (s.dismiss t).crew, k.tag ≠ l.1.tag := fun t k hk =>
    ended.unserved k (List.mem_filter.1 hk).1
  have elsewhere : ∀ {k : Clerk K V} {m : Mark K V}, k ∈ s.crew → m.seat? = some k.toSeat →
      Vacant (Seat.hasTag l.1.tag) [m] := by
    intro k m hk hm j hj y hy
    rw [List.mem_singleton.1 hj, hm] at hy
    obtain rfl := Option.some.inj hy
    exact decide_eq_false (ended.unserved k hk)
  have nobody : ∀ {m : Mark K V}, m.seat? = none → Vacant (Seat.hasTag l.1.tag) [m] := by
    intro m hm j hj y hy
    rw [List.mem_singleton.1 hj, hm] at hy
    cases hy
  cases e with
  | still | stored | enrolled x | spoiled n | forgot n => exact ⟨⟨ended.unsubscribed, ended.unserved⟩, .nil _⟩
  | acted a => exact ⟨⟨acted a, ended.unserved⟩, nobody rfl⟩
  | joined f x =>
    have fresh := tenancy.fresh hl
    refine ⟨⟨fun r hr => ?_, fun k hk => ?_⟩, ?_⟩
    · rcases List.mem_append.1 hr with hr | hr
      · exact ended.unsubscribed r hr
      · rw [List.mem_singleton.1 hr]
        exact fresh.symm
    · rcases List.mem_append.1 hk with hk | hk
      · exact ended.unserved k hk
      · rw [List.mem_singleton.1 hk]
        exact fresh.symm
    · intro j hj y hy
      rw [List.mem_singleton.1 hj] at hy
      obtain rfl := Option.some.inj hy
      exact decide_eq_false fresh.symm
  | took k d b found free delivered =>
    have hb : s.broker.act (.deliver k.tag) = b := by simp [Broker.act, delivered]
    exact ⟨⟨hb ▸ acted (.deliver k.tag), turned _ _⟩, elsewhere found rfl⟩
  | filed k d key m found =>
    have crew : (((s.keep k.how.consumer key m).tally k.how.consumer (·.handled none)).setPhase k.tag
        (.settling d none)).crew = (s.setPhase k.tag (.settling d none)).crew :=
      congrArg (List.map _) (s.crew_keep _ key m)
    refine ⟨⟨?_, crew ▸ turned _ _⟩, elsewhere found rfl⟩
    exact (s.broker_keep k.how.consumer key m).symm ▸ ended.unsubscribed
  | refused k d why found => exact ⟨⟨ended.unsubscribed, turned _ _⟩, elsewhere found rfl⟩
  | settled k d r u found => exact ⟨⟨acted _, turned _ _⟩, elsewhere found rfl⟩
  | failed k d r why found => exact ⟨⟨ended.unsubscribed, turned _ _⟩, elsewhere found rfl⟩
  | crashed k d r cause found => exact ⟨⟨ended.unsubscribed, left _⟩, elsewhere found rfl⟩
  | departed k => exact ⟨⟨ended.unsubscribed, left _⟩, .nil _⟩

variable [Debug K] {w w' : Bench K V} {later : List (Mark K V)}

theorem Bench.History.over (run : Bench.History log w) (hl : l ∈ leases log) (ended : w.scene.Over l.1.tag)
    (on : Bench.Sequel w later w') : w'.scene.Over l.1.tag ∧ Vacant (Seat.hasTag l.1.tag) later := by
  induction on with
  | here => exact ⟨ended, .nil _⟩
  | @snoc later w' h on ih =>
    obtain ⟨ended, vacant⟩ := ih
    have grown : Bench.History (log ++ later) w' := run.trans on
    have hl' : l ∈ leases (log ++ later) := by
      rw [leases_append]
      exact List.mem_append_left _ hl
    obtain ⟨ended', vacant'⟩ := ended.step grown.tenancy hl' (Bench.effect (Bench.Sequel.staffed grown rfl) h)
    exact ⟨ended', vacant.append vacant'⟩

theorem Bench.History.received_over (run : Bench.History log w) (hl : l ∈ leases log)
    (ended : w.scene.Over l.1.tag) (on : Bench.Sequel w later w') :
    Broker.received l.1.tag (story (log ++ later)) = Broker.received l.1.tag (story log) := by
  have grown : Bench.History (log ++ later) w' := run.trans on
  have hl' : l ∈ leases (log ++ later) := by
    rw [leases_append]
    exact List.mem_append_left _ hl
  rw [grown.register.dealt.received l hl', run.register.dealt.received l hl, takings_append,
    (run.over hl ended on).2.takings, List.append_nil]

end Over

section Pending

/-! What is unacked, once nothing is in hand. -/

theorem settlements_finished (p : ConsumerTag → Bool) (es : List Broker.Event) :
    ((Broker.settlements p es).map (·.1.tag)).Sublist ((Broker.finished es).map Prod.fst) := by
  induction es with
  | nil => exact .slnil
  | cons e es ih =>
    cases e with
    | sent q m | delivered r d => exact ih
    | restored u => exact ih.cons _
    | acked u | rejected u k =>
      simp only [Broker.settlements, Broker.finished] at ih
      by_cases hp : p u.consumer
      · simpa [Broker.settlements, Broker.finished, Broker.Event.settlement, Broker.Event.finish, Broker.stub,
          Broker.told, hp] using ih
      · simpa [Broker.settlements, Broker.finished, Broker.Event.settlement, Broker.Event.finish, Broker.stub,
          hp] using ih.cons _

variable [DecidableEq K] {log new : List (Mark K V)} {s s' : Scene K V} {l : Seat K V × Nat}

namespace Bench.History

variable [Debug K] {w : Bench K V} {d : Delivery}

theorem honoured_finished (run : Bench.History log w) (p : ConsumerTag → Bool) :
    ((honoured p log).map (·.1.tag)).Sublist ((Broker.finished (story log)).map Prod.fst) :=
  ((run.honoured_sublist p).map _).trans (settlements_finished p _)

theorem concluded (run : Bench.History log w) {x : Verdict K V × Outcome BrokerError Unit}
    (hx : x ∈ calls (Seat.hasTag l.1.tag) log) (ok : x.2 = .ok ()) :
    x.1.delivery.tag ∈ (Broker.finished (story log)).map Prod.fst := by
  have kept : (x.1.delivery, x.1.requeue) ∈ honoured (· = l.1.tag) log :=
    List.mem_map_of_mem (f := fun x : Verdict K V × _ => (x.1.delivery, x.1.requeue))
      (List.mem_filter.2 ⟨hx, decide_eq_true ok⟩)
  exact (run.honoured_finished _).subset (List.mem_map_of_mem kept)

/-- A subscription not at work has unacked what it could not settle, unless that ended some other way. -/
theorem mem_pending (run : Bench.History log w) (hl : l ∈ leases log)
    (free : ∀ k ∈ w.scene.crew, k.tag = l.1.tag → k.phase = .idle) :
    d ∈ (w.broker.pending l.1.tag).map Broker.told ↔ ∃ x ∈ calls (Seat.hasTag l.1.tag) log,
      x.1.delivery = d ∧ x.2 ≠ .ok () ∧ d.tag ∉ (Broker.finished (story log)).map Prod.fst := by
  have hb : w.broker = Broker.after (acts log) := run.register.tenancy.broker
  rw [hb, (story_run log).mem_pending, run.register.received_called hl free, List.mem_map]
  constructor
  · rintro ⟨⟨x, hx, rfl⟩, unfinished⟩
    exact ⟨x, hx, rfl, fun ok => unfinished (run.concluded hx ok), unfinished⟩
  · rintro ⟨x, hx, rfl, -, unfinished⟩
    exact ⟨⟨x, hx, rfl⟩, unfinished⟩

/-- If nobody else settles and the channel is open, what could not be settled has not ended. -/
theorem unfinished (run : Bench.History log w) (hl : l ∈ leases log)
    (free : ∀ k ∈ w.scene.crew, k.tag = l.1.tag → k.phase = .idle) (alone : Alone (· = l.1.tag) log)
    (still : w.broker.isClosed l.1.channel = false) {x : Verdict K V × Outcome BrokerError Unit}
    (hx : x ∈ calls (Seat.hasTag l.1.tag) log) (failed : x.2 ≠ .ok ()) :
    x.1.delivery.tag ∉ (Broker.finished (story log)).map Prod.fst := by
  intro hf
  have events := story_run log
  have register := run.register
  have received := register.received_called hl free
  have given : x.1.delivery ∈ Broker.received l.1.tag (story log) := by
    rw [received]
    exact List.mem_map_of_mem hx
  obtain ⟨r, hd, hr⟩ := Broker.mem_received.1 given
  obtain ⟨y, hy, ht⟩ := List.mem_map.1 hf
  obtain ⟨e, he, hey⟩ := List.mem_filterMap.1 hy
  -- whatever ended it was about this very delivery
  have mine : ∀ u, e.entry? = some u → y = Broker.stub u → Broker.told u = x.1.delivery ∧ u.consumer = l.1.tag ∧
      u.channel = l.1.channel := by
    rintro u hu rfl
    obtain ⟨r', hu', hr', -, hc⟩ := events.ended_origin he hu
    obtain ⟨rfl, same⟩ := events.delivered_unique hu' hd ht
    exact ⟨same, hr'.symm.trans hr, hc.symm.trans (register.dealt.placed l hl r' _ hd hr).2⟩
  have settled : ∀ c, (x.1.delivery, c) ∈ Broker.settlements (· = l.1.tag) (story log) → False := by
    intro c hc
    rw [run.settlements alone] at hc
    obtain ⟨z, hz, hzx⟩ := List.mem_map.1 hc
    obtain ⟨hz, ok⟩ := List.mem_filter.1 hz
    have rising := events.received_rising l.1.tag
    rw [received, List.pairwise_map] at rising
    have distinct : ((calls (Seat.hasTag l.1.tag) log).map (·.1.delivery.tag)).Nodup :=
      List.pairwise_map.2 (rising.imp ne_of_lt)
    obtain rfl : z = x := List.inj_on_of_nodup_map distinct hz hx (congrArg (Delivery.tag ∘ Prod.fst) hzx)
    exact failed (of_decide_eq_true ok)
  cases e with
  | acked u =>
    obtain ⟨same, hc, -⟩ := mine u rfl (Option.some.inj hey).symm
    refine settled none (List.mem_filterMap.2 ⟨_, he, ?_⟩)
    simp [Broker.Event.settlement, hc, same]
  | rejected u k =>
    obtain ⟨same, hc, -⟩ := mine u rfl (Option.some.inj hey).symm
    refine settled (some k) (List.mem_filterMap.2 ⟨_, he, ?_⟩)
    simp [Broker.Event.settlement, hc, same]
  | restored u =>
    obtain ⟨-, -, hc⟩ := mine u rfl (Option.some.inj hey).symm
    have closed := events.restored_closed he
    rw [hc, ← register.tenancy.broker] at closed
    exact Bool.noConfusion (closed.symm.trans still)
  | _ => cases hey

end Bench.History
end Pending

section Stillness

/-! What a consumer has kept, once all its subscriptions are over. -/

variable [DecidableEq K] {log new later : List (Mark K V)} {s s' : Scene K V} {n i : Nat}

/-- What is in a store. -/
def Scene.shelf (s : Scene K V) (i : Nat) : Store K V := (s.stores[i]?).getD {}

theorem Effect.housed (e : Effect s new s') {y : Consumer} (hy : s.consumers[n]? = some y) :
    ∃ y', s'.consumers[n]? = some y' ∧ y'.store = y.store := by
  have modified : ∀ (m : Nat) (f : Consumer → Consumer), (∀ x, (f x).store = x.store) →
      ∃ y', (s.consumers.modify m f)[n]? = some y' ∧ y'.store = y.store := by
    intro m f hf
    rw [List.getElem?_modify, hy]
    refine ⟨_, rfl, ?_⟩
    split
    · exact hf y
    · rfl
  cases e with
  | enrolled x =>
    refine ⟨y, ?_, rfl⟩
    rw [List.getElem?_append_left (List.getElem?_eq_some_iff.1 hy).1]
    exact hy
  | joined f x => exact modified _ _ fun _ => rfl
  | spoiled m | forgot m => exact modified _ _ fun _ => rfl
  | filed k d key m =>
    have kept := s.consumers_keep k.how.consumer key m
    obtain ⟨y', hy', hs⟩ := modified k.how.consumer (fun x => { x with stats := x.stats.handled none })
      fun _ => rfl
    exact ⟨y', by rw [← kept] at hy'; exact hy', hs⟩
  | refused k d why | failed k d r why => exact modified _ _ fun _ => rfl
  | _ => exact ⟨y, hy, rfl⟩

theorem Effect.shelf (e : Effect s new s') (others : ∀ seat d key m, .filed seat d key m ∈ new →
    ∀ y, s.consumers[seat.how.consumer]? = some y → y.store ≠ i) : s'.shelf i = s.shelf i := by
  cases e with
  | stored =>
    simp only [Scene.shelf, List.getElem?_append]
    split
    · rfl
    · next hi =>
      rw [List.getElem?_eq_none (Nat.not_lt.1 hi)]
      cases i - s.stores.length <;> rfl
  | filed k d key m =>
    have away := others k.toSeat d key m (List.mem_singleton_self _)
    show (s.keep k.how.consumer key m).shelf i = s.shelf i
    unfold Scene.keep
    split
    · next y hy => simp [Scene.shelf, away y hy]
    · rfl
  | _ => rfl

variable [Debug K] {w w' : Bench K V}

theorem Bench.History.shelf (run : Bench.History log w) (on : Bench.Sequel w later w')
    (others : ∀ seat d key m, .filed seat d key m ∈ later →
      ∀ y, w'.consumers[seat.how.consumer]? = some y → y.store ≠ i) : w'.scene.shelf i = w.scene.shelf i := by
  induction on with
  | here => rfl
  | @snoc later w' h on ih =>
    have e := Bench.effect (Bench.Sequel.staffed (run.trans on) rfl) h
    have before : ∀ seat d key m, .filed seat d key m ∈ later ++ w'.marks h →
        ∀ y, w'.consumers[seat.how.consumer]? = some y → y.store ≠ i := by
      intro seat d key m hm y hy
      obtain ⟨y', hy', hs⟩ := e.housed hy
      rw [← hs]
      exact others seat d key m hm y' hy'
    rw [e.shelf fun seat d key m hm => before seat d key m (List.mem_append_right _ hm)]
    exact ih fun seat d key m hm => before seat d key m (List.mem_append_left _ hm)

omit [DecidableEq K] [Debug K] in
theorem Bench.storeOf_eq {x : Consumer} (hx : w.consumers[n]? = some x) :
    w.storeOf n = w.scene.shelf x.store := by
  simp [Bench.storeOf, Scene.shelf, hx]

theorem Bench.History.housed (run : Bench.History log w) (on : Bench.Sequel w later w') {y : Consumer}
    (hy : w.consumers[n]? = some y) : ∃ y', w'.consumers[n]? = some y' ∧ y'.store = y.store := by
  induction on with
  | here => exact ⟨y, hy, rfl⟩
  | @snoc later w' h on ih =>
    obtain ⟨y', hy', same⟩ := ih
    obtain ⟨y'', hy'', same'⟩ :=
      (Bench.effect (Bench.Sequel.staffed (run.trans on) rfl) h).housed (n := n) hy'
    exact ⟨y'', hy'', same'.trans same⟩

theorem Bench.History.all_over (run : Bench.History log w) {x : Consumer} {a : Handle}
    (found : w.consumers[n]? = some x) (active : x.active.value = some a) (on : Bench.Sequel w later w')
    (ended : w'.scene.Over a.tag) (unstarted : ∀ l ∈ leases later, l.1.how.consumer ≠ n) :
    ∀ l ∈ leases (log ++ later), l.1.how.consumer = n → w'.scene.Over l.1.tag := by
  intro l hl hn
  rw [leases_append] at hl
  rcases List.mem_append.1 hl with hl | hl
  · by_cases ht : l.1.tag = a.tag
    · rw [ht]
      exact ended
    · -- an earlier one was over before, or the consumer would hold it
      have dead : ¬ ((∃ r ∈ w.broker.subscriptions, r.tag = l.1.tag) ∨
          ∃ k ∈ w.scene.crew, k.tag = l.1.tag) := by
        intro live
        obtain ⟨y, hy, holds⟩ := run.tenancy.engaged l hl live
        obtain rfl : x = y := Option.some.inj (found.symm.trans (hn ▸ hy))
        exact ht (congrArg Handle.tag (Option.some.inj (holds.symm.trans active)))
      have before : w.scene.Over l.1.tag :=
        ⟨fun r hr hrt => dead (Or.inl ⟨r, hr, hrt⟩), fun k hk hkt => dead (Or.inr ⟨k, hk, hkt⟩)⟩
      exact (run.over hl before on).1
  · exact absurd hn (unstarted l hl)

/-- With all its subscriptions over, nothing is done in a consumer's name until it starts again. -/
theorem Bench.History.vacant (run : Bench.History log w)
    (ended : ∀ l ∈ leases log, l.1.how.consumer = n → w.scene.Over l.1.tag) (on : Bench.Sequel w later w')
    (unstarted : ∀ l ∈ leases later, l.1.how.consumer ≠ n) : Vacant (Seat.isOf n) later := by
  intro m hm s hs
  by_contra hn
  have hn : s.how.consumer = n := by simpa [Seat.isOf] using hn
  have grown : Bench.History (log ++ later) w' := run.trans on
  obtain ⟨p, hl⟩ := grown.register.dealt.seated m (List.mem_append_right _ hm) s hs
  rw [leases_append] at hl
  rcases List.mem_append.1 hl with hl | hl
  · have silent := (run.over hl (ended _ hl hn) on).2 m hm s hs
    simp [Seat.hasTag] at silent
  · exact unstarted _ hl hn

theorem Bench.History.stats_still (run : Bench.History log w) (on : Bench.Sequel w later w')
    (vacant : Vacant (Seat.isOf n) later) : w'.statsOf n = w.statsOf n := by
  have grown : Bench.History (log ++ later) w' := run.trans on
  rw [grown.booked, run.booked, books, books, verdicts_append, calls_append, vacant.verdicts, vacant.calls,
    List.append_nil, List.append_nil]

end Stillness
end QueueProbe
