import QueueProbe.Proofs.Broker.Prefetch
import QueueProbe.Proofs.Consumer.Effects

/-! Who serves what. Each subscription of a consumer is leased once, on the consumer's own terms. As long
as it is on the broker, or has its worker, it is the one that its consumer holds the handle of; so a
consumer has one worker at a time. -/

namespace QueueProbe

variable {K V : Type}

namespace Broker

variable {b b' : Broker} {new : List Event} {s : Subscription}

theorem subscription_of_change (c : Change b new b') (hs : s ∈ b'.subscriptions) :
    (∃ r ∈ b.subscriptions, r.tag = s.tag ∧ r.queue = s.queue ∧ r.channel = s.channel ∧
      r.prefetch = s.prefetch) ∨ s.tag = consumerTag b.nextConsumer := by
  have same : s ∈ b.subscriptions → ∃ r ∈ b.subscriptions, r.tag = s.tag ∧ r.queue = s.queue ∧
      r.channel = s.channel ∧ r.prefetch = s.prefetch := fun h => ⟨s, h, rfl, rfl, rfl, rfl⟩
  cases c with
  | subscribed c q n =>
    rcases List.mem_append.1 hs with hs | hs
    · exact Or.inl (same hs)
    · rw [List.mem_singleton.1 hs]
      exact Or.inr rfl
  | unsubscribed r => exact Or.inl (same (List.mem_filter.1 hs).1)
  | closed c => exact Or.inl (same (List.mem_filter.1 hs).1)
  | delivered r x e rest =>
    obtain ⟨y, hy, rfl⟩ := mem_onSubscription (f := (· + 1)) hs
    exact Or.inl ⟨y, hy, rfl, rfl, rfl, rfl⟩
  | acked u =>
    obtain ⟨y, hy, rfl⟩ := mem_onSubscription (f := (· - 1)) hs
    exact Or.inl ⟨y, hy, rfl, rfl, rfl, rfl⟩
  | rejected u k =>
    obtain ⟨y, hy, rfl⟩ := mem_onSubscription (f := (· - 1)) hs
    exact Or.inl ⟨y, hy, rfl, rfl, rfl, rfl⟩
  | _ => exact Or.inl (same hs)

end Broker

structure Tenancy (log : List (Mark K V)) (s : Scene K V) : Prop where
  broker : s.broker = Broker.after (acts log)
  distinct : (s.crew.map (·.tag)).Nodup
  leased : ∀ k ∈ s.crew, ∃ p, (k.toSeat, p) ∈ leases log
  once : ((leases log).map (·.1.tag)).Nodup
  issued : ∀ l ∈ leases log, ∃ i < s.broker.nextConsumer, l.1.tag = Broker.consumerTag i
  terms : ∀ l ∈ leases log, ∃ x, s.consumers[l.1.how.consumer]? = some x ∧ x.channel = l.1.channel ∧
    x.prefetch = l.2
  bounded : ∀ x ∈ s.consumers, 0 < x.prefetch
  /-- What the broker has of a leased subscription. -/
  listed : ∀ l ∈ leases log, ∀ r ∈ s.broker.subscriptions, r.tag = l.1.tag →
    r.queue = l.1.how.queue ∧ r.channel = l.1.channel ∧ r.prefetch = l.2
  /-- Whatever is subscribed or served is what its consumer holds the handle of. -/
  engaged : ∀ l ∈ leases log, ((∃ r ∈ s.broker.subscriptions, r.tag = l.1.tag) ∨
    ∃ k ∈ s.crew, k.tag = l.1.tag) →
    ∃ x, s.consumers[l.1.how.consumer]? = some x ∧ x.active.value = some l.1.handle
  handles : ∀ n x h, s.consumers[n]? = some x → x.active.value = some h →
    ∃ l ∈ leases log, l.1.how.consumer = n ∧ l.1.handle = h

namespace Tenancy

variable {log : List (Mark K V)} {s : Scene K V} {k : Clerk K V} {m : Mark K V}

theorem empty : Tenancy [] ({} : Bench K V).scene := by
  constructor <;> simp [leases, Bench.scene, Broker.after, acts]

theorem sole (h : Tenancy log s) {l l' : Seat K V × Nat} (hl : l ∈ leases log) (hl' : l' ∈ leases log)
    (ht : l.1.tag = l'.1.tag) : l = l' :=
  List.inj_on_of_nodup_map h.once hl hl' ht

theorem clerk (h : Tenancy log s) (hk : k ∈ s.crew) :
    ∃ x, s.consumers[k.how.consumer]? = some x ∧ x.active.value = some k.toSeat.handle := by
  obtain ⟨p, hl⟩ := h.leased k hk
  exact h.engaged _ hl (Or.inr ⟨k, hk, rfl⟩)

theorem alone (h : Tenancy log s) {k' : Clerk K V} (hk : k ∈ s.crew) (hk' : k' ∈ s.crew)
    (hn : k.how.consumer = k'.how.consumer) : k = k' := by
  obtain ⟨x, hx, active⟩ := h.clerk hk
  obtain ⟨x', hx', active'⟩ := h.clerk hk'
  obtain rfl : x = x' := Option.some.inj (hx.symm.trans (hn ▸ hx'))
  have same := Option.some.inj (active.symm.trans active')
  exact List.inj_on_of_nodup_map h.distinct hk hk' (congrArg Handle.tag same)

theorem silent (h : Tenancy log s) (quiet : m.act? = none) (aside : m.lease? = none) :
    Tenancy (log ++ [m]) s := by
  have ha : acts (log ++ [m]) = acts log := by simp [acts, quiet]
  have hl : leases (log ++ [m]) = leases log := by simp [leases, aside]
  exact ⟨by rw [ha]; exact h.broker, h.distinct, by rw [hl]; exact h.leased, by rw [hl]; exact h.once,
    by rw [hl]; exact h.issued, by rw [hl]; exact h.terms, h.bounded, by rw [hl]; exact h.listed,
    by rw [hl]; exact h.engaged, by rw [hl]; exact h.handles⟩

theorem act (h : Tenancy log s) {a : Broker.Act} (ha : m.act? = some a) (aside : m.lease? = none) :
    Tenancy (log ++ [m]) { s with broker := s.broker.act a } := by
  have hl : leases (log ++ [m]) = leases log := by simp [leases, aside]
  have change := Broker.change s.broker a
  have old : ∀ l ∈ leases log, ∀ r ∈ (s.broker.act a).subscriptions, r.tag = l.1.tag →
      ∃ r' ∈ s.broker.subscriptions, r'.tag = l.1.tag ∧ r'.queue = r.queue ∧
        r'.channel = r.channel ∧ r'.prefetch = r.prefetch := by
    intro l hl r hr ht
    rcases Broker.subscription_of_change change hr with ⟨r', hr', ht', same⟩ | fresh
    · exact ⟨r', hr', ht'.trans ht, same⟩
    · obtain ⟨i, hi, hli⟩ := h.issued l hl
      have := Broker.consumerTag_injective (hli.symm.trans (ht.symm.trans fresh))
      omega
  refine ⟨?_, h.distinct, by rw [hl]; exact h.leased, by rw [hl]; exact h.once, ?_,
    by rw [hl]; exact h.terms, h.bounded, ?_, ?_, by rw [hl]; exact h.handles⟩
  · have hs : acts (log ++ [m]) = acts log ++ [a] := by simp [acts, ha]
    rw [hs, Broker.after_snoc, ← h.broker]
  · rw [hl]
    intro l hl
    obtain ⟨i, hi, ht⟩ := h.issued l hl
    exact ⟨i, hi.trans_le (Broker.nextConsumer_change change), ht⟩
  · rw [hl]
    intro l hl r hr ht
    obtain ⟨r', hr', ht', hq, hc, hp⟩ := old l hl r hr ht
    obtain ⟨hq', hc', hp'⟩ := h.listed l hl r' hr' ht'
    exact ⟨hq ▸ hq', hc ▸ hc', hp ▸ hp'⟩
  · rw [hl]
    rintro l hl (⟨r, hr, ht⟩ | served)
    · obtain ⟨r', hr', ht', -⟩ := old l hl r hr ht
      exact h.engaged l hl (Or.inl ⟨r', hr', ht'⟩)
    · exact h.engaged l hl (Or.inr served)

theorem recrew (h : Tenancy log s) {crew : List (Clerk K V)} {strangers : List ConsumerTag}
    (distinct : (crew.map (·.tag)).Nodup)
    (kept : ∀ k ∈ crew, ∃ k' ∈ s.crew, k'.toSeat = k.toSeat) : Tenancy log { s with crew, strangers } := by
  refine ⟨h.broker, distinct, ?_, h.once, h.issued, h.terms, h.bounded, h.listed, ?_, h.handles⟩
  · intro k hk
    obtain ⟨k', hk', hs⟩ := kept k hk
    rw [← hs]
    exact h.leased k' hk'
  · rintro l hl (live | ⟨k, hk, ht⟩)
    · exact h.engaged l hl (Or.inl live)
    · obtain ⟨k', hk', hs⟩ := kept k hk
      have ht' : k'.tag = l.1.tag := (congrArg Seat.tag hs).trans ht
      exact h.engaged l hl (Or.inr ⟨k', hk', ht'⟩)

theorem setPhase (h : Tenancy log s) (t : ConsumerTag) (p : Phase) : Tenancy log (s.setPhase t p) := by
  refine h.recrew ((s.tags_setPhase t p).symm ▸ h.distinct) fun k hk => ?_
  · obtain ⟨j, hj, rfl⟩ := List.mem_map.1 hk
    exact ⟨j, hj, by split <;> rfl⟩

theorem dismiss (h : Tenancy log s) (t : ConsumerTag) : Tenancy log (s.dismiss t) :=
  h.recrew (h.distinct.sublist (List.filter_sublist.map _)) fun k hk => ⟨k, (List.mem_filter.1 hk).1, rfl⟩

theorem onConsumer (h : Tenancy log s) (n : Nat) (f : Consumer → Consumer)
    (hf : ∀ x, (f x).channel = x.channel ∧ (f x).prefetch = x.prefetch ∧
      (f x).active.value = x.active.value) :
    Tenancy log { s with consumers := s.consumers.modify n f } := by
  have forth : ∀ (i : Nat) (x : Consumer), s.consumers[i]? = some x →
      ∃ x' : Consumer, (s.consumers.modify n f)[i]? = some x' ∧ x'.channel = x.channel ∧
      x'.prefetch = x.prefetch ∧ x'.active.value = x.active.value := by
    intro i x hx
    rw [List.getElem?_modify, hx]
    refine ⟨_, rfl, ?_⟩
    split
    · exact hf x
    · exact ⟨rfl, rfl, rfl⟩
  have back : ∀ (i : Nat) (x' : Consumer), (s.consumers.modify n f)[i]? = some x' →
      ∃ x : Consumer, s.consumers[i]? = some x ∧ x'.prefetch = x.prefetch ∧
      x'.active.value = x.active.value := by
    intro i x' hx
    cases hi : s.consumers[i]? with
    | none => simp [List.getElem?_modify, hi] at hx
    | some x =>
      obtain ⟨y, hy, -, hp, ha⟩ := forth i x hi
      obtain rfl := Option.some.inj (hy.symm.trans hx)
      exact ⟨x, rfl, hp, ha⟩
  refine ⟨h.broker, h.distinct, h.leased, h.once, h.issued, ?_, ?_, h.listed, ?_, ?_⟩
  · intro l hl
    obtain ⟨x, hx, hc, hp⟩ := h.terms l hl
    obtain ⟨x', hx', hc', hp', -⟩ := forth _ x hx
    exact ⟨x', hx', hc'.trans hc, hp'.trans hp⟩
  · intro x' hx'
    obtain ⟨i, hi⟩ := List.mem_iff_getElem?.1 hx'
    obtain ⟨x, hx, hp, -⟩ := back i x' hi
    rw [hp]
    exact h.bounded x (List.mem_of_getElem? hx)
  · intro l hl live
    obtain ⟨x, hx, active⟩ := h.engaged l hl live
    obtain ⟨x', hx', -, -, ha⟩ := forth _ x hx
    exact ⟨x', hx', ha.trans active⟩
  · intro i x' a hx' active
    obtain ⟨x, hx, -, ha⟩ := back i x' hx'
    exact h.handles i x a hx (ha.symm.trans active)

theorem tally (h : Tenancy log s) (n : Nat) (f : Stats → Stats) : Tenancy log (s.tally n f) :=
  h.onConsumer n _ fun _ => ⟨rfl, rfl, rfl⟩

theorem keep [DecidableEq K] (h : Tenancy log s) (n : Nat) (key : K) (m : Message V) :
    Tenancy log (s.keep n key m) := by
  rw [Scene.keep_eq]
  exact ⟨h.broker, h.distinct, h.leased, h.once, h.issued, h.terms, h.bounded, h.listed, h.engaged, h.handles⟩

theorem enrolled (h : Tenancy log s) {x : Consumer} (idle : x.active.value = none)
    (bounded : 0 < x.prefetch) : Tenancy log { s with consumers := s.consumers ++ [x] } := by
  have forth : ∀ (i : Nat) (y : Consumer), s.consumers[i]? = some y → (s.consumers ++ [x])[i]? = some y := by
    intro i y hy
    rw [List.getElem?_append_left (List.getElem?_eq_some_iff.1 hy).1, hy]
  refine ⟨h.broker, h.distinct, h.leased, h.once, h.issued, ?_, ?_, h.listed, ?_, ?_⟩
  · intro l hl
    obtain ⟨y, hy, same⟩ := h.terms l hl
    exact ⟨y, forth _ y hy, same⟩
  · intro y hy
    rcases List.mem_append.1 hy with hy | hy
    · exact h.bounded y hy
    · rw [List.mem_singleton.1 hy]
      exact bounded
  · intro l hl live
    obtain ⟨y, hy, active⟩ := h.engaged l hl live
    exact ⟨y, forth _ y hy, active⟩
  · intro i y a hy active
    rcases Nat.lt_or_ge i s.consumers.length with hi | hi
    · exact h.handles i y a ((List.getElem?_append_left hi).symm.trans hy) active
    · -- past the old ones stands only the new one, which holds nothing
      have hnew := List.mem_of_getElem? ((List.getElem?_append_right hi).symm.trans hy)
      rw [List.mem_singleton.1 hnew, idle] at active
      cases active

theorem sound (h : Tenancy log s) : Broker.Sound s.broker := by
  rw [h.broker]
  exact (Broker.run_after _).sound

theorem fresh (h : Tenancy log s) {l : Seat K V × Nat} (hl : l ∈ leases log) :
    l.1.tag ≠ Broker.consumerTag s.broker.nextConsumer := by
  intro ht
  obtain ⟨i, hi, hti⟩ := h.issued l hl
  exact hi.ne (Broker.consumerTag_injective (hti.symm.trans ht))

theorem subscribed_act (h : Tenancy log s) (a : Broker.Act) {l : Seat K V × Nat}
    (hl : l ∈ leases log) (live : ∃ r ∈ (s.broker.act a).subscriptions, r.tag = l.1.tag) :
    ∃ r ∈ s.broker.subscriptions, r.tag = l.1.tag := by
  obtain ⟨r, hr, ht⟩ := live
  rcases Broker.subscription_of_change (Broker.change s.broker a) hr with ⟨r', hr', ht', -⟩ | fresh
  · exact ⟨r', hr', ht'.trans ht⟩
  · exact absurd (ht.symm.trans fresh) (h.fresh hl)

section Join

variable {f : Filing K V} {x : Consumer}

theorem consumers_join (s : Scene K V) (x : Consumer) (f : Filing K V) (i : Nat) :
    (s.join x f).consumers[i]? = if f.consumer = i then (s.consumers[i]?).map fun y =>
      { y with active := y.active.put (some (s.nextSeat x f).handle) } else s.consumers[i]? :=
  Scene.consumers_onActive s f.consumer (·.put (some (s.nextSeat x f).handle)) i

/-- What is subscribed or served is not of a consumer that has no handle. -/
theorem busy (h : Tenancy log s) (found : s.consumers[f.consumer]? = some x) (idle : x.active.value = none)
    {l : Seat K V × Nat} (hl : l ∈ leases log) (live : (∃ r ∈ s.broker.subscriptions, r.tag = l.1.tag) ∨
      ∃ k ∈ s.crew, k.tag = l.1.tag) : f.consumer ≠ l.1.how.consumer := by
  intro hn
  obtain ⟨y, hy, active⟩ := h.engaged l hl live
  obtain rfl := Option.some.inj (found.symm.trans (hn ▸ hy))
  rw [idle] at active
  cases active

theorem join (h : Tenancy log s) (found : s.consumers[f.consumer]? = some x) (idle : x.active.value = none)
    (usable : s.broker.usable x.channel = .ok ()) (housed : s.broker.hasQueue f.queue = true) :
    Tenancy (log ++ [.joined (s.nextSeat x f) x.prefetch]) (s.join x f) := by
  have hs : acts (log ++ [.joined (s.nextSeat x f) x.prefetch]) =
      acts log ++ [.subscribe x.channel f.queue x.prefetch] := acts_append _ _
  have hl : leases (log ++ [.joined (s.nextSeat x f) x.prefetch]) =
      leases log ++ [(s.nextSeat x f, x.prefetch)] := leases_append _ _
  have served : ∀ l ∈ leases log, ((∃ r ∈ (s.join x f).broker.subscriptions, r.tag = l.1.tag) ∨
      ∃ k ∈ (s.join x f).crew, k.tag = l.1.tag) →
      (∃ r ∈ s.broker.subscriptions, r.tag = l.1.tag) ∨ ∃ k ∈ s.crew, k.tag = l.1.tag := by
    rintro l hl (⟨r, hr, ht⟩ | ⟨k, hk, ht⟩)
    · rcases List.mem_append.1 hr with hr | hr
      · exact Or.inl ⟨r, hr, ht⟩
      · rw [List.mem_singleton.1 hr] at ht
        exact absurd ht.symm (h.fresh hl)
    · rcases List.mem_append.1 hk with hk | hk
      · exact Or.inr ⟨k, hk, ht⟩
      · rw [List.mem_singleton.1 hk] at ht
        exact absurd ht.symm (h.fresh hl)
  have mine : (s.join x f).consumers[f.consumer]? =
      some { x with active := x.active.put (some (s.nextSeat x f).handle) } := by
    rw [consumers_join, if_pos rfl, found]
    rfl
  refine ⟨?_, ?_, ?_, ?_, ?_, ?_, ?_, ?_, ?_, ?_⟩
  · rw [hs, Broker.after_snoc, ← h.broker]
    simp only [Broker.act, Broker.subscribe_ok usable housed]
    rfl
  · have hc : (s.join x f).crew.map (·.tag) =
        s.crew.map (·.tag) ++ [Broker.consumerTag s.broker.nextConsumer] := by
      simp [Scene.join, Scene.onActive, Scene.nextSeat]
    rw [hc]
    refine List.nodup_append.2 ⟨h.distinct, List.nodup_singleton _, ?_⟩
    rintro t ht t' ht' rfl
    obtain ⟨k, hk, rfl⟩ := List.mem_map.1 ht
    obtain ⟨p, hp⟩ := h.leased k hk
    exact h.fresh hp (List.mem_singleton.1 ht')
  · rw [hl]
    intro k hk
    rcases List.mem_append.1 hk with hk | hk
    · obtain ⟨p, hp⟩ := h.leased k hk
      exact ⟨p, List.mem_append_left _ hp⟩
    · rw [List.mem_singleton.1 hk]
      exact ⟨x.prefetch, List.mem_append_right _ (List.mem_singleton_self _)⟩
  · rw [hl, List.map_append]
    refine List.nodup_append.2 ⟨h.once, List.nodup_singleton _, ?_⟩
    rintro t ht t' ht' rfl
    obtain ⟨l, hl, rfl⟩ := List.mem_map.1 ht
    exact h.fresh hl (List.mem_singleton.1 ht')
  · rw [hl]
    intro l hl
    rcases List.mem_append.1 hl with hl | hl
    · obtain ⟨i, hi, ht⟩ := h.issued l hl
      exact ⟨i, hi.trans (Nat.lt_succ_self _), ht⟩
    · rw [List.mem_singleton.1 hl]
      exact ⟨s.broker.nextConsumer, Nat.lt_succ_self _, rfl⟩
  · rw [hl]
    intro l hl
    rcases List.mem_append.1 hl with hl | hl
    · obtain ⟨y, hy, hc, hp⟩ := h.terms l hl
      rw [consumers_join, hy]
      split
      · exact ⟨_, rfl, hc, hp⟩
      · exact ⟨y, rfl, hc, hp⟩
    · rw [List.mem_singleton.1 hl]
      exact ⟨_, mine, rfl, rfl⟩
  · intro y hy
    obtain ⟨i, hi⟩ := List.mem_iff_getElem?.1 hy
    rw [consumers_join] at hi
    split at hi
    · obtain ⟨z, hz, rfl⟩ := Option.map_eq_some_iff.1 hi
      exact h.bounded z (List.mem_of_getElem? hz)
    · exact h.bounded y (List.mem_of_getElem? hi)
  · rw [hl]
    intro l hl r hr ht
    rcases List.mem_append.1 hl with hl | hl
    · rcases List.mem_append.1 hr with hr | hr
      · exact h.listed l hl r hr ht
      · rw [List.mem_singleton.1 hr] at ht
        exact absurd ht.symm (h.fresh hl)
    · rw [List.mem_singleton.1 hl] at ht ⊢
      rcases List.mem_append.1 hr with hr | hr
      · exact absurd ht (h.sound.fresh r hr)
      · rw [List.mem_singleton.1 hr]
        exact ⟨rfl, rfl, rfl⟩
  · rw [hl]
    intro l hl live
    rcases List.mem_append.1 hl with hl | hl
    · have live := served l hl live
      obtain ⟨y, hy, active⟩ := h.engaged l hl live
      refine ⟨y, ?_, active⟩
      rw [consumers_join, if_neg (h.busy found idle hl live), hy]
    · rw [List.mem_singleton.1 hl]
      exact ⟨_, mine, rfl⟩
  · rw [hl]
    intro i y a hy active
    rw [consumers_join] at hy
    split at hy
    · next hi =>
      subst hi
      rw [found] at hy
      obtain rfl := Option.some.inj hy
      exact ⟨_, List.mem_append_right _ (List.mem_singleton_self _), rfl, Option.some.inj active⟩
    · obtain ⟨l, hl, hn, ha⟩ := h.handles i y a hy active
      exact ⟨l, List.mem_append_left _ hl, hn, ha⟩

end Join

theorem forgot (h : Tenancy log s) {n : Nat} {x : Consumer} {a : Handle} (found : s.consumers[n]? = some x)
    (active : x.active.value = some a) (gone : s.broker.subscription? a.tag = none)
    (nobody : ∀ k ∈ s.crew, k.tag ≠ a.tag) : Tenancy log (s.onActive n (·.put none)) := by
  refine ⟨h.broker, h.distinct, h.leased, h.once, h.issued, ?_, ?_, h.listed, ?_, ?_⟩
  · intro l hl
    obtain ⟨y, hy, hc, hp⟩ := h.terms l hl
    rw [Scene.consumers_onActive, hy]
    split
    · exact ⟨_, rfl, hc, hp⟩
    · exact ⟨y, rfl, hc, hp⟩
  · intro y hy
    obtain ⟨i, hi⟩ := List.mem_iff_getElem?.1 hy
    rw [Scene.consumers_onActive] at hi
    split at hi
    · obtain ⟨z, hz, rfl⟩ := Option.map_eq_some_iff.1 hi
      exact h.bounded z (List.mem_of_getElem? hz)
    · exact h.bounded y (List.mem_of_getElem? hi)
  · intro l hl live
    obtain ⟨y, hy, engaged⟩ := h.engaged l hl live
    refine ⟨y, ?_, engaged⟩
    rw [Scene.consumers_onActive, hy]
    split
    · next hn =>
      -- it would be the one that is gone
      subst hn
      obtain rfl := Option.some.inj (found.symm.trans hy)
      obtain rfl := Option.some.inj (active.symm.trans engaged)
      rcases live with ⟨r, hr, ht⟩ | ⟨k, hk, ht⟩
      · exact absurd (decide_eq_true ht) (List.find?_eq_none.1 gone r hr)
      · exact absurd ht (nobody k hk)
    · rfl
  · intro i y b hy held
    rw [Scene.consumers_onActive] at hy
    split at hy
    · obtain ⟨z, -, rfl⟩ := Option.map_eq_some_iff.1 hy
      cases held
    · exact h.handles i y b hy held

theorem step [DecidableEq K] {s' : Scene K V} {new : List (Mark K V)} (e : Effect s new s')
    (h : Tenancy log s) : Tenancy (log ++ new) s' := by
  cases e with
  | still => rwa [List.append_nil]
  | acted a free => exact h.act rfl rfl
  | stored =>
    rw [List.append_nil]
    exact ⟨h.broker, h.distinct, h.leased, h.once, h.issued, h.terms, h.bounded, h.listed, h.engaged,
      h.handles⟩
  | enrolled x idle clean bounded =>
    rw [List.append_nil]
    exact h.enrolled idle bounded
  | joined f x found idle usable housed => exact h.join found idle usable housed
  | spoiled n =>
    rw [List.append_nil]
    exact h.onConsumer n _ fun _ => ⟨rfl, rfl, rfl⟩
  | forgot n x a found active gone nobody =>
    rw [List.append_nil]
    exact h.forgot found active gone nobody
  | took k d b found free delivered =>
    have hb : s.broker.act (.deliver k.tag) = b := by simp [Broker.act, delivered]
    have ha := h.act (m := .took k.toSeat d) (a := .deliver k.tag) rfl rfl
    rw [hb] at ha
    exact ha.setPhase _ _
  | filed k d key m => exact Tenancy.setPhase (((h.keep _ _ _).tally _ _).silent rfl rfl) _ _
  | refused k d why => exact Tenancy.setPhase ((h.tally _ _).silent rfl rfl) _ _
  | settled k d r u => exact Tenancy.setPhase (h.act rfl rfl) _ _
  | failed k d r why => exact Tenancy.setPhase ((h.tally _ _).silent rfl rfl) _ _
  | crashed k d r p => exact (h.silent rfl rfl).dismiss _
  | departed k =>
    rw [List.append_nil]
    exact h.dismiss _

end Tenancy

theorem Bench.History.tenancy [DecidableEq K] [Debug K] {log : List (Mark K V)} {w : Bench K V}
    (h : Bench.History log w) : Tenancy log w.scene := h.induct .empty Tenancy.step

end QueueProbe
