import QueueProbe.Proofs.Broker.Prefetch
import QueueProbe.Proofs.Broker.Tags

/-! Receipts. What a consumer was ever given is what it still has unacked and what was taken from it
again, by an ack, by a reject or as its channel was closed: each delivery once. -/

namespace QueueProbe.Broker

def Event.receivedBy (t : ConsumerTag) : Event → Option Delivery
  | .delivered s d => if s.tag = t then some d else none
  | _ => none

/-- The entry that is taken off the broker, for good or not. -/
def Event.entry? : Event → Option Unacked
  | .acked u | .rejected u _ | .restored u => some u
  | .sent _ _ | .delivered _ _ => none

/-- The deliveries made to consumer `t`. -/
def received (t : ConsumerTag) (es : List Event) : List Delivery := es.filterMap (Event.receivedBy t)

/-- The entries of consumer `t` that are unacked no longer. -/
def ended (t : ConsumerTag) (es : List Event) : List Unacked :=
  (es.filterMap Event.entry?).filter (·.consumer = t)

/-- The entries of consumer `t` that are unacked. -/
def pending (b : Broker) (t : ConsumerTag) : List Unacked := b.unacked.filter (·.consumer = t)

variable {b b' : Broker} {es new : List Event} {u : Unacked} {t : ConsumerTag} {s s' : Subscription}
  {d d' : Delivery}

theorem received_append (t : ConsumerTag) (es fs : List Event) :
    received t (es ++ fs) = received t es ++ received t fs := List.filterMap_append

theorem ended_append (t : ConsumerTag) (es fs : List Event) :
    ended t (es ++ fs) = ended t es ++ ended t fs := by
  simp [ended]

theorem load_eq (b : Broker) (t : ConsumerTag) : b.load t = (b.pending t).length :=
  List.countP_eq_length_filter

theorem mem_received : d ∈ received t es ↔ ∃ s, .delivered s d ∈ es ∧ s.tag = t := by
  simp only [received, List.mem_filterMap]
  constructor
  · rintro ⟨e, he, hd⟩
    cases e with
    | delivered s d' =>
      obtain ⟨ht, hd⟩ := Option.ite_none_right_eq_some.1 hd
      obtain rfl := Option.some.inj hd
      exact ⟨s, he, ht⟩
    | _ => cases hd
  · rintro ⟨s, hs, ht⟩
    exact ⟨_, hs, if_pos ht⟩

theorem entries_restored (us : List Unacked) : (us.map Event.restored).filterMap Event.entry? = us := by
  rw [List.filterMap_map]
  exact List.filterMap_some

theorem received_change (sound : Sound b) (c : Change b new b') (t : ConsumerTag) :
    ((ended t new ++ b'.pending t).map told).Perm ((b.pending t).map told ++ received t new) := by
  have settled : ∀ {v : Unacked}, b.unacked? v.tag = some v →
      (([v].filter (·.consumer = t) ++ (b.settled v).pending t).map told).Perm ((b.pending t).map told) := by
    intro v found
    have hp := ((unacked_perm_settled sound found).filter (·.consumer = t)).map told
    rw [← List.singleton_append, List.filter_append] at hp
    exact hp.symm
  cases c with
  | delivered r x e rest =>
    have hr : received t [Event.delivered r (told (b.entry r e))] =
        ([b.entry r e].filter (·.consumer = t)).map told := by
      by_cases ht : r.tag = t <;> simp [received, Event.receivedBy, entry, ht]
    have hp : (b.handedOut r e).pending t = b.pending t ++ [b.entry r e].filter (·.consumer = t) :=
      List.filter_append ..
    rw [hr, hp, ← List.map_append]
    exact List.Perm.refl _
  | acked v usable found =>
    rw [show received t [Event.acked v] = [] from rfl, List.append_nil]
    exact settled found
  | rejected v k usable found =>
    rw [show received t [Event.rejected v k] = [] from rfl, List.append_nil]
    exact settled found
  | closed c =>
    have hr : received t ((b.unacked.filter (·.channel = c)).map Event.restored) = [] := by
      simp [received, Event.receivedBy]
    have hp := (b.unacked.filter_append_perm (·.channel = c)).filter (·.consumer = t)
    rw [hr, List.append_nil, ended, entries_restored]
    simpa only [List.filter_append, decide_not, ne_eq, pending, shut] using hp.map told
  | _ => exact (List.append_nil _).symm ▸ List.Perm.refl _

theorem Run.received_perm (h : Run es b) (t : ConsumerTag) :
    (received t es).Perm ((ended t es ++ b.pending t).map told) := by
  induction h with
  | nil => exact .nil
  | @snoc es b a run ih =>
    have hc := received_change run.sound (b.change a) t
    rw [received_append, ended_append, List.append_assoc, List.map_append]
    refine (ih.append_right _).trans ?_
    rw [List.map_append, List.append_assoc]
    exact hc.symm.append_left _

theorem Run.load_add (h : Run es b) (t : ConsumerTag) :
    b.load t + (ended t es).length = (received t es).length := by
  have hl := (h.received_perm t).length_eq
  rw [List.length_map, List.length_append] at hl
  rw [load_eq]
  omega

/-- Where an entry comes from. -/
def Origin (es : List Event) (u : Unacked) : Prop :=
  ∃ s, .delivered s (told u) ∈ es ∧ s.tag = u.consumer ∧ s.queue = u.queue ∧ s.channel = u.channel

theorem entry_of_change (c : Change b new b') {e : Event} (he : e ∈ new) (hu : e.entry? = some u) :
    u ∈ b.unacked := by
  cases c with
  | acked v usable found =>
    obtain rfl := List.mem_singleton.1 he
    obtain rfl := Option.some.inj hu
    exact List.mem_of_find?_eq_some found
  | rejected v k usable found =>
    obtain rfl := List.mem_singleton.1 he
    obtain rfl := Option.some.inj hu
    exact List.mem_of_find?_eq_some found
  | closed c =>
    obtain ⟨v, hv, rfl⟩ := List.mem_map.1 he
    obtain rfl := Option.some.inj hu
    exact (List.mem_filter.1 hv).1
  | sent c q l | delivered r x w rest =>
    obtain rfl := List.mem_singleton.1 he
    cases hu
  | _ => cases he

theorem Run.origin (h : Run es b) (hu : u ∈ b.unacked) : Origin es u := by
  induction h with
  | nil => cases hu
  | @snoc es b a run ih =>
    have change := b.change a
    have grown : ∀ {u}, Origin es u → Origin (es ++ b.events a) u := fun ⟨s, hs, same⟩ =>
      ⟨s, List.mem_append_left _ hs, same⟩
    generalize b.events a = new, b.act a = b' at *
    cases change with
    | delivered s x e rest =>
      rcases List.mem_append.1 hu with hu | hu
      · exact grown (ih hu)
      · rw [List.mem_singleton.1 hu]
        exact ⟨s, List.mem_append_right _ (List.mem_singleton_self _), rfl, rfl, rfl⟩
    | acked v | rejected v k | closed c => exact grown (ih (List.mem_filter.1 hu).1)
    | _ => exact grown (ih hu)

theorem Run.ended_origin (h : Run es b) {e : Event} (he : e ∈ es) (hu : e.entry? = some u) : Origin es u := by
  induction h with
  | nil => cases he
  | @snoc es b a run ih =>
    have old : Origin es u := by
      rcases List.mem_append.1 he with he | he
      · exact ih he
      · exact run.origin (entry_of_change (b.change a) he hu)
    obtain ⟨s, hs, same⟩ := old
    exact ⟨s, List.mem_append_left _ hs, same⟩

/-- What a consumer has unacked is what it was given and has not ended. -/
theorem Run.mem_pending (h : Run es b) : d ∈ (b.pending t).map told ↔
    d ∈ received t es ∧ d.tag ∉ (finished es).map Prod.fst := by
  have perm := (h.received_perm t).mem_iff (a := d)
  rw [List.map_append, List.mem_append] at perm
  constructor
  · intro hd
    obtain ⟨u, hu, rfl⟩ := List.mem_map.1 hd
    have found := h.sound.unacked?_of_mem (List.mem_filter.1 hu).1
    exact ⟨perm.2 (Or.inr hd), (h.tagged.owned found).2⟩
  · rintro ⟨hd, unfinished⟩
    refine (perm.1 hd).resolve_left fun hd => unfinished ?_
    obtain ⟨u, hu, rfl⟩ := List.mem_map.1 hd
    obtain ⟨e, he, heu⟩ := List.mem_filterMap.1 (List.mem_filter.1 hu).1
    have ends : e.finish = some (stub u) := by cases e <;> cases heu <;> rfl
    exact List.mem_map.2 ⟨stub u, List.mem_filterMap.2 ⟨e, he, ends⟩, rfl⟩

theorem Run.delivered_unique (h : Run es b) (hd : .delivered s d ∈ es) (hd' : .delivered s' d' ∈ es)
    (ht : d.tag = d'.tag) : s = s' ∧ d = d' := by
  have rising := h.tagged.rising
  rw [issued, List.pairwise_filterMap] at rising
  obtain ⟨i, hi, hdi⟩ := List.mem_iff_getElem.1 hd
  obtain ⟨j, hj, hdj⟩ := List.mem_iff_getElem.1 hd'
  rw [List.pairwise_iff_getElem] at rising
  rcases Nat.lt_trichotomy i j with hlt | rfl | hlt
  · have := rising i j hi hj hlt (d.tag, s.channel) (by rw [hdi]; rfl) (d'.tag, s'.channel) (by rw [hdj]; rfl)
    exact absurd ht this.ne
  · obtain ⟨rfl, rfl⟩ : s = s' ∧ d = d' := by simpa using hdi.symm.trans hdj
    exact ⟨rfl, rfl⟩
  · have := rising j i hj hi hlt (d'.tag, s'.channel) (by rw [hdj]; rfl) (d.tag, s.channel) (by rw [hdi]; rfl)
    exact absurd ht this.ne'

theorem Run.rising (h : Run es b) {f : Event → Option Delivery}
    (made : ∀ e d, f e = some d → ∃ s, e = .delivered s d) : (es.filterMap f).Pairwise (·.tag < ·.tag) := by
  have rising := h.tagged.rising
  rw [issued, List.pairwise_filterMap] at rising
  rw [List.pairwise_filterMap]
  refine rising.imp fun {e e'} hlt d hd d' hd' => ?_
  obtain ⟨s, rfl⟩ := made e d hd
  obtain ⟨s', rfl⟩ := made e' d' hd'
  exact hlt _ rfl _ rfl

theorem Run.received_rising (h : Run es b) (t : ConsumerTag) : (received t es).Pairwise (·.tag < ·.tag) := by
  refine h.rising fun e d hd => ?_
  cases e with
  | delivered s x =>
    obtain ⟨-, hd⟩ := Option.ite_none_right_eq_some.1 hd
    exact ⟨s, congrArg _ (Option.some.inj hd)⟩
  | _ => cases hd

theorem Run.named (h : Run es b) (hd : .delivered s d ∈ es) : ∃ i < b.nextConsumer, s.tag = consumerTag i := by
  induction h with
  | nil => cases hd
  | @snoc es b a run ih =>
    have change := b.change a
    have grown := nextConsumer_change change
    rcases List.mem_append.1 hd with hd | hd
    · obtain ⟨i, hi, ht⟩ := ih hd
      exact ⟨i, hi.trans_le grown, ht⟩
    · generalize b.events a = new, b.act a = b' at *
      cases change with
      | delivered r x e rest found =>
        obtain ⟨rfl, -⟩ : s = r ∧ d = told (b.entry r e) := by simpa using hd
        exact run.sound.named s (List.mem_of_find?_eq_some found)
      | closed c => simp at hd
      | _ => simp at hd

theorem isClosed_change (c : Change b new b') {ch : ChannelId} (h : b.isClosed ch = true) :
    b'.isClosed ch = true := by
  cases c with
  | closed d =>
    simp only [isClosed, List.contains_eq_mem, decide_eq_true_eq] at h ⊢
    exact List.mem_append_left _ h
  | _ => exact h

theorem Run.restored_closed (h : Run es b) (hu : .restored u ∈ es) : b.isClosed u.channel = true := by
  induction h with
  | nil => cases hu
  | @snoc es b a run ih =>
    have change := b.change a
    rcases List.mem_append.1 hu with hu | hu
    · exact isClosed_change change (ih hu)
    · generalize b.events a = new, b.act a = b' at *
      cases change with
      | closed c =>
        obtain ⟨v, hv, he⟩ := List.mem_map.1 hu
        obtain rfl := Event.restored.inj he
        have hc : v.channel = c := by simpa using (List.mem_filter.1 hv).2
        simp [isClosed, shut, hc]
      | _ => simp at hu

end QueueProbe.Broker
