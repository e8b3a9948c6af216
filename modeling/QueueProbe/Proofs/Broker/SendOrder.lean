import QueueProbe.Proofs.Broker.Circling

/-! The order of first deliveries. What was never delivered stands in line in the order in which it was
sent, whatever goes back to the front, to the back or between: nothing that goes back is new. So the
first deliveries, followed by the new letters in line, are always all that was sent. -/

namespace QueueProbe.Broker

namespace Lane

structure Orderly (l : Lane) : Prop where
  whole : (l.items.map Item.slot).Perm l.sent.zipIdx
  /-- How often an item was delivered is what its count says. -/
  counted : ∀ x ∈ l.items, x.count = l.taken.countP (·.place = x.place)
  begun : ∀ x ∈ l.out, 0 < x.2.count
  fresh : (l.taken.filter (·.count = 1)).map Item.slot ++
    (l.line.filter (·.count = 0)).map Item.slot = l.sent.zipIdx
  /-- Every delivery says rightly which of its letter's it was. -/
  tallied : ∀ before x rest, l.taken = before ++ x :: rest →
    l.sent[x.place]? = some x.letter ∧ x.count = before.countP (·.place = x.place) + 1

variable {l l' : Lane} {x : Item} {rest : List Item}

theorem held_perm (l : Lane) (n : Nat) :
    (l.held n ++ (l.out.filter (·.1 ≠ n)).map (·.2)).Perm (l.out.map (·.2)) := by
  rw [held, ← List.map_append]
  refine List.Perm.map _ ?_
  simpa only [decide_not, ne_eq] using l.out.filter_append_perm fun x => x.1 = n

theorem take_cons (hl : l.line = x :: rest) (n : Nat) : l.take n = { l with
    line := rest, out := l.out ++ [(n, x.again)], taken := l.taken ++ [x.again] } := by
  simp [Lane.take, hl]

/-- All items but the one in front of `rest`. -/
def others (l : Lane) (rest : List Item) : List Item := rest ++ l.out.map (·.2) ++ l.gone

theorem items_cons (hl : l.line = x :: rest) : l.items = x :: l.others rest := by
  simp [items, others, hl]

theorem items_take (hl : l.line = x :: rest) (n : Nat) :
    (l.take n).items.Perm (x.again :: l.others rest) := by
  refine List.perm_iff_count.2 fun y => ?_
  simp only [take_cons hl, items, others, List.map_append, List.map_cons, List.map_nil, List.count_append,
    List.count_cons, List.count_nil]
  omega

namespace Orderly

theorem empty : Orderly {} := by constructor <;> simp [items]

theorem places_nodup (h : Orderly l) : (l.items.map (·.place)).Nodup := by
  have hp := h.whole.map Prod.snd
  rw [List.zipIdx_map_snd, List.map_map] at hp
  exact hp.nodup_iff.2 List.nodup_range'

theorem sent_at (h : Orderly l) (hx : x ∈ l.items) : l.sent[x.place]? = some x.letter := by
  have hs := h.whole.subset (List.mem_map_of_mem (f := Item.slot) hx)
  simpa [Item.slot, List.mem_zipIdx_iff_getElem?] using hs

theorem place_lt (h : Orderly l) (hx : x ∈ l.taken) : x.place < l.sent.length := by
  obtain ⟨before, rest, hs⟩ := List.append_of_mem hx
  exact (List.getElem?_eq_some_iff.1 (h.tallied before x rest hs).1).1

theorem post (h : Orderly l) (m : Letter) : Orderly (l.post m) where
  whole := by
    have hp : ((l.post m).items).Perm (l.items ++ [⟨l.sent.length, m, 0⟩]) := by
      refine List.perm_iff_count.2 fun y => ?_
      simp only [Lane.post, items, List.count_append]
      omega
    have hz : (l.post m).sent.zipIdx = l.sent.zipIdx ++ [(m, l.sent.length)] := by
      simp [Lane.post, List.zipIdx_append]
    rw [hz]
    refine (hp.map Item.slot).trans ?_
    rw [List.map_append]
    exact h.whole.append_right _
  counted := by
    intro x hx
    have hx : x ∈ l.items ∨ x = ⟨l.sent.length, m, 0⟩ := by
      simp only [Lane.post, items, List.mem_append, List.mem_singleton] at hx ⊢
      tauto
    rcases hx with hx | rfl
    · exact h.counted x hx
    · refine (List.countP_eq_zero.2 fun y hy hp => ?_).symm
      exact (h.place_lt hy).ne (of_decide_eq_true hp)
  begun := h.begun
  fresh := by
    have hf := h.fresh
    simp only [Lane.post, List.filter_append, List.map_append, List.zipIdx_append, ← hf]
    simp [Item.slot]
  tallied := by
    intro before x rest hs
    obtain ⟨hl, hc⟩ := h.tallied before x rest hs
    have hlt := (List.getElem?_eq_some_iff.1 hl).1
    exact ⟨(List.getElem?_append_left hlt).trans hl, hc⟩

/-- What the front is after it went out is one item more to account for, in place of the front. -/
theorem counted_take (h : Orderly l) (hl : l.line = x :: rest) {y : Item}
    (hy : y ∈ x.again :: l.others rest) : y.count = (l.taken ++ [x.again]).countP (·.place = y.place) := by
  have hnodup := h.places_nodup
  rw [items_cons hl, List.map_cons, List.nodup_cons] at hnodup
  rw [List.countP_append, List.countP_singleton]
  rcases List.mem_cons.1 hy with rfl | hy
  · have hcount := h.counted x (items_cons hl ▸ List.mem_cons_self)
    simp [Item.again, hcount]
  · have hne : ¬x.again.place = y.place := fun he => hnodup.1 (List.mem_map.2 ⟨y, hy, he.symm⟩)
    rw [h.counted y (items_cons hl ▸ List.mem_cons_of_mem x hy)]
    simp [hne]

theorem fresh_take (h : Orderly l) (hl : l.line = x :: rest) :
    ((l.taken ++ [x.again]).filter (·.count = 1)).map Item.slot ++
      (rest.filter (·.count = 0)).map Item.slot = l.sent.zipIdx := by
  have hf := h.fresh
  rw [hl] at hf
  by_cases hc : x.count = 0
  · simpa [Item.again, Item.slot, hc] using hf
  · simpa [Item.again, hc] using hf

theorem tallied_take (h : Orderly l) (hl : l.line = x :: rest) {before after : List Item} {y : Item}
    (hs : l.taken ++ [x.again] = before ++ y :: after) :
    l.sent[y.place]? = some y.letter ∧ y.count = before.countP (·.place = y.place) + 1 := by
  have hx : x ∈ l.items := items_cons hl ▸ List.mem_cons_self
  rcases List.eq_nil_or_concat after with rfl | ⟨after, z, rfl⟩
  · obtain ⟨rfl, hy⟩ := List.append_inj' hs rfl
    obtain rfl := List.singleton_inj.1 hy
    have hat : l.sent[x.place]? = some x.letter := h.sent_at hx
    exact ⟨hat, congrArg (· + 1) (h.counted x hx)⟩
  · rw [List.concat_eq_append, ← List.cons_append, ← List.append_assoc] at hs
    exact h.tallied before y after (List.append_inj' hs rfl).1

theorem take (h : Orderly l) (n : Nat) : Orderly (l.take n) := by
  cases hl : l.line with
  | nil =>
    obtain ⟨sent, line, out, taken, gone⟩ := l
    obtain rfl : line = [] := hl
    simpa [Lane.take] using h
  | cons x rest =>
    have hp := items_take hl n
    rw [take_cons hl] at hp ⊢
    constructor
    · refine (hp.map Item.slot).trans ?_
      have hw := h.whole
      rw [items_cons hl] at hw
      exact hw
    · intro y hy
      exact h.counted_take hl (hp.subset hy)
    · intro y hy
      rcases List.mem_append.1 hy with hy | hy
      · exact h.begun y hy
      · rw [List.mem_singleton.1 hy]
        exact Nat.succ_pos _
    · exact h.fresh_take hl
    · intro before y after hs
      exact h.tallied_take hl hs

/-- Where an item goes when its delivery ends does not matter, if no letter comes in front of a new
one that is new itself. -/
theorem shuffle (h : Orderly l) {line gone : List Item} {n : Nat}
    (same : (line ++ gone).Perm (l.line ++ l.gone ++ l.held n))
    (fresh : line.filter (·.count = 0) = l.line.filter (·.count = 0)) :
    Orderly { l with line, out := l.out.filter (·.1 ≠ n), gone } := by
  have hp : ({ l with line, out := l.out.filter (·.1 ≠ n), gone } : Lane).items.Perm l.items := by
    refine List.perm_iff_count.2 fun x => ?_
    have hs := List.perm_iff_count.1 same x
    have hh := List.perm_iff_count.1 (l.held_perm n) x
    simp only [items, List.count_append] at hs hh ⊢
    omega
  refine ⟨(hp.map _).trans h.whole, fun x hx => h.counted x (hp.subset hx),
    fun x hx => h.begun x (List.mem_filter.1 hx).1, ?_, h.tallied⟩
  rw [fresh]
  exact h.fresh

theorem held_begun (h : Orderly l) (n : Nat) : (l.held n).filter (·.count = 0) = [] := by
  refine List.filter_eq_nil_iff.2 fun x hx => ?_
  obtain ⟨y, hy, rfl⟩ := List.mem_map.1 hx
  have hpos := h.begun y (List.mem_filter.1 hy).1
  simpa using hpos.ne'

theorem step (h : Orderly l) (q : String) (e : Event) : Orderly (l.step q e) := by
  have finish : ∀ n, Orderly (l.finish n) := fun n => h.shuffle (by rw [List.append_assoc]) rfl
  cases e with
  | sent r m =>
    rw [Lane.step]
    split
    · exact h.post m
    · exact h
  | delivered s d =>
    rw [Lane.step]
    split
    · exact h.take d.tag
    · exact h
  | acked u => exact finish u.tag
  | rejected u requeue =>
    cases requeue with
    | false => exact finish u.tag
    | true =>
      refine h.shuffle ?_ ?_
      · rw [List.append_assoc, List.append_assoc]
        exact List.Perm.append_left _ List.perm_append_comm
      · rw [List.filter_append, h.held_begun, List.append_nil]
  | restored u =>
    refine h.shuffle ?_ ?_
    · rw [List.append_assoc]
      exact List.perm_append_comm
    · rw [List.filter_append, h.held_begun, List.nil_append]

theorem advance (h : Orderly l) (q : String) (es : List Event) : Orderly (l.advance q es) := by
  induction es with
  | nil => exact h
  | cons e es ih => exact ih.step q e

end Orderly
end Lane

theorem orderly (q : String) (as : List Act) : (lane q as).Orderly := by
  induction as using List.reverseRecOn with
  | nil => exact .empty
  | append_singleton as a ih =>
    rw [lane_snoc]
    exact ih.advance q _

theorem ofNat_eq_one {n : Nat} (h : n ≤ 2 ^ 32) : UInt32.ofNat n = 1 ↔ n = 1 := by
  rw [← UInt32.toNat_inj, UInt32.toNat_ofNat']
  have hone : (1 : UInt32).toNat = 1 := rfl
  omega

/-- Every delivery from a queue carries, in a counter of 32 bits, which delivery of its letter it is.
The first deliveries are, in this order, of the first letters that the queue accepted: each of the one
accepted under the next number, whatever was put back in the meantime and whoever took it. So the
deliveries that carry a one are of the first letters that the queue accepted; this takes that no letter
was delivered so often that its counter came round. -/
theorem first_deliveries_in_order (q : String) (as : List Act) :
    (deliveries q (past as)).map (fun d => (d.letter, d.count)) =
      (lane q as).taken.map (fun x => (x.letter, UInt32.ofNat x.count)) ∧
    (∀ before x rest, (lane q as).taken = before ++ x :: rest →
      (accepted q (past as))[x.place]? = some x.letter ∧
      x.count = before.countP (·.place = x.place) + 1) ∧
    ((lane q as).taken.filter (·.count = 1)).map Item.slot <+: (accepted q (past as)).zipIdx ∧
    ((∀ x ∈ (lane q as).taken, x.count ≤ 2 ^ 32) →
      ((deliveries q (past as)).filter (·.count = 1)).map Delivery.letter <+:
        accepted q (past as)) := by
  have tracks := tracks q as
  have orderly := orderly q as
  have handed := tracks.handed
  have firsts : ((lane q as).taken.filter (·.count = 1)).map Item.slot <+:
      (accepted q (past as)).zipIdx := by
    rw [← tracks.sent, ← orderly.fresh]
    exact List.prefix_append _ _
  refine ⟨handed, ?_, firsts, ?_⟩
  · intro before x rest hs
    rw [← tracks.sent]
    exact orderly.tallied before x rest hs
  · intro narrow
    have hones : (lane q as).taken.filter (UInt32.ofNat ·.count = 1) =
        (lane q as).taken.filter (·.count = 1) :=
      List.filter_congr fun x hx => decide_eq_decide.2 (ofNat_eq_one (narrow x hx))
    have hletters : ((deliveries q (past as)).filter (·.count = 1)).map Delivery.letter =
        ((lane q as).taken.filter (·.count = 1)).map (·.letter) := by
      have hf := congrArg (List.filter fun p => p.2 = 1) handed
      have hm := congrArg (List.map Prod.fst) hf
      simpa only [List.filter_map, List.map_map, Function.comp_def, hones] using hm
    rw [hletters]
    have hp := firsts.map Prod.fst
    simpa [Function.comp_def, Item.slot, List.zipIdx_map_fst] using hp

/-- Put back often enough, the only letter of a queue is delivered as the first a second time. -/
theorem first_again : accepted "jobs" (past (circling (2 ^ 32 + 1))) = [⟨[255], {}⟩] ∧
    ¬((deliveries "jobs" (past (circling (2 ^ 32 + 1)))).filter (·.count = 1)).map Delivery.letter <+:
      accepted "jobs" (past (circling (2 ^ 32 + 1))) := by
  have h := circling_spec (2 ^ 32 + 1)
  have rounds : [0, 2 ^ 32].Sublist (List.range (2 ^ 32 + 1)) := by
    rw [List.range_succ]
    exact (List.singleton_sublist.2 (List.mem_range.2 (by decide))).append (List.Sublist.refl _)
  have twice := (rounds.map fun k => told (circlingEntry k)).filter (·.count = 1)
  rw [← h.deliveries] at twice
  refine ⟨h.accepted, fun first => ?_⟩
  have most := first.length_le
  have least := twice.length_le
  rw [List.length_map, h.accepted] at most
  exact absurd (least.trans most) (by decide)

/-- One letter goes to the back and one, as its channel is closed, to the front of a third, which is
new; then all three are delivered on another channel. -/
theorem first_deliveries_in_order_mixed : ∃ as,
    (deliveries "jobs" (past as)).map (fun d => (d.body, d.count)) =
      [([1], 1), ([2], 1), ([2], 2), ([1], 2), ([3], 1)] ∧
    (∀ x ∈ (lane "jobs" as).taken, x.count ≤ 2 ^ 32) ∧
    ((deliveries "jobs" (past as)).filter (·.count = 1)).map Delivery.letter <+:
      accepted "jobs" (past as) := by
  let as : List Act := [.openChannel, .openChannel, .declare "jobs", .send ⟨1⟩ "jobs" ⟨[1], {}⟩,
    .send ⟨1⟩ "jobs" ⟨[2], {}⟩, .subscribe ⟨1⟩ "jobs" 2, .deliver (consumerTag 1),
    .reject ⟨1⟩ 1 true, .send ⟨2⟩ "jobs" ⟨[3], {}⟩, .deliver (consumerTag 1), .close ⟨1⟩,
    .subscribe ⟨2⟩ "jobs" 3, .deliver (consumerTag 2), .deliver (consumerTag 2),
    .deliver (consumerTag 2)]
  have narrow : ∀ x ∈ (lane "jobs" as).taken, x.count ≤ 2 ^ 32 := by decide +kernel
  exact ⟨as, rfl, narrow, (first_deliveries_in_order "jobs" as).2.2.2 narrow⟩

end QueueProbe.Broker
