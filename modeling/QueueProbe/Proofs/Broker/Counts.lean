import QueueProbe.Proofs.Broker.SendOrder

/-! Delivery counts. A body takes its count along, to the unacked entries and back, in 32 bits, and
nothing bounds how often it comes back. Up to that width every delivery says exactly which delivery of
its letter it is; the next one comes round to zero, and a body that was delivered all the time looks
new. -/

namespace QueueProbe.Broker

variable {b b' : Broker} {es new : List Event} {q : String} {as : List Act} {s : Subscription}
  {d : Delivery}

theorem redelivered_change (c : Change b new b') (hd : .delivered s d ∈ new) :
    d.redelivered = decide (1 < d.count) := by
  cases c with
  | delivered r x e rest =>
    obtain ⟨-, rfl⟩ : s = r ∧ d = told (b.entry r e) := by simpa using hd
    rfl
  | _ => simp at hd

theorem Run.redelivered (h : Run es b) (hd : .delivered s d ∈ es) :
    d.redelivered = decide (1 < d.count) := by
  induction h with
  | nil => cases hd
  | snoc a _ ih =>
    rcases List.mem_append.1 hd with hd | hd
    · exact ih hd
    · exact redelivered_change (Broker.change _ a) hd

theorem mem_deliveries_iff : d ∈ deliveries q es ↔ ∃ s, .delivered s d ∈ es ∧ s.queue = q := by
  simp only [deliveries, List.mem_filterMap]
  constructor
  · rintro ⟨e, he, hd⟩
    cases e with
    | delivered s c =>
      obtain ⟨hq, hd⟩ := Option.ite_none_right_eq_some.1 hd
      obtain rfl := Option.some.inj hd
      exact ⟨s, he, hq⟩
    | _ => cases hd
  · rintro ⟨s, hs, hq⟩
    exact ⟨_, hs, if_pos hq⟩

theorem mem_deliveries (h : d ∈ deliveries q es) : ∃ s, .delivered s d ∈ es := by
  obtain ⟨s, hs, -⟩ := mem_deliveries_iff.1 h
  exact ⟨s, hs⟩

theorem taken_of_delivery {i : Nat} (h : (deliveries q (past as))[i]? = some d) :
    ∃ x, (lane q as).taken[i]? = some x ∧ x.letter = d.letter ∧ d.count = UInt32.ofNat x.count := by
  have handed := congrArg (·[i]?) (tracks q as).handed
  simp only [List.getElem?_map, h, Option.map_some] at handed
  obtain ⟨x, hx, heq⟩ := Option.map_eq_some_iff.1 handed.symm
  simp only [Prod.mk.injEq] at heq
  exact ⟨x, hx, heq.1, heq.2.symm⟩

theorem one_lt_ofNat {n : Nat} (h : n < 2 ^ 32) : 1 < UInt32.ofNat n ↔ 1 < n := by
  rw [UInt32.lt_iff_toNat_lt, UInt32.toNat_ofNat_of_lt' h]
  rfl

/-- After every run, each delivery from a queue carries the number of deliveries of its letter up to
then, that one included, in 32 bits, and is called redelivered if it carries more than one. As long as
the number fits, it can be read off, and redelivered are those that were delivered before. -/
theorem counts_exact_in_range {i : Nat} (h : (deliveries q (past as))[i]? = some d) :
    ∃ x, (lane q as).taken[i]? = some x ∧ (accepted q (past as))[x.place]? = some d.letter ∧
      x.count = ((lane q as).taken.take i).countP (·.place = x.place) + 1 ∧
      d.count = UInt32.ofNat x.count ∧ d.redelivered = decide (1 < d.count) ∧
      (x.count < 2 ^ 32 → d.count.toNat = x.count ∧
        (d.redelivered = true ↔ ∃ y ∈ (lane q as).taken.take i, y.place = x.place)) := by
  obtain ⟨x, hx, hletter, hcount⟩ := taken_of_delivery h
  obtain ⟨s, hs⟩ := mem_deliveries (List.mem_of_getElem? h)
  have hr := (run_after as).redelivered hs
  obtain ⟨hi, hget⟩ := List.getElem?_eq_some_iff.1 hx
  have split : (lane q as).taken = (lane q as).taken.take i ++ x :: (lane q as).taken.drop (i + 1) := by
    rw [← hget, ← List.drop_eq_getElem_cons hi, List.take_append_drop]
  obtain ⟨hplace, htimes⟩ := (orderly q as).tallied _ x _ split
  refine ⟨x, hx, ?_, htimes, hcount, hr, fun fits => ⟨?_, ?_⟩⟩
  · rw [← (tracks q as).sent, hplace, hletter]
  · rw [hcount, UInt32.toNat_ofNat_of_lt' fits]
  · rw [hr, hcount, decide_eq_true_iff, one_lt_ofNat fits, htimes, Nat.lt_add_left_iff_pos,
      List.countP_pos_iff]
    simp

/-- A letter is put back, then restored with its channel and delivered to another consumer: its third
delivery carries a three, although another letter's came between. -/
theorem counts_exact_in_range_resubscribed : ∃ as d, (deliveries "jobs" (past as))[3]? = some d ∧
    d.body = [1] ∧ d.count.toNat = 3 ∧ d.redelivered = true := by
  let as : List Act := [.openChannel, .openChannel, .declare "jobs", .send ⟨1⟩ "jobs" ⟨[1], {}⟩,
    .subscribe ⟨1⟩ "jobs" 1, .deliver (consumerTag 1), .reject ⟨1⟩ 1 true, .deliver (consumerTag 1),
    .send ⟨2⟩ "jobs" ⟨[2], {}⟩, .subscribe ⟨2⟩ "jobs" 0, .deliver (consumerTag 2), .close ⟨1⟩,
    .deliver (consumerTag 2)]
  let third : Item := ⟨0, ⟨[1], {}⟩, 3⟩
  have hd : (deliveries "jobs" (past as))[3]? = some ⟨4, [1], {}, true, 3⟩ := by decide +kernel
  have taken : (lane "jobs" as).taken[3]? = some third := by decide +kernel
  have before : ∃ y ∈ (lane "jobs" as).taken.take 3, y.place = third.place := by decide +kernel
  obtain ⟨x, hx, -, -, -, -, fits⟩ := counts_exact_in_range hd
  obtain rfl : third = x := Option.some.inj (taken.symm.trans hx)
  obtain ⟨hcount, hre⟩ := fits (by decide)
  exact ⟨as, _, hd, rfl, hcount, hre.2 before⟩

/-- Put back often enough, a letter is delivered for the 2^32nd time as if it were new. -/
theorem count_comes_round : accepted "jobs" (past (circling (2 ^ 32))) = [⟨[255], {}⟩] ∧
    (deliveries "jobs" (past (circling (2 ^ 32)))).length = 2 ^ 32 ∧
    ∃ d, (deliveries "jobs" (past (circling (2 ^ 32)))).getLast? = some d ∧
      d.count = 0 ∧ d.redelivered = false := by
  have h := circling_spec (2 ^ 32)
  refine ⟨h.accepted, by rw [h.deliveries, List.length_map, List.length_range],
    told (circlingEntry (2 ^ 32 - 1)), ?_, rfl, rfl⟩
  rw [h.deliveries, List.getLast?_map, List.getLast?_range, if_neg (by decide)]
  rfl

end QueueProbe.Broker
