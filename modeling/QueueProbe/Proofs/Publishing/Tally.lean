import Mathlib.Algebra.BigOperators.Group.List.Basic
import Mathlib.Algebra.GroupWithZero.Nat
import Mathlib.Algebra.Order.Group.Multiset
import Mathlib.Data.Multiset.Range
import QueueProbe.Bench.Publishing

/-! What a tally says of the messages a member of the crew dealt with: how many were sent, and which
of those that failed has the smallest index. Tallies merge as their shares do, in any order. -/

namespace QueueProbe

variable {verdict : Nat → Option QueueError} {t u : Tally} {A B : Multiset Nat} {i j : Nat} {e e' : QueueError}

namespace Tally

/-- The tally of a share of the messages, whose failures are `verdict`'s. -/
structure Covers (verdict : Nat → Option QueueError) (t : Tally) (share : Multiset Nat) : Prop where
  sent : t.sent = share.countP fun i => (verdict i).isNone
  clean : t.firstError = none → ∀ i ∈ share, verdict i = none
  first : ∀ j e, t.firstError = some (j, e) →
    j ∈ share ∧ verdict j = some e ∧ ∀ i ∈ share, i < j → verdict i = none

theorem Covers.empty : Covers verdict {} 0 := by constructor <;> simp

theorem sent_failure (t : Tally) (i : Nat) (e : QueueError) : (t.failure i e).sent = t.sent := by
  unfold failure
  split
  · split <;> rfl
  · rfl

theorem firstError_failure_ne (t : Tally) (i : Nat) (e : QueueError) :
    (t.failure i e).firstError ≠ none := by
  unfold failure
  split
  · next h =>
    split
    · simp [h]
    · simp
  · simp

theorem firstError_failure (h : (t.failure i e).firstError = some (j, e')) :
    (t.firstError = some (j, e') ∧ j ≤ i) ∨
    (j = i ∧ e' = e ∧ ∀ k f, t.firstError = some (k, f) → i < k) := by
  unfold failure at h
  cases ht : t.firstError with
  | none => simp_all
  | some first =>
    obtain ⟨k, f⟩ := first
    simp only [ht] at h
    split at h
    · next hk => rw [ht] at h; cases h; exact Or.inl ⟨rfl, hk⟩
    · next hk => cases h; exact Or.inr ⟨rfl, rfl, fun _ _ h => by cases h; omega⟩

namespace Covers

theorem success (h : Covers verdict t A) (hi : verdict i = none) : Covers verdict t.success (i ::ₘ A) where
  sent := by simp [Tally.success, h.sent, hi]
  clean hc k hk := by
    rcases Multiset.mem_cons.1 hk with rfl | hk
    · exact hi
    · exact h.clean hc k hk
  first j e hj := by
    obtain ⟨hm, hv, hf⟩ := h.first j e hj
    refine ⟨Multiset.mem_cons_of_mem hm, hv, fun k hk hlt => ?_⟩
    rcases Multiset.mem_cons.1 hk with rfl | hk
    · exact hi
    · exact hf k hk hlt

/-- A failure among other messages leaves the first error first, whoever noted it. -/
theorem combine (h : Covers verdict t A) (hu : Covers verdict u B) (hj : u.firstError = some (j, e)) :
    Covers verdict ({ t with sent := t.sent + u.sent }.failure j e) (A + B) where
  sent := by rw [sent_failure, Multiset.countP_add, ← h.sent, ← hu.sent]
  clean hc := absurd hc (firstError_failure_ne _ _ _)
  first k f hk := by
    obtain ⟨hm, hv, hf⟩ := hu.first j e hj
    rcases firstError_failure hk with ⟨ht, hle⟩ | ⟨rfl, rfl, hlt⟩
    · obtain ⟨hm', hv', hf'⟩ := h.first k f ht
      refine ⟨Multiset.mem_add.2 (Or.inl hm'), hv', fun i hi hik => ?_⟩
      rcases Multiset.mem_add.1 hi with hi | hi
      · exact hf' i hi hik
      · exact hf i hi (by omega)
    · refine ⟨Multiset.mem_add.2 (Or.inr hm), hv, fun i hi hij => ?_⟩
      rcases Multiset.mem_add.1 hi with hi | hi
      · cases ht : t.firstError with
        | none => exact h.clean ht i hi
        | some first =>
          have := hlt first.1 first.2 ht
          exact (h.first _ _ ht).2.2 i hi (by omega)
      · exact hf i hi hij

theorem failure (h : Covers verdict t A) (hi : verdict i = some e) :
    Covers verdict (t.failure i e) (i ::ₘ A) := by
  have hu : Covers verdict { firstError := some (i, e) } (i ::ₘ 0) :=
    ⟨(Multiset.countP_eq_zero.2 (by simp [hi])).symm, by simp, by rintro j f ⟨⟩; simp [hi]⟩
  have hc : Covers verdict (t.failure i e) (A + i ::ₘ 0) := h.combine hu rfl
  rwa [Multiset.add_cons, add_zero] at hc

theorem merge (h : Covers verdict t A) (hu : Covers verdict u B) : Covers verdict (t.merge u) (A + B) := by
  unfold Tally.merge
  cases hj : u.firstError with
  | some first => exact h.combine hu hj
  | none =>
    have hn := hu.clean hj
    refine ⟨by rw [Multiset.countP_add, ← h.sent, ← hu.sent], fun hc i hi => ?_, fun k f hk => ?_⟩
    · rcases Multiset.mem_add.1 hi with hi | hi
      · exact h.clean hc i hi
      · exact hn i hi
    · obtain ⟨hm, hv, hf⟩ := h.first k f hk
      refine ⟨Multiset.mem_add.2 (Or.inl hm), hv, fun i hi hik => ?_⟩
      rcases Multiset.mem_add.1 hi with hi | hi
      · exact hf i hi hik
      · exact hn i hi

theorem foldl {ms : List Member} {shares : List (Multiset Nat)}
    (h : List.Forall₂ (fun m B => Covers verdict m.tally B) ms shares) (ht : Covers verdict t A) :
    Covers verdict (ms.foldl (fun t m => t.merge m.tally) t) (A + shares.sum) := by
  induction h generalizing t A with
  | nil => simpa using ht
  | cons hm _ ih =>
    rw [List.sum_cons, ← add_assoc]
    exact ih (ht.merge hm)

/-- A tally of all messages of a batch has the first failure in the batch's order, and without one all
messages were sent. -/
theorem batch {α : Type} {xs : List α} {f : α → Option QueueError}
    (h : Covers (fun i => xs[i]?.bind f) t (Multiset.range xs.length)) :
    t.firstError.map Prod.snd = xs.findSome? f ∧ (t.firstError = none → t.sent = xs.length) := by
  cases ht : t.firstError with
  | none =>
    have hc := h.clean ht
    refine ⟨?_, fun _ => ?_⟩
    · refine (List.findSome?_eq_none_iff.2 fun x hx => ?_).symm
      obtain ⟨i, hi, rfl⟩ := List.mem_iff_getElem.1 hx
      simpa [hi] using hc i (Multiset.mem_range.2 hi)
    · rw [h.sent, Multiset.countP_eq_card.2 fun i hi => by simp [hc i hi], Multiset.card_range]
  | some first =>
    obtain ⟨j, e⟩ := first
    obtain ⟨hj, hv, hf⟩ := h.first j e ht
    rw [Multiset.mem_range] at hj
    refine ⟨?_, by simp⟩
    refine (List.findSome?_eq_some_iff.2 ⟨xs.take j, xs[j], xs.drop (j + 1), ?_, ?_, ?_⟩).symm
    · rw [List.cons_getElem_drop_succ, List.take_append_drop]
    · simpa [hj] using hv
    · intro x hx
      obtain ⟨i, hi, rfl⟩ := List.mem_take_iff_getElem.1 hx
      have hij : i < j := by omega
      simpa [show i < xs.length by omega] using hf i (Multiset.mem_range.2 (by omega)) hij

end Covers
end Tally
end QueueProbe
