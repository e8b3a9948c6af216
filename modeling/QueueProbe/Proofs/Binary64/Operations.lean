import Mathlib.Data.Rat.Floor
import QueueProbe.Proofs.Binary64.Rounding

/-! Sums, products, quotients and whole numbers are rounded, and the order is that of the numbers held.
Nothing without a sign gets one by multiplying. -/

namespace QueueProbe.Binary64

variable {x y : Binary64} {v w q : ℚ} {m n : Nat} {e : Int}

theorem holds_natCast (h : n < carry) : Holds (finite false n 0) n :=
  ⟨n, 0, rfl, ⟨h, by decide, by decide⟩, by simp [magnitude]⟩

theorem Holds.unique (hv : Holds x v) (hw : Holds x w) : v = w := by
  obtain ⟨m, e, rfl, -, rfl⟩ := hv
  obtain ⟨m', e', same, -, rfl⟩ := hw
  cases same
  rfl

theorem Holds.isNegative (h : Holds x v) : x.isNegative = false := by
  obtain ⟨m, e, rfl, -⟩ := h
  rfl

theorem Holds.isFinite (h : Holds x v) : x.isFinite = true := by
  obtain ⟨m, e, rfl, -⟩ := h
  rfl

namespace Nearest

theorem le (h : Nearest v q) (hw : Holds x w) (hq : q ≤ w) : v ≤ w := by
  have near := h x w hw
  rw [abs_of_nonneg (sub_nonneg.2 hq)] at near
  linarith [le_abs_self (v - q)]

theorem ge (h : Nearest v q) (hw : Holds x w) (hq : w ≤ q) : w ≤ v := by
  have near := h x w hw
  rw [abs_sub_comm w, abs_of_nonneg (sub_nonneg.2 hq)] at near
  linarith [neg_abs_le (v - q)]

theorem eq (h : Nearest v q) (hq : Holds x q) : v = q := le_antisymm (h.le hq le_rfl) (h.ge hq le_rfl)

theorem error_le (h : Nearest v q) (least : leastExponent ≤ e) (greatest : e ≤ greatestExponent)
    (nonneg : 0 ≤ q) (below : q < 2 ^ (e + 53)) : |v - q| ≤ 2 ^ e := by
  have pos := two_zpow_pos e
  have floor := Nat.floor_le (div_nonneg nonneg pos.le)
  have next := Nat.lt_floor_add_one (q / 2 ^ e)
  rw [le_div_iff₀ pos] at floor
  rw [div_lt_iff₀ pos, add_one_mul] at next
  have small : ⌊q / 2 ^ e⌋₊ < carry := by
    rw [Nat.floor_lt (div_nonneg nonneg pos.le), div_lt_iff₀ pos, carry_eq, ← two_zpow_add, add_comm]
    exact below
  refine (h _ _ (holds_finite ⟨small, least, greatest⟩)).trans ?_
  rw [magnitude, abs_sub_comm, abs_of_nonneg (by linarith)]
  linarith

end Nearest

/-- From `2 ^ 53` on there are only even numbers. -/
theorem Holds.even (h : Holds x v) (great : 2 ^ (53 : Int) ≤ v) : ∃ k : Int, v = k * 2 := by
  obtain ⟨m, e, -, fits, rfl⟩ := h
  have coarse : (1 : Int) ≤ e := by
    by_contra fine
    have below := magnitude_lt (e := e) fits.significand
    have reach : (2 : ℚ) ^ (e + 53) ≤ 2 ^ (53 : Int) := zpow_le_zpow_right₀ (by norm_num) (by omega)
    linarith
  simpa using magnitude_grid m coarse

namespace Rounds

theorem of_le (h : Rounds x q) {k : Int} (small : q ≤ 2 ^ k) (far : k < 1023) :
    ∃ v, Holds x v ∧ Nearest v q := by
  rcases h with held | ⟨-, great⟩
  · exact held
  · exact absurd (great.trans small) (not_le.2 (zpow_lt_zpow_right₀ (by norm_num) far))

theorem of_isFinite (h : Rounds x q) (finite : x.isFinite = true) : ∃ v, Holds x v ∧ Nearest v q := by
  rcases h with held | ⟨rfl, -⟩
  · exact held
  · cases finite

end Rounds

theorem rounds_ofScaled (m : Nat) (e : Int) : Rounds (ofScaled false m e) (magnitude m e) := by
  have h := rounds_ofRatio (scale m 1 e).1 (scale_pos m Nat.one_pos e)
  rwa [scale_ratio, Nat.cast_one, div_one] at h

theorem rounds_ofNat (n : Nat) : Rounds (ofNat n) n := by
  have h := rounds_ofRatio n Nat.one_pos
  rwa [Nat.cast_one, div_one] at h

theorem holds_ofNat (h : n < carry) : Holds (ofNat n) n := by
  have small : (n : ℚ) ≤ 2 ^ (53 : Int) := by
    rw [← carry_eq]
    exact_mod_cast h.le
  obtain ⟨v, hv, near⟩ := (rounds_ofNat n).of_le small (by decide)
  exact near.eq (holds_natCast h) ▸ hv

theorem magnitude_mul (m m' : Nat) (e e' : Int) :
    magnitude m e * magnitude m' e' = magnitude (m * m') (e + e') := by
  rw [magnitude, magnitude, magnitude, two_zpow_add]
  push_cast
  ring

theorem rounds_mul (hx : Holds x v) (hy : Holds y w) : Rounds (x.mul y) (v * w) := by
  obtain ⟨m, e, rfl, -, rfl⟩ := hx
  obtain ⟨m', e', rfl, -, rfl⟩ := hy
  rw [magnitude_mul]
  exact rounds_ofScaled _ _

theorem rounds_div (hx : Holds x v) (hy : Holds y w) (pos : 0 < w) : Rounds (x.div y) (v / w) := by
  obtain ⟨m, e, rfl, -, rfl⟩ := hx
  obtain ⟨m', e', rfl, -, rfl⟩ := hy
  have there : m' ≠ 0 := by
    rintro rfl
    simp [magnitude] at pos
  have quotient : magnitude m e / magnitude m' e' = m / m' * 2 ^ (e - e') := by
    rw [magnitude, magnitude, zpow_sub₀ (by norm_num), mul_div_mul_comm]
  have h := rounds_ofRatio (scale m m' (e - e')).1 (scale_pos m (Nat.pos_of_ne_zero there) (e - e'))
  rw [quotient]
  rw [scale_ratio] at h
  simpa [div, there] using h

theorem atExponent_value {k : Int} (h : k ≤ e) : (atExponent false m e k : ℚ) * 2 ^ k = magnitude m e := by
  obtain ⟨n, hn⟩ := Int.eq_ofNat_of_zero_le (by omega : 0 ≤ e - k)
  obtain rfl : e = n + k := by omega
  simp [atExponent, magnitude, two_zpow_add, mul_assoc]

theorem rounds_add (hx : Holds x v) (hy : Holds y w) : Rounds (x.add y) (v + w) := by
  obtain ⟨m, e, rfl, -, rfl⟩ := hx
  obtain ⟨m', e', rfl, -, rfl⟩ := hy
  obtain ⟨k, hk⟩ : ∃ k, k = min e e' := ⟨_, rfl⟩
  obtain ⟨s, hs⟩ : ∃ s, s = atExponent false m e k + atExponent false m' e' k := ⟨_, rfl⟩
  have sum : magnitude m e + magnitude m' e' = s * 2 ^ k := by
    rw [hs, Int.cast_add, add_mul, atExponent_value (by omega), atExponent_value (by omega)]
  have nonneg : 0 ≤ s := by
    rw [hs]
    exact Int.add_nonneg (Int.natCast_nonneg _) (Int.natCast_nonneg _)
  have added : (finite false m e).add (finite false m' e') =
      if s = 0 then zero false else ofScaled (s < 0) s.natAbs k := by
    rw [hs, hk]
    rfl
  rw [added, sum]
  split
  · next none =>
    refine Or.inl ⟨0, holds_zero, fun x w _ => ?_⟩
    simp [none]
  · obtain ⟨n, rfl⟩ := Int.eq_ofNat_of_zero_le nonneg
    rw [decide_eq_false (by omega), Int.natAbs_natCast, Int.cast_natCast]
    exact rounds_ofScaled n k

theorem ge_iff (hx : Holds x v) (hy : Holds y w) : x.ge y = true ↔ w ≤ v := by
  obtain ⟨m, e, rfl, -, rfl⟩ := hx
  obtain ⟨m', e', rfl, -, rfl⟩ := hy
  obtain ⟨k, hk⟩ : ∃ k, k = min e e' := ⟨_, rfl⟩
  have compared : (finite false m e).compare? (finite false m' e') =
      some (compare (atExponent false m e k) (atExponent false m' e' k)) := by
    rw [hk]
    rfl
  have order : (finite false m e).ge (finite false m' e') = true ↔
      atExponent false m' e' k ≤ atExponent false m e k := by
    rw [ge, compared, Bool.or_eq_true, beq_iff_eq, beq_iff_eq, Option.some.injEq, Option.some.injEq,
      compare_gt_iff_gt, compare_eq_iff_eq]
    omega
  rw [order, ← atExponent_value (m := m) (e := e) (by omega : k ≤ e),
    ← atExponent_value (m := m') (e := e') (by omega : k ≤ e'), mul_le_mul_iff_left₀ (two_zpow_pos k),
    Int.cast_le]

/-! Signs. -/

theorem Rounds.isNegative (h : Rounds x q) : x.isNegative = false := by
  rcases h with ⟨v, hv, -⟩ | ⟨rfl, -⟩
  · exact hv.isNegative
  · rfl

theorem isNegative_mul (hx : x.isNegative = false) (hy : y.isNegative = false) :
    (x.mul y).isNegative = false := by
  rcases x with ⟨n, m, e⟩ | n | _ <;> rcases y with ⟨n', m', e'⟩ | n' | _ <;> cases hx <;> cases hy
  · exact (rounds_ofScaled (m * m') (e + e')).isNegative
  -- infinite factors: a sign could only come of theirs
  all_goals first
    | rfl
    | simp only [mul]
      split <;> rfl

theorem isNegative_powLoop (hx : x.isNegative = false) (hy : y.isNegative = false) (n : Nat) :
    (powLoop x y n).isNegative = false := by
  fun_induction powLoop x y n with
  | case1 x y n r low =>
    simp only [r]
    split
    · exact isNegative_mul hy hx
    · exact hy
  | case2 x y n r high ih =>
    refine ih (isNegative_mul hx hx) ?_
    simp only [r]
    split
    · exact isNegative_mul hy hx
    · exact hy

theorem holds_mul (hx : x.isNegative = false) (hy : y.isNegative = false) (finite : (x.mul y).isFinite = true) :
    ∃ v, Holds (x.mul y) v := by
  rcases x with ⟨n, m, e⟩ | n | _ <;> rcases y with ⟨n', m', e'⟩ | n' | _ <;> cases hx <;> cases hy
  · obtain ⟨v, hv, -⟩ := (rounds_ofScaled (m * m') (e + e')).of_isFinite finite
    exact ⟨v, hv⟩
  all_goals
    simp only [mul] at finite
    first
      | cases finite
      | split at finite <;> cases finite

theorem isNegative_max_one (x : Binary64) : (x.max one).isNegative = false := by
  rcases x with ⟨n, m, e⟩ | n | _
  · cases n with
    | false =>
      unfold max
      split
      · rfl
      · rfl
      · split <;> rfl
    | true =>
      obtain ⟨k, hk⟩ : ∃ k, k = min e (-52) := ⟨_, rfl⟩
      have below : atExponent true m e k < atExponent false (carry / 2) (-52) k := by
        have nonpos : atExponent true m e k ≤ 0 := Int.neg_nonpos_of_nonneg (Int.natCast_nonneg _)
        have pos : 0 < atExponent false (carry / 2) (-52) k :=
          Int.natCast_pos.2 (Nat.mul_pos (by decide) (Nat.pow_pos (by decide)))
        omega
      have compared : (finite true m e).compare? one = some .lt := by
        rw [← compare_lt_iff_lt.2 below, hk]
        rfl
      rw [max, compared]
      rfl
  · cases n <;> rfl
  · rfl

end QueueProbe.Binary64
