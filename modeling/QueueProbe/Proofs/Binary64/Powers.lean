import Mathlib.Algebra.Order.Archimedean.Basic
import QueueProbe.Proofs.Binary64.Operations

/-! Powers by repeated squaring. Each product is rounded, and what is rounded goes into the next product, so
that errors are raised to powers as well. Counted in roundings, the error of a power is its exponent: the
same as if the power were multiplied out factor by factor. For exponents of 32 bits it stays below a
thousandth, and infinity stands only for powers that reach out of the format. -/

namespace QueueProbe.Binary64

variable {x y : Binary64} {v w q p : ℚ} {m n k j num den : Nat} {e : Int}

/-! One rounding. -/

/-- The part of a number that one rounding may add to it or take away. -/
def slack : ℚ := 1 / 2 ^ 52

theorem slack_pos : 0 < slack := by norm_num [slack]

theorem slack_lt_one : slack < 1 := by norm_num [slack]

theorem Nearest.error_relative (h : Nearest v q) (normal : q = 0 ∨ 2 ^ (-1022 : Int) ≤ q)
    (below : q < 2 ^ (1024 : Int)) : |v - q| ≤ q * slack := by
  rcases normal with rfl | normal
  · simp [h.eq holds_zero]
  obtain ⟨k, low, high⟩ := exists_mem_Ico_zpow ((two_zpow_pos _).trans_le normal) one_lt_two
  have least : -1022 < k + 1 := (zpow_lt_zpow_iff_right₀ one_lt_two).1 (normal.trans_lt high)
  have greatest : k < 1024 := (zpow_lt_zpow_iff_right₀ one_lt_two).1 (low.trans_lt below)
  have close := h.error_le (e := k - 52) (by simp only [leastExponent]; omega)
    (by simp only [greatestExponent]; omega) ((two_zpow_pos _).le.trans normal)
    (high.trans_le (zpow_le_zpow_right₀ one_le_two (by omega)))
  calc |v - q| ≤ 2 ^ (k - 52) := close
    _ = 2 ^ k * slack := by rw [slack, zpow_sub₀ two_ne_zero, one_div, div_eq_mul_inv]; norm_cast
    _ ≤ q * slack := mul_le_mul_of_nonneg_right low slack_pos.le

theorem Nearest.relative_bounds (h : Nearest v q) (normal : q = 0 ∨ 2 ^ (-1022 : Int) ≤ q)
    (below : q < 2 ^ (1024 : Int)) : q * (1 - slack) ≤ v ∧ v ≤ q * (1 + slack) := by
  have close := abs_le.1 (h.error_relative normal below)
  constructor <;> linarith [close.1, close.2]

/-! Overflow. -/

theorem Holds.lt (h : Holds x v) : v < 2 ^ (1024 : Int) := by
  obtain ⟨m, e, -, fits, rfl⟩ := h
  refine (magnitude_lt fits.significand).trans_le (zpow_le_zpow_right₀ one_le_two ?_)
  have greatest := fits.greatest
  simp only [greatestExponent] at greatest
  omega

theorem le_of_isFinite_pack (h : (pack false m e).isFinite = true) : e ≤ greatestExponent := by
  by_contra great
  have infinite : pack false m e = infinite false := by
    unfold pack
    split <;> exact if_pos (by dsimp only; omega)
  rw [infinite] at h
  cases h

theorem lt_of_isFinite_ofRatio (h : 0 < den) (finite : (ofRatio false num den).isFinite = true) :
    (num / den : ℚ) < 2 ^ (1024 : Int) := by
  unfold ofRatio at finite
  by_cases none : num = 0
  · simp [none]
  rw [if_neg none] at finite
  have greatest := le_of_isFinite_pack finite
  simp only [greatestExponent] at greatest
  obtain ⟨-, below, -⟩ := exponentOf_spec (Nat.pos_of_ne_zero none) h
  exact below.trans_le (zpow_le_zpow_right₀ one_le_two (by omega))

theorem lt_of_isFinite_mul (hx : Holds x v) (hy : Holds y w) (finite : (x.mul y).isFinite = true) :
    v * w < 2 ^ (1024 : Int) := by
  obtain ⟨m, e, rfl, -, rfl⟩ := hx
  obtain ⟨m', e', rfl, -, rfl⟩ := hy
  have below := lt_of_isFinite_ofRatio (scale_pos (m * m') Nat.one_pos (e + e')) finite
  rwa [scale_ratio, Nat.cast_one, div_one, ← magnitude, ← magnitude_mul] at below

theorem infinite_mul (hx : Holds x v) (pos : 0 < v) :
    (infinite false).mul x = infinite false ∧ x.mul (infinite false) = infinite false := by
  obtain ⟨m, e, rfl, -, rfl⟩ := hx
  have there : m ≠ 0 := by
    rintro rfl
    simp [magnitude] at pos
  simp [mul, there]

/-! Products of products. -/

/-- `x` is what `n` roundings may have left of a product `q` of factors that are at least one. -/
structure Computed (x : Binary64) (q : ℚ) (n : Nat) : Prop where
  one_le : 1 ≤ q
  outcome : (∃ v, Holds x v ∧ 1 ≤ v ∧ q * (1 - slack) ^ n ≤ v ∧ v ≤ q * (1 + slack) ^ n) ∨
    x = infinite false ∧ 2 ^ (1023 : Int) ≤ q * (1 + slack) ^ n

theorem Holds.computed (h : Holds x v) (one : 1 ≤ v) : Computed x v 0 :=
  ⟨one, Or.inl ⟨v, h, one, by simp, by simp⟩⟩

theorem holds_one : Holds one 1 :=
  ⟨carry / 2, -52, rfl, ⟨by decide, by decide, by decide⟩, by norm_num [magnitude, carry]⟩

namespace Computed

theorem one_le_high (h : Computed x q n) : 1 ≤ q * (1 + slack) ^ n :=
  one_le_mul_of_one_le_of_one_le h.one_le (one_le_pow₀ (by linarith [slack_pos]))

theorem of_rounds (h : Rounds x w) (within : x.isFinite = true → w < 2 ^ (1024 : Int)) (oneq : 1 ≤ q)
    (one : 1 ≤ w) (low : q * (1 - slack) ^ n ≤ w) (high : w ≤ q * (1 + slack) ^ n) : Computed x q (n + 1) := by
  refine ⟨oneq, ?_⟩
  rw [pow_succ, pow_succ, ← mul_assoc, ← mul_assoc]
  rcases h with ⟨v, hv, near⟩ | ⟨overflown, great⟩
  · have normal : (2 : ℚ) ^ (-1022 : Int) ≤ w := (zpow_le_one_of_nonpos₀ one_le_two (by decide)).trans one
    obtain ⟨lowv, highv⟩ := near.relative_bounds (Or.inr normal) (within hv.isFinite)
    exact Or.inl ⟨v, hv, near.ge holds_one one,
      (mul_le_mul_of_nonneg_right low (by linarith [slack_lt_one])).trans lowv,
      highv.trans (mul_le_mul_of_nonneg_right high (by linarith [slack_pos]))⟩
  · refine Or.inr ⟨overflown, great.trans (high.trans ?_)⟩
    exact le_mul_of_one_le_right ((zero_le_one.trans one).trans high) (by linarith [slack_pos])

theorem mul (hx : Computed x q n) (hy : Computed y p k) : Computed (x.mul y) (q * p) (n + k + 1) := by
  have one : 1 ≤ q * p := one_le_mul_of_one_le_of_one_le hx.one_le hy.one_le
  have low : q * p * (1 - slack) ^ (n + k) = q * (1 - slack) ^ n * (p * (1 - slack) ^ k) := by ring
  have high : q * p * (1 + slack) ^ (n + k) = q * (1 + slack) ^ n * (p * (1 + slack) ^ k) := by ring
  -- what has overflown is multiplied by something that is at least one, and so stays out of the format
  have more : q * p * (1 + slack) ^ (n + k) ≤ q * p * (1 + slack) ^ (n + k + 1) :=
    mul_le_mul_of_nonneg_left (pow_le_pow_right₀ (by linarith [slack_pos]) (Nat.le_succ _))
      (zero_le_one.trans one)
  rw [high] at more
  have onex := hx.one_le_high
  have oney := hy.one_le_high
  rcases hx.outcome with ⟨v, hv, onev, lowv, highv⟩ | ⟨rfl, beyond⟩
  · rcases hy.outcome with ⟨w, hw, onew, loww, highw⟩ | ⟨rfl, beyond⟩
    · refine of_rounds (rounds_mul hv hw) (lt_of_isFinite_mul hv hw) one
        (one_le_mul_of_one_le_of_one_le onev onew) ?_ ?_
      · rw [low]
        exact mul_le_mul lowv loww (mul_nonneg (zero_le_one.trans hy.one_le)
          (pow_nonneg (by linarith [slack_lt_one]) k)) (zero_le_one.trans onev)
      · rw [high]
        exact mul_le_mul highv highw (zero_le_one.trans onew) (zero_le_one.trans onex)
    · exact ⟨one, Or.inr ⟨(infinite_mul hv (zero_lt_one.trans_le onev)).2,
        beyond.trans ((le_mul_of_one_le_left (zero_le_one.trans oney) onex).trans more)⟩⟩
  · refine ⟨one, Or.inr ⟨?_, beyond.trans ((le_mul_of_one_le_right (zero_le_one.trans onex) oney).trans more)⟩⟩
    rcases hy.outcome with ⟨w, hw, onew, -⟩ | ⟨rfl, -⟩
    · exact (infinite_mul hw (zero_lt_one.trans_le onew)).1
    · rfl

theorem mul_lowest (hx : Computed x q k) (hy : Computed y p j) (n : Nat) :
    Computed (if n % 2 = 1 then y.mul x else y) (p * q ^ (n % 2)) (j + (k + 1) * (n % 2)) := by
  split
  · next odd =>
    rw [odd]
    simpa [Nat.add_assoc] using hy.mul hx
  · next even =>
    rw [Nat.mod_two_ne_one.1 even]
    simpa using hy

/-- A squared base has twice the roundings of the base and one more, and half the exponent to go. -/
theorem powLoop (hx : Computed x q k) (hy : Computed y p j) (n : Nat) :
    Computed (powLoop x y n) (p * q ^ n) (j + (k + 1) * n) := by
  fun_induction Binary64.powLoop x y n generalizing q p k j with
  | @case1 x y n r low =>
    have last : Computed r (p * q ^ (n % 2)) (j + (k + 1) * (n % 2)) := hx.mul_lowest hy n
    rwa [Nat.mod_eq_of_lt low] at last
  | @case2 x y n r high ih =>
    have rest := ih (hx.mul hx) (hx.mul_lowest hy n)
    have power : p * q ^ (n % 2) * (q * q) ^ (n / 2) = p * q ^ n := by
      rw [← pow_two, ← pow_mul, mul_assoc, ← pow_add, Nat.mod_add_div]
    have count : j + (k + 1) * (n % 2) + (k + k + 1 + 1) * (n / 2) = j + (k + 1) * n := by
      conv_rhs => rw [← Nat.mod_add_div n 2]
      ring
    rwa [power, count] at rest

theorem pow (hx : Computed x q 0) (n : Nat) : Computed (x.pow n) (q ^ n) n := by
  have power := hx.powLoop (holds_one.computed le_rfl) n
  rwa [one_mul, Nat.zero_add, Nat.zero_add, Nat.one_mul] at power

end Computed

/-- All the roundings of a power come to less than a thousandth. -/
theorem slack_pow (few : n ≤ 2 ^ 31) : 999 / 1000 ≤ (1 - slack) ^ n ∧ (1 + slack) ^ n ≤ 1001 / 1000 := by
  have few : (n : ℚ) ≤ 2 ^ 31 := by exact_mod_cast few
  have bernoulli := one_add_mul_le_pow (a := -slack) (by linarith [slack_lt_one]) n
  rw [← sub_eq_add_neg] at bernoulli
  have lost : n * slack ≤ 1 / 10000 :=
    (mul_le_mul_of_nonneg_right few slack_pos.le).trans (by norm_num [slack])
  have low : 9999 / 10000 ≤ (1 - slack) ^ n := by linarith
  refine ⟨by linarith, ?_⟩
  -- what is added by one factor is more than taken away again by the other
  have both : (1 + slack) ^ n * (1 - slack) ^ n ≤ 1 := by
    rw [← mul_pow]
    exact pow_le_one₀ (by norm_num [slack]) (by norm_num [slack])
  have high := (mul_le_mul_of_nonneg_left low (pow_nonneg (by linarith [slack_pos]) n)).trans both
  linarith

namespace Computed

variable (few : n ≤ 2 ^ 31)

include few

theorem bounds (h : Computed x q n) (hv : Holds x v) : q * (999 / 1000) ≤ v ∧ v ≤ q * (1001 / 1000) := by
  have nonneg := zero_le_one.trans h.one_le
  obtain ⟨low, high⟩ := slack_pow few
  rcases h.outcome with ⟨w, hw, -, loww, highw⟩ | ⟨rfl, -⟩
  · obtain rfl := hv.unique hw
    exact ⟨(mul_le_mul_of_nonneg_left low nonneg).trans loww,
      highw.trans (mul_le_mul_of_nonneg_left high nonneg)⟩
  · cases hv.isFinite

/-- A power that is not finite is infinite, and all but out of the format. -/
theorem finite_or_great (h : Computed x q n) :
    (∃ v, Holds x v) ∨ x = infinite false ∧ 2 ^ (1022 : Int) ≤ q := by
  rcases h.outcome with ⟨v, hv, -⟩ | ⟨overflown, great⟩
  · exact Or.inl ⟨v, hv⟩
  · refine Or.inr ⟨overflown, ?_⟩
    have high := great.trans (mul_le_mul_of_nonneg_left (slack_pow few).2 (zero_le_one.trans h.one_le))
    have half : (2 : ℚ) ^ (1023 : Int) = 2 ^ (1022 : Int) * 2 := two_zpow_add 1022 1
    have pos := two_zpow_pos 1022
    rw [half] at high
    generalize (2 : ℚ) ^ (1022 : Int) = edge at high pos ⊢
    linarith

theorem not_finite_of_le (h : Computed x q n) (great : 2 ^ (1025 : Int) ≤ q) : x.isFinite = false := by
  rcases h.outcome with ⟨w, hw, -⟩ | ⟨rfl, -⟩
  · have low := (h.bounds few hw).1
    have below := hw.lt
    have half : (2 : ℚ) ^ (1025 : Int) = 2 ^ (1024 : Int) * 2 := two_zpow_add 1024 1
    have pos := two_zpow_pos 1024
    rw [half] at great
    generalize (2 : ℚ) ^ (1024 : Int) = edge at great below pos
    linarith
  · rfl

end Computed

/-! The base. -/

/-- The number that a finite one is. -/
def value : Binary64 → ℚ
  | finite negative m e => if negative then -magnitude m e else magnitude m e
  | _ => 0

theorem atExponent_eq_value (negative : Bool) {k : Int} (h : k ≤ e) :
    (atExponent negative m e k : ℚ) * 2 ^ k = value (finite negative m e) := by
  have plain := atExponent_value (m := m) h
  cases negative with
  | false => exact plain
  | true =>
    simp only [value, if_true, ← plain]
    simp [atExponent]

theorem holds_max_one (negative : Bool) (fits : Fits m e) :
    Holds ((finite negative m e).max one) (Max.max (value (finite negative m e)) 1) := by
  obtain ⟨k, hk⟩ : ∃ k : Int, k = min e (-52) := ⟨_, rfl⟩
  have compared : (finite negative m e).compare? one =
      some (compare (atExponent negative m e k) (atExponent false (carry / 2) (-52) k)) := by
    rw [hk]
    rfl
  have unit : (atExponent false (carry / 2) (-52) k : ℚ) * 2 ^ k = 1 := by
    rw [atExponent_value (by omega)]
    norm_num [magnitude, carry]
  have order : atExponent negative m e k < atExponent false (carry / 2) (-52) k ↔
      value (finite negative m e) < 1 := by
    rw [← unit, ← atExponent_eq_value negative (by omega : k ≤ e), mul_lt_mul_iff_left₀ (two_zpow_pos k),
      Int.cast_lt]
  by_cases low : value (finite negative m e) < 1
  · have taken : (finite negative m e).max one = one := by
      rw [max, compared, compare_lt_iff_lt.2 (order.2 low)]
    rw [taken, max_eq_right low.le]
    exact holds_one
  · have kept : (finite negative m e).max one = finite negative m e := by
      rw [max, compared]
      split
      · next less => exact absurd (order.1 (compare_lt_iff_lt.1 (Option.some.inj less))) low
      · rfl
      · next none => cases none
    have positive : negative = false := by
      cases negative with
      | false => rfl
      | true =>
        refine absurd ?_ low
        simp only [value, if_true]
        linarith [magnitude_nonneg m e]
    rw [kept, max_eq_left (not_lt.1 low), positive]
    exact holds_finite fits

end QueueProbe.Binary64
