import Mathlib.Algebra.Order.Field.Basic
import Mathlib.Algebra.Order.Field.Power
import Mathlib.Tactic.Linarith
import Mathlib.Tactic.Ring
import QueueProbe.Binary64.Basic

/-! Numbers without a sign, as rationals. An operation gives the exact result rounded: no number of the
format is nearer to it, and infinity stands for it only where no number could. Everything that is said of
an operation follows from this and not from how it rounds. -/

namespace QueueProbe.Binary64

/-- What a significand and an exponent stand for. -/
def magnitude (m : Nat) (e : Int) : ℚ := m * 2 ^ e

structure Fits (m : Nat) (e : Int) : Prop where
  significand : m < carry
  least : leastExponent ≤ e
  greatest : e ≤ greatestExponent

/-- `x` is the number `v`, without a sign. -/
def Holds (x : Binary64) (v : ℚ) : Prop := ∃ m e, x = finite false m e ∧ Fits m e ∧ v = magnitude m e

/-- No number of the format is nearer to `q` than `v` is. -/
def Nearest (v q : ℚ) : Prop := ∀ x w, Holds x w → |v - q| ≤ |w - q|

/-- `x` is what `q` is rounded to. -/
def Rounds (x : Binary64) (q : ℚ) : Prop :=
  (∃ v, Holds x v ∧ Nearest v q) ∨ x = infinite false ∧ 2 ^ (1023 : Int) ≤ q

theorem carry_eq : (carry : ℚ) = 2 ^ (53 : Int) := by norm_num [carry]

theorem two_zpow_pos (e : Int) : (0 : ℚ) < 2 ^ e := zpow_pos (by norm_num) e

theorem two_zpow_add (e k : Int) : (2 : ℚ) ^ (e + k) = 2 ^ e * 2 ^ k := zpow_add₀ (by norm_num) e k

theorem magnitude_nonneg (m : Nat) (e : Int) : 0 ≤ magnitude m e :=
  mul_nonneg (Nat.cast_nonneg m) (two_zpow_pos e).le

theorem Holds.nonneg {x : Binary64} {v : ℚ} (h : Holds x v) : 0 ≤ v := by
  obtain ⟨m, e, -, -, rfl⟩ := h
  exact magnitude_nonneg m e

theorem holds_finite {m : Nat} {e : Int} (h : Fits m e) : Holds (finite false m e) (magnitude m e) :=
  ⟨m, e, rfl, h, rfl⟩

theorem holds_zero : Holds (zero false) 0 :=
  ⟨0, leastExponent, rfl, ⟨by decide, le_rfl, by decide⟩, by simp [magnitude]⟩

theorem scale_ratio (num den : Nat) (k : Int) :
    ((scale num den k).1 : ℚ) / (scale num den k).2 = num / den * 2 ^ k := by
  unfold scale
  split
  · next h =>
    obtain ⟨n, rfl⟩ := Int.eq_ofNat_of_zero_le h
    simp only [Nat.pow_eq, Int.toNat_natCast, Nat.cast_mul, Nat.cast_pow, Nat.cast_ofNat,
      zpow_natCast]
    ring
  · next h =>
    obtain ⟨n, hn⟩ := Int.eq_ofNat_of_zero_le (by omega : 0 ≤ -k)
    obtain rfl : k = -(n : Int) := by omega
    simp only [Nat.pow_eq, neg_neg, Int.toNat_natCast, Nat.cast_mul, Nat.cast_pow, Nat.cast_ofNat,
      zpow_neg, zpow_natCast]
    rw [div_mul_eq_div_div, div_eq_mul_inv (num / den : ℚ)]

theorem scale_pos (num : Nat) {den : Nat} (h : 0 < den) (k : Int) : 0 < (scale num den k).2 := by
  unfold scale
  split
  · exact h
  · exact Nat.mul_pos h (Nat.pow_pos (by decide))

/-! Whole numbers. -/

theorem roundHalfEven_near (num : Nat) {den : Nat} (h : 0 < den) :
    |(roundHalfEven num den : ℚ) - num / den| ≤ 1 / 2 := by
  have pos : (0 : ℚ) < den := by exact_mod_cast h
  have parts := Nat.div_add_mod num den
  have less := Nat.mod_lt num h
  have bounds : 2 * num ≤ 2 * (roundHalfEven num den * den) + den ∧
      2 * (roundHalfEven num den * den) ≤ 2 * num + den := by
    unfold roundHalfEven
    dsimp only
    split
    · next low =>
      rw [Nat.mul_comm (num / den) den]
      omega
    · next high =>
      rw [Nat.add_mul, Nat.mul_comm (num / den) den]
      omega
  obtain ⟨above, below⟩ := bounds
  have above : (2 : ℚ) * num ≤ 2 * (roundHalfEven num den * den) + den := by exact_mod_cast above
  have below : (2 : ℚ) * (roundHalfEven num den * den) ≤ 2 * num + den := by exact_mod_cast below
  rw [abs_le]
  constructor
  · rw [neg_le_sub_iff_le_add, div_le_iff₀ pos]
    linarith
  · rw [sub_le_iff_le_add', ← sub_le_iff_le_add, le_div_iff₀ pos]
    linarith

theorem roundHalfEven_nearest (num : Nat) {den : Nat} (h : 0 < den) (k : Int) :
    |(roundHalfEven num den : ℚ) - num / den| ≤ |(k : ℚ) - num / den| := by
  have near := roundHalfEven_near num h
  by_cases same : k = roundHalfEven num den
  · rw [same, Int.cast_natCast]
  · have apart : (1 : ℚ) ≤ |(k : ℚ) - roundHalfEven num den| := by
      exact_mod_cast Int.one_le_abs (sub_ne_zero.2 same)
    have way := abs_sub_le (k : ℚ) (num / den) (roundHalfEven num den)
    rw [abs_sub_comm (num / den : ℚ)] at way
    linarith

theorem roundHalfEven_le {num den c : Nat} (h : 0 < den) (hc : (num / den : ℚ) ≤ c) :
    roundHalfEven num den ≤ c := by
  have nearest := roundHalfEven_nearest num h c
  rw [Int.cast_natCast, abs_of_nonneg (sub_nonneg.2 hc)] at nearest
  have above := le_abs_self ((roundHalfEven num den : ℚ) - num / den)
  have close : (roundHalfEven num den : ℚ) ≤ c := by linarith
  exact_mod_cast close

/-! The format. -/

theorem magnitude_lt {m : Nat} {e : Int} (h : m < carry) : magnitude m e < 2 ^ (e + 53) := by
  have less : (m : ℚ) < 2 ^ (53 : Int) := by
    rw [← carry_eq]
    exact_mod_cast h
  rw [two_zpow_add, mul_comm]
  exact mul_lt_mul_of_pos_right less (two_zpow_pos e)

theorem magnitude_grid (m : Nat) {e k : Int} (h : e ≤ k) : ∃ j : Int, magnitude m k = j * 2 ^ e := by
  obtain ⟨n, hn⟩ := Int.eq_ofNat_of_zero_le (by omega : 0 ≤ k - e)
  obtain rfl : k = n + e := by omega
  refine ⟨m * 2 ^ n, ?_⟩
  rw [magnitude, two_zpow_add, zpow_natCast]
  push_cast
  ring

/-- What is nearest on the grid that a ratio fills is nearest of all: a finer grid ends below. -/
theorem nearest_of_grid {e : Int} {v q : ℚ} (filled : leastExponent < e → 2 ^ (e + 52) ≤ q)
    (grid : ∀ k : Int, |v - q| ≤ |(k : ℚ) * 2 ^ e - q|) : Nearest v q := by
  rintro x w ⟨m, k, -, fits, rfl⟩
  by_cases coarse : e ≤ k
  · obtain ⟨j, hj⟩ := magnitude_grid m coarse
    rw [hj]
    exact grid j
  · have normal := filled (by have := fits.least; omega)
    have small : magnitude m k ≤ 2 ^ (e + 52) :=
      (magnitude_lt fits.significand).le.trans (zpow_le_zpow_right₀ (by norm_num) (by omega))
    have edge : ((2 ^ 52 : Int) : ℚ) * 2 ^ e = 2 ^ (e + 52) := by
      rw [two_zpow_add, mul_comm]
      norm_num
    calc |v - q| ≤ |2 ^ (e + 52) - q| := edge ▸ grid (2 ^ 52)
      _ = q - 2 ^ (e + 52) := by rw [abs_sub_comm, abs_of_nonneg (sub_nonneg.2 normal)]
      _ ≤ q - magnitude m k := by linarith
      _ ≤ |magnitude m k - q| := by rw [abs_sub_comm]; exact le_abs_self _

theorem scale_le_iff (num : Nat) {den : Nat} (h : 0 < den) (l : Int) :
    (scale num den (-l)).2 ≤ (scale num den (-l)).1 ↔ (2 : ℚ) ^ l ≤ num / den := by
  have pos : (0 : ℚ) < (scale num den (-l)).2 := by exact_mod_cast scale_pos num h (-l)
  rw [← Nat.cast_le (α := ℚ), ← one_le_div pos, scale_ratio, zpow_neg, le_mul_inv_iff₀ (two_zpow_pos l),
    one_mul]

/-- A ratio is below what significands reach at its exponent, and fills them unless the exponent is the
least one. -/
theorem exponentOf_spec {num den : Nat} (hn : 0 < num) (hd : 0 < den) :
    leastExponent ≤ exponentOf num den ∧ (num / den : ℚ) < 2 ^ (exponentOf num den + 53) ∧
    (leastExponent < exponentOf num den → 2 ^ (exponentOf num den + 52) ≤ (num / den : ℚ)) := by
  have pos : (0 : ℚ) < den := by exact_mod_cast hd
  have lown : (2 : ℚ) ^ (num.log2 : Int) ≤ num := by exact_mod_cast Nat.log2_self_le hn.ne'
  have highn : (num : ℚ) < 2 ^ ((num.log2 : Int) + 1) := by exact_mod_cast Nat.lt_log2_self (n := num)
  have lowd : (2 : ℚ) ^ (den.log2 : Int) ≤ den := by exact_mod_cast Nat.log2_self_le hd.ne'
  have highd : (den : ℚ) < 2 ^ ((den.log2 : Int) + 1) := by exact_mod_cast Nat.lt_log2_self (n := den)
  -- the logarithms leave two candidates, which the comparison tells apart
  obtain ⟨l, hl⟩ : ∃ l : Int, l = num.log2 - den.log2 := ⟨_, rfl⟩
  have below : (num / den : ℚ) < 2 ^ (l + 1) := by
    rw [div_lt_iff₀ pos]
    calc (num : ℚ) < 2 ^ ((num.log2 : Int) + 1) := highn
      _ = 2 ^ (l + 1) * 2 ^ (den.log2 : Int) := by rw [← two_zpow_add, hl]; congr 1; omega
      _ ≤ 2 ^ (l + 1) * den := mul_le_mul_of_nonneg_left lowd (two_zpow_pos _).le
  have above : (2 : ℚ) ^ (l - 1) ≤ num / den := by
    rw [le_div_iff₀ pos]
    calc (2 : ℚ) ^ (l - 1) * den ≤ 2 ^ (l - 1) * 2 ^ ((den.log2 : Int) + 1) :=
          mul_le_mul_of_nonneg_left highd.le (two_zpow_pos _).le
      _ = 2 ^ (num.log2 : Int) := by rw [← two_zpow_add, hl]; congr 1; omega
      _ ≤ num := lown
  have test := scale_le_iff num hd l
  unfold exponentOf
  rw [← hl]
  dsimp only
  split
  · next reached =>
    rw [test] at reached
    refine ⟨le_max_left _ _, below.trans_le ?_, fun normal => ?_⟩
    · exact zpow_le_zpow_right₀ (by norm_num) (by omega)
    · exact (zpow_le_zpow_right₀ (by norm_num) (by omega)).trans reached
  · next missed =>
    rw [test, not_le] at missed
    refine ⟨le_max_left _ _, missed.trans_le ?_, fun normal => ?_⟩
    · exact zpow_le_zpow_right₀ (by norm_num) (by omega)
    · exact (zpow_le_zpow_right₀ (by norm_num) (by omega)).trans above

/-- Carrying over changes no value, and a significand that is too great by one step is the only one that
does not fit. -/
theorem pack_cases {m : Nat} {e : Int} (hm : m ≤ carry) (he : leastExponent ≤ e) (negative : Bool) :
    (∃ m' e', pack negative m e = finite negative m' e' ∧ Fits m' e' ∧ magnitude m' e' = magnitude m e) ∨
    pack negative m e = infinite negative ∧ greatestExponent ≤ e := by
  unfold pack
  by_cases full : m = carry
  · have moved : magnitude (carry / 2) (e + 1) = magnitude m e := by
      rw [magnitude, magnitude, full, two_zpow_add]
      norm_num [carry]
      ring
    simp only [full, if_true]
    split
    · exact Or.inr ⟨rfl, by omega⟩
    · exact Or.inl ⟨_, _, rfl, ⟨by decide, by omega, by omega⟩, full ▸ moved⟩
  · simp only [full, if_false]
    split
    · exact Or.inr ⟨rfl, by omega⟩
    · exact Or.inl ⟨_, _, rfl, ⟨lt_of_le_of_ne hm full, he, by omega⟩, rfl⟩

theorem rounds_ofRatio (num : Nat) {den : Nat} (h : 0 < den) : Rounds (ofRatio false num den) (num / den) := by
  unfold ofRatio
  by_cases hn : num = 0
  · rw [if_pos hn, hn]
    refine Or.inl ⟨0, holds_zero, fun x w _ => ?_⟩
    simp
  rw [if_neg hn]
  dsimp only
  obtain ⟨least, below, filled⟩ := exponentOf_spec (Nat.pos_of_ne_zero hn) h
  generalize exponentOf num den = e at least below filled
  have pos := two_zpow_pos e
  -- on the grid of the exponent, the ratio is what the scaled one is among whole numbers
  obtain ⟨r, hr⟩ : ∃ r, r = scale num den (-e) := ⟨_, rfl⟩
  have posr : 0 < r.2 := hr ▸ scale_pos _ h (-e)
  have ratio : (num / den : ℚ) = r.1 / r.2 * 2 ^ e := by
    rw [hr, scale_ratio, mul_assoc, ← two_zpow_add, neg_add_cancel, zpow_zero, mul_one]
  obtain ⟨m, hm⟩ : ∃ m, m = roundHalfEven r.1 r.2 := ⟨_, rfl⟩
  have nearest : Nearest (magnitude m e) (num / den) := by
    refine nearest_of_grid filled fun k => ?_
    rw [magnitude, ratio, ← sub_mul, ← sub_mul, abs_mul, abs_mul, hm]
    exact mul_le_mul_of_nonneg_right (roundHalfEven_nearest r.1 posr k) (abs_nonneg _)
  have fits : m ≤ carry := by
    rw [hm]
    refine roundHalfEven_le posr ?_
    rw [ratio, two_zpow_add, mul_comm, mul_lt_mul_iff_right₀ pos, ← carry_eq] at below
    exact below.le
  rw [← hr, ← hm]
  rcases pack_cases fits least false with ⟨m', e', hp, hf, same⟩ | ⟨hp, great⟩
  · exact Or.inl ⟨magnitude m e, ⟨m', e', hp, hf, same.symm⟩, nearest⟩
  · refine Or.inr ⟨hp, (zpow_le_zpow_right₀ (by norm_num) ?_).trans (filled ?_)⟩
    · simp only [greatestExponent] at great
      omega
    · simp only [greatestExponent, leastExponent] at great ⊢
      omega

end QueueProbe.Binary64
