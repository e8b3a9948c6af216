import QueueProbe.Proofs.Binary64.Powers
import QueueProbe.Proofs.Polling.Growth

/-! When a growing delay reaches its cap. What is compared with the cap has been rounded once for each factor
and a few times more, but it is still within a hundredth of the exact delay, so that no delay is cut off much
too early. There is one exception: nothing at all, if it is to grow by a power that has become infinite, is
no number, and the cap takes its place. -/

namespace QueueProbe

open Binary64

namespace Span

variable {d : Span} {s v q : ℚ}

theorem normal_le : (2 : ℚ) ^ (-1022 : Int) ≤ 1 / 10 ^ 10 := by
  have least : (2 : ℚ) ^ (-1022 : Int) ≤ 2 ^ (-34 : Int) := zpow_le_zpow_right₀ one_le_two (by decide)
  exact least.trans (by norm_num)

theorem limit_le_edge : (limit : ℚ) ≤ 2 ^ (1022 : Int) := by
  have far : (2 : ℚ) ^ (94 : Int) ≤ 2 ^ (1022 : Int) := zpow_le_zpow_right₀ one_le_two (by decide)
  exact le_trans (by norm_num [limit, perSecond]) far

theorem nearest_bounds (h : Nearest v q) (some : q = 0 ∨ 1 / 10 ^ 10 ≤ q) (few : q ≤ 10 ^ 20) :
    q * (1 - slack) ≤ v ∧ v ≤ q * (1 + slack) := by
  refine h.relative_bounds (some.imp_right normal_le.trans) (few.trans_lt ?_)
  · have greatest : (2 : ℚ) ^ (67 : Int) ≤ 2 ^ (1024 : Int) := zpow_le_zpow_right₀ one_le_two (by decide)
    exact lt_of_lt_of_le (by norm_num) greatest

theorem nearest_sum {a b a' b' : ℚ} (ha : Nearest a' a) (hb : Nearest b' b) (hs : Nearest s (a' + b'))
    (somea : a = 0 ∨ 1 / 10 ^ 9 ≤ a) (someb : b = 0 ∨ 1 / 10 ^ 9 ≤ b) (fewa : a ≤ 2 ^ 64) (fewb : b ≤ 1) :
    (a + b) * (999 / 1000) ≤ s ∧ s ≤ (a + b) * (1001 / 1000) := by
  have nonnega : 0 ≤ a := somea.elim (fun none => none.ge) fun low => by linarith
  have nonnegb : 0 ≤ b := someb.elim (fun none => none.ge) fun low => by linarith
  obtain ⟨lowa, higha⟩ := nearest_bounds ha (somea.imp_right fun low => by linarith) (by linarith)
  obtain ⟨lowb, highb⟩ := nearest_bounds hb (someb.imp_right fun low => by linarith) (by linarith)
  rw [slack] at lowa higha lowb highb
  have some : a' + b' = 0 ∨ 1 / 10 ^ 10 ≤ a' + b' := by
    rcases somea with rfl | some
    · rcases someb with rfl | some
      · exact Or.inl (by linarith)
      · exact Or.inr (by linarith)
    · exact Or.inr (by linarith)
  obtain ⟨low, high⟩ := nearest_bounds hs some (by linarith)
  rw [slack] at low high
  constructor <;> linarith

theorem cast_zero_or_one_le (n : Nat) : (n : ℚ) = 0 ∨ 1 ≤ (n : ℚ) := by
  rcases Nat.eq_zero_or_pos n with rfl | pos
  · exact Or.inl Nat.cast_zero
  · exact Or.inr (by exact_mod_cast pos)

/-- Seconds are within a thousandth of the nanoseconds they are made from. -/
theorem toSeconds_near (h : d.nanos < limit) (hs : Holds d.toSeconds s) :
    d.nanos * (999 / 1000) ≤ s * perSecond ∧ s * perSecond ≤ d.nanos * (1001 / 1000) := by
  obtain ⟨whole, part, parts⟩ := exists_parts h
  obtain ⟨s', hs', near⟩ := parts.sum
  obtain rfl := hs.unique hs'
  have seconds : (d.seconds : ℚ) = 0 ∨ 1 / 10 ^ 9 ≤ (d.seconds : ℚ) :=
    (cast_zero_or_one_le d.seconds).imp_right fun one => by linarith
  have subsecond : (d.subsecond : ℚ) / perSecond = 0 ∨ 1 / 10 ^ 9 ≤ (d.subsecond : ℚ) / perSecond := by
    rw [cast_perSecond]
    exact (cast_zero_or_one_le d.subsecond).imp (fun none => by simp [none]) fun one => by linarith
  obtain ⟨low, high⟩ := nearest_sum parts.nearest_whole parts.nearest_part near seconds subsecond
    (by exact_mod_cast (seconds_lt h).le) (by linarith [d.subsecond_le])
  have pos : (0 : ℚ) ≤ perSecond := Nat.cast_nonneg _
  rw [nanos_eq d, mul_right_comm, mul_right_comm _ (perSecond : ℚ)]
  exact ⟨mul_le_mul_of_nonneg_right low pos, mul_le_mul_of_nonneg_right high pos⟩

theorem holds_toSeconds (h : d.nanos < limit) : ∃ s, Holds d.toSeconds s := by
  obtain ⟨_, _, parts⟩ := exists_parts h
  obtain ⟨s, hs, -⟩ := parts.sum
  exact ⟨s, hs⟩

theorem one_le_nanos (h : 0 < d.nanos) : (1 : ℚ) ≤ d.nanos := by exact_mod_cast h

theorem toSeconds_pos (h : d.nanos < limit) (hs : Holds d.toSeconds s) (pos : 0 < d.nanos) : 0 < s := by
  have one := one_le_nanos pos
  have low := (toSeconds_near h hs).1
  rw [cast_perSecond] at low
  linarith

end Span

namespace Backoff

variable {initial cap : Span} {multiplier : Binary64} {attempt : Nat} {m n : Nat} {e : Int} {v q : ℚ}

/-! What is known of a delay that is the cap. -/

theorem delay_of_not_finite (h : (grown initial multiplier attempt).isFinite = false) :
    (exponential initial multiplier cap).delay attempt = cap := by
  simp [delay, h]

theorem delay_of_ge (h : (grown initial multiplier attempt).ge cap.toSeconds = true) :
    (exponential initial multiplier cap).delay attempt = cap := by
  simp [delay, h]

theorem delay_of_ofSeconds? {d : Span} (finite : (grown initial multiplier attempt).isFinite = true)
    (below : (grown initial multiplier attempt).ge cap.toSeconds = false)
    (h : Span.ofSeconds? (grown initial multiplier attempt) = some d) :
    (exponential initial multiplier cap).delay attempt = d := by
  simp [delay, finite, below, h]

theorem le_of_delay_eq (hc : cap.nanos < Span.limit) (hv : Holds (grown initial multiplier attempt) v)
    (h : (exponential initial multiplier cap).delay attempt = cap) :
    cap.nanos * (999 / 1000) ≤ v * Span.perSecond + 1 / 2 := by
  obtain ⟨w, hw⟩ := Span.holds_toSeconds hc
  by_cases reached : w ≤ v
  · have pos : (0 : ℚ) ≤ Span.perSecond := Nat.cast_nonneg _
    linarith [(Span.toSeconds_near hc hw).1, mul_le_mul_of_nonneg_right reached pos]
  · obtain ⟨d, hd, -, near⟩ :=
      Span.ofSeconds?_of_lt hv (Span.lt_of_lt_toSeconds hc hw hv (not_le.1 reached)) hc
    have below : (grown initial multiplier attempt).ge cap.toSeconds = false :=
      Bool.eq_false_iff.2 fun capped => reached ((ge_iff hv hw).1 capped)
    have same : cap = d := h.symm.trans (delay_of_ofSeconds? hv.isFinite below hd)
    have nonneg : (0 : ℚ) ≤ cap.nanos := Nat.cast_nonneg _
    rw [← same] at near
    linarith [(abs_le.1 near).2]

/-! What is known of a delay that has grown. -/

/-- The power that the first delay is multiplied by. -/
def growth (multiplier : Binary64) (attempt : Nat) : Binary64 :=
  (multiplier.max .one).pow (min (attempt - 1) greatestPower)

theorem grown_eq (initial : Span) (multiplier : Binary64) (attempt : Nat) :
    grown initial multiplier attempt = initial.toSeconds.mul (growth multiplier attempt) := rfl

theorem computed_growth (negative : Bool) (fits : Fits m e) (attempt : Nat) :
    Computed (growth (.finite negative m e) attempt)
      (max (value (.finite negative m e)) 1 ^ min (attempt - 1) greatestPower)
      (min (attempt - 1) greatestPower) :=
  ((holds_max_one negative fits).computed (le_max_right _ _)).pow _

theorem power_le (attempt : Nat) : min (attempt - 1) greatestPower ≤ 2 ^ 31 :=
  (min_le_right _ _).trans (by decide)

section Growing

variable (hi : initial.nanos < Span.limit) (pos : 0 < initial.nanos)
  (power : Computed (growth multiplier attempt) q n) (few : n ≤ 2 ^ 31)

include hi pos power few

theorem product_bounds {s u : ℚ} (hs : Holds initial.toSeconds s) (hu : Holds (growth multiplier attempt) u) :
    1 / 10 ^ 10 ≤ s * u ∧ s * u * Span.perSecond ≤ initial.nanos * q * (1003 / 1000) := by
  obtain ⟨lows, highs⟩ := Span.toSeconds_near hi hs
  obtain ⟨lowu, highu⟩ := power.bounds few hu
  have one := power.one_le
  have nanos := Span.one_le_nanos pos
  have more : 1 ≤ (initial.nanos : ℚ) * q := one_le_mul_of_one_le_of_one_le nanos one
  rw [Span.cast_perSecond] at lows highs ⊢
  constructor
  · calc (1 / 10 ^ 10 : ℚ) ≤ (999 / 10 ^ 12) * (999 / 1000) := by norm_num
      _ ≤ s * u := mul_le_mul (by linarith) (by linarith) (by norm_num) (by linarith)
  · calc s * u * 1000000000 = s * 1000000000 * u := by ring
      _ ≤ initial.nanos * (1001 / 1000) * (q * (1001 / 1000)) :=
        mul_le_mul highs highu (by linarith) (by linarith)
      _ ≤ initial.nanos * q * (1003 / 1000) := by linarith

theorem grown_le (hv : Holds (grown initial multiplier attempt) v) :
    v * Span.perSecond ≤ initial.nanos * q * (101 / 100) := by
  obtain ⟨s, hs⟩ := Span.holds_toSeconds hi
  rw [grown_eq] at hv
  rcases power.finite_or_great few with ⟨u, hu⟩ | ⟨overflown, -⟩
  · obtain ⟨low, high⟩ := product_bounds hi pos power few hs hu
    obtain ⟨v', hv', near⟩ := (rounds_mul hs hu).of_isFinite hv.isFinite
    obtain rfl := hv.unique hv'
    have normal : (2 : ℚ) ^ (-1022 : Int) ≤ s * u := Span.normal_le.trans low
    have above := (near.relative_bounds (Or.inr normal) (lt_of_isFinite_mul hs hu hv.isFinite)).2
    rw [slack] at above
    rw [Span.cast_perSecond] at high ⊢
    linarith
  · rw [overflown, (infinite_mul hs (Span.toSeconds_pos hi hs pos)).2] at hv
    cases hv.isFinite

theorem limit_le (overflown : (grown initial multiplier attempt).isFinite = false) :
    (Span.limit : ℚ) ≤ initial.nanos * q := by
  obtain ⟨s, hs⟩ := Span.holds_toSeconds hi
  rw [grown_eq] at overflown
  have nanos := Span.one_le_nanos pos
  rcases power.finite_or_great few with ⟨u, hu⟩ | ⟨-, great⟩
  · rcases rounds_mul hs hu with ⟨v, hv, -⟩ | ⟨-, great⟩
    · rw [hv.isFinite] at overflown
      cases overflown
    · have far := Span.limit_le_edge.trans (zpow_le_zpow_right₀ one_le_two (by decide : (1022 : Int) ≤ 1023))
      have high := (product_bounds hi pos power few hs hu).2
      have nonneg : (0 : ℚ) ≤ Span.limit := Nat.cast_nonneg _
      rw [Span.cast_perSecond] at high
      generalize (2 : ℚ) ^ (1023 : Int) = edge at great far
      linarith
  · exact Span.limit_le_edge.trans
      (great.trans (le_mul_of_one_le_left (zero_le_one.trans power.one_le) nanos))

/-- A delay that is the cap should be at least half of it. -/
theorem half_le (hc : cap.nanos < Span.limit) (h : (exponential initial multiplier cap).delay attempt = cap) :
    (cap.nanos : ℚ) / 2 ≤ initial.nanos * q := by
  have nanos := Span.one_le_nanos pos
  have one : 1 ≤ (initial.nanos : ℚ) * q := one_le_mul_of_one_le_of_one_le nanos power.one_le
  by_cases finite : (grown initial multiplier attempt).isFinite = true
  · obtain ⟨v, hv⟩ := holds_grown hi finite
    -- the half nanosecond of the rounding is at most half of what a whole one has grown to
    linarith [le_of_delay_eq hc hv h, grown_le hi pos power few hv]
  · have beyond := limit_le hi pos power few (Bool.eq_false_iff.2 finite)
    have less : (cap.nanos : ℚ) < Span.limit := by exact_mod_cast hc
    linarith

end Growing

/-! No delay at all, to begin with. -/

theorem toSeconds_zero : Span.zero.toSeconds = .zero false := by decide +kernel

theorem holds_grown_zero (h : (growth multiplier attempt).isFinite = true)
    (power : Computed (growth multiplier attempt) q n) : Holds (grown .zero multiplier attempt) 0 := by
  rcases power.outcome with ⟨u, hu, -⟩ | ⟨overflown, -⟩
  · have product := rounds_mul holds_zero hu
    rw [zero_mul] at product
    obtain ⟨v, hv, near⟩ := product.of_le (two_zpow_pos 0).le (by decide)
    rw [grown_eq, toSeconds_zero]
    exact near.eq holds_zero ▸ hv
  · rw [overflown] at h
    cases h

theorem delay_zero (hc : cap.nanos < Span.limit) (h : Holds (grown .zero multiplier attempt) 0) :
    (exponential .zero multiplier cap).delay attempt = .zero := by
  obtain ⟨w, hw⟩ := Span.holds_toSeconds hc
  by_cases reached : (grown .zero multiplier attempt).ge cap.toSeconds = true
  · have low := (Span.toSeconds_near hc hw).1
    have seconds : w ≤ 0 := (ge_iff h hw).1 reached
    rw [Span.cast_perSecond] at low
    have nanos : (cap.nanos : ℚ) ≤ 0 := by linarith
    rw [delay_of_ge reached]
    exact congrArg Span.mk (Nat.le_zero.1 (by exact_mod_cast nanos))
  · obtain ⟨d, hd, none, -⟩ := Span.ofSeconds?_of_lt (n := 0) h (by norm_num) (by decide)
    rw [delay_of_ofSeconds? h.isFinite (Bool.eq_false_iff.2 reached) hd]
    exact congrArg Span.mk (Nat.le_zero.1 none)

/-- Nothing times infinity is no number. -/
theorem delay_zero_of_infinite (h : growth multiplier attempt = .infinite false) :
    (exponential .zero multiplier cap).delay attempt = cap := by
  refine delay_of_not_finite ?_
  rw [grown_eq, toSeconds_zero, h]
  rfl

theorem delay_from_zero (hc : cap.nanos < Span.limit) (power : Computed (growth multiplier attempt) q n)
    (few : n ≤ 2 ^ 31) : (exponential .zero multiplier cap).delay attempt =
      if (growth multiplier attempt).isFinite then .zero else cap := by
  split
  · next finite => exact delay_zero hc (holds_grown_zero finite power)
  · next infinite =>
    rcases power.finite_or_great few with ⟨v, hv⟩ | ⟨overflown, -⟩
    · exact absurd hv.isFinite infinite
    · exact delay_zero_of_infinite overflown

/-- If a delay is the cap, then the exact delay, which is the first one times the factor for each attempt
before, comes to at least half the cap. A factor below one counts as one, and attempt zero as the first. The
only exceptions are delays that start from zero, once the power is infinite as it is computed: a delay of zero
stays zero before that and becomes the cap then. The computed power is finite where the exact one is below
`2 ^ 1022`, and infinite from `2 ^ 1025` on. -/
theorem cap_reached_in_time (negative : Bool) (fits : Fits m e) (attempt : Nat) (hi : initial.nanos < Span.limit)
    (hc : cap.nanos < Span.limit) :
    let multiplier := Binary64.finite negative m e
    let factor := max multiplier.value 1
    let power := growth multiplier attempt
    let d := (exponential initial multiplier cap).delay attempt
    ((d = cap → (cap.nanos : ℚ) / 2 ≤ initial.nanos * factor ^ (attempt - 1)) ↔
      0 < initial.nanos ∨ power.isFinite = true ∨ cap.nanos = 0) ∧
    (initial.nanos = 0 → d = if power.isFinite then .zero else cap) ∧
    (factor ^ min (attempt - 1) greatestPower < 2 ^ (1022 : Int) → power.isFinite = true) ∧
    (2 ^ (1025 : Int) ≤ factor ^ min (attempt - 1) greatestPower → power.isFinite = false) := by
  intro multiplier factor power d
  have computed : Computed power _ _ := computed_growth negative fits attempt
  have few := power_le attempt
  have zero : initial.nanos = 0 → d = if power.isFinite then .zero else cap := by
    intro none
    obtain rfl : initial = .zero := congrArg Span.mk none
    exact delay_from_zero hc computed few
  refine ⟨⟨fun intime => ?_, fun usual capped => ?_⟩, zero, fun small => ?_, computed.not_finite_of_le few⟩
  · by_contra unusual
    simp only [not_or, Nat.not_lt, Nat.le_zero] at unusual
    obtain ⟨none, infinite, there⟩ := unusual
    have capped : d = cap := (zero none).trans (if_neg infinite)
    have late := intime capped
    rw [none, Nat.cast_zero, zero_mul] at late
    have positive : (0 : ℚ) < cap.nanos := by exact_mod_cast Nat.pos_of_ne_zero there
    linarith
  · have more : factor ^ min (attempt - 1) greatestPower ≤ factor ^ (attempt - 1) :=
      pow_le_pow_right₀ (le_max_right _ _) (min_le_left _ _)
    rcases Nat.eq_zero_or_pos initial.nanos with none | pos
    · have nothing : cap.nanos = 0 := by
        rcases usual with pos | finite | nothing
        · omega
        · rw [← capped, zero none, if_pos finite]
          rfl
        · exact nothing
      rw [none, nothing]
      simp
    · exact (half_le hi pos computed few hc capped).trans
        (mul_le_mul_of_nonneg_left more (Nat.cast_nonneg _))
  · rcases computed.finite_or_great few with ⟨v, hv⟩ | ⟨-, great⟩
    · exact hv.isFinite
    · exact absurd great (not_le.2 small)

/-- The power is infinite, and yet the cap comes in time: a nanosecond, growing by halves, is beyond three
seconds at last. -/
theorem cap_reached_in_time_beyond :
    Fits 0x18000000000000 (-52) ∧ (Span.of 0 1).nanos < Span.limit ∧ (Span.of 3 0).nanos < Span.limit ∧
    (growth (.finite false 0x18000000000000 (-52)) 2000).isFinite = false ∧
    (exponential (.of 0 1) (.finite false 0x18000000000000 (-52)) (.of 3 0)).delay 2000 = .of 3 0 ∧
    ((Span.of 3 0).nanos : ℚ) / 2 ≤
      (Span.of 0 1).nanos * max (value (.finite false 0x18000000000000 (-52))) 1 ^ 1999 := by
  have fits : Fits 0x18000000000000 (-52) := ⟨by decide, by decide, by decide⟩
  have capped : (exponential (.of 0 1) (.finite false 0x18000000000000 (-52)) (.of 3 0)).delay 2000 = .of 3 0 := by
    decide +kernel
  obtain ⟨intime, -⟩ := @cap_reached_in_time (.of 0 1) (.of 3 0) _ _ false fits 2000 (by decide) (by decide)
  exact ⟨fits, by decide, by decide, by decide +kernel, capped, intime.2 (Or.inl (by decide)) capped⟩

/-- Doubling nothing a thousand and twenty-four times gives no number, and a delay of one second for one of
zero. -/
theorem zero_delay_capped :
    let multiplier := Binary64.finite false 0x10000000000000 (-51)
    let cap := Span.of 1 0
    value multiplier = 2 ∧ (exponential .zero multiplier cap).delay 1024 = .zero ∧
    (exponential .zero multiplier cap).delay 1025 = cap ∧
    ¬ (cap.nanos : ℚ) / 2 ≤ Span.zero.nanos * max (value multiplier) 1 ^ 1024 := by
  refine ⟨by norm_num [value, magnitude], by decide +kernel, by decide +kernel, ?_⟩
  have none : (Span.zero.nanos : ℚ) = 0 := Nat.cast_zero
  have there : (0 : ℚ) < (Span.of 1 0).nanos := by exact_mod_cast (by decide : 0 < (Span.of 1 0).nanos)
  rw [none, zero_mul, not_le]
  exact half_pos there

end Backoff

end QueueProbe
