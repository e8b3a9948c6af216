import QueueProbe.Polling.Backoff
import QueueProbe.Proofs.Binary64.Operations

/-! Delays that grow, up to a cap. The grown delay is compared with the cap as a number of seconds, which
is rounded twice over, while the cap itself is exact. Still, what is below the rounded cap is less than
half a nanosecond above the exact one, so that it is rounded to a span no longer than the cap. -/

namespace QueueProbe

open Binary64

namespace Span

variable {d : Span} {x : Binary64} {v s : ℚ} {n : Nat}

theorem cast_perSecond : (perSecond : ℚ) = 1000000000 := by norm_num [perSecond]

theorem seconds_lt (h : d.nanos < limit) : d.seconds < 2 ^ 64 := by
  simp only [seconds, limit, perSecond] at h ⊢
  omega

theorem nanos_eq (d : Span) : (d.nanos : ℚ) = (d.seconds + d.subsecond / perSecond) * perSecond := by
  have parts : (d.nanos : ℚ) = perSecond * d.seconds + d.subsecond := by
    exact_mod_cast (Nat.div_add_mod d.nanos perSecond).symm
  rw [parts, cast_perSecond]
  ring

theorem subsecond_le (d : Span) : (d.subsecond : ℚ) / perSecond ≤ 1 - 1 / 1000000000 := by
  have less : d.subsecond ≤ 999999999 := Nat.le_of_lt_succ (Nat.mod_lt _ (by decide))
  have less : (d.subsecond : ℚ) ≤ 999999999 := by exact_mod_cast less
  rw [cast_perSecond]
  linarith

/-- The numbers that the seconds of a span are added up from. -/
structure Parts (d : Span) (whole part : ℚ) : Prop where
  whole_held : ∃ x, Holds x whole
  part_held : ∃ x, Holds x part
  nearest_whole : Nearest whole d.seconds
  nearest_part : Nearest part (d.subsecond / perSecond)
  sum : ∃ s, Holds d.toSeconds s ∧ Nearest s (whole + part)

theorem part_lt {part : ℚ} (h : Nearest part (d.subsecond / perSecond)) : part < 1 := by
  have below := h.le (holds_finite (m := 2 ^ 30 - 1) (e := -30) ⟨by decide, by decide, by decide⟩)
    (d.subsecond_le.trans (by norm_num [magnitude]))
  exact below.trans_lt (by norm_num [magnitude])

theorem exists_parts (h : d.nanos < limit) : ∃ whole part, Parts d whole part := by
  have few : (d.seconds : ℚ) ≤ 2 ^ (64 : Int) := by exact_mod_cast (seconds_lt h).le
  obtain ⟨whole, held, nearest⟩ := (rounds_ofNat d.seconds).of_le few (by decide)
  have unit : Holds (ofNat perSecond) perSecond := holds_ofNat (by decide)
  have rest : Holds (ofNat d.subsecond) d.subsecond :=
    holds_ofNat ((Nat.mod_lt _ (by decide)).trans (by decide))
  obtain ⟨part, held', nearest'⟩ := (rounds_div rest unit (by norm_num [perSecond])).of_le (k := 0)
    (by linarith [d.subsecond_le]) (by decide)
  have wide := nearest.le (holds_finite (m := 1) (e := 64) ⟨by decide, by decide, by decide⟩)
    (by simpa [magnitude] using few)
  rw [magnitude, Nat.cast_one, one_mul] at wide
  obtain ⟨s, sum⟩ := (rounds_add held held').of_le (k := 65)
    (by norm_num at wide ⊢; linarith [part_lt nearest']) (by decide)
  exact ⟨whole, part, ⟨_, held⟩, ⟨_, held'⟩, nearest, nearest', s, sum⟩

/-- A number of seconds below those of a span, as they are rounded, is less than half a nanosecond above
the span. -/
theorem lt_of_lt_toSeconds (h : d.nanos < limit) (hs : Holds d.toSeconds s) (hx : Holds x v) (less : v < s) :
    v * perSecond < d.nanos + 1 / 2 := by
  obtain ⟨whole, part, parts⟩ := exists_parts h
  obtain ⟨s', hs', near⟩ := parts.sum
  obtain rfl := hs.unique hs'
  have under : v < whole + part := lt_of_not_ge fun reached => not_lt.2 (near.le hx reached) less
  have small := part_lt parts.nearest_part
  have fraction : (0 : ℚ) ≤ d.subsecond / perSecond := by positivity
  rw [nanos_eq d]
  rcases Nat.lt_or_ge d.seconds carry with fits | great
  · -- the seconds are exact, and the fraction errs by much less than a nanosecond
    have exact := parts.nearest_whole.eq (holds_natCast fits)
    have close := parts.nearest_part.error_le (e := -53) (by decide) (by decide) fraction
      (by norm_num; linarith [d.subsecond_le])
    have excess := (le_abs_self _).trans close
    rw [cast_perSecond] at excess ⊢
    norm_num at excess
    linarith
  · -- only even numbers are left, and the fraction is lost
    by_contra above
    have beyond : (d.seconds : ℚ) ≤ v := by
      rw [cast_perSecond] at above fraction
      linarith
    obtain ⟨y, hy⟩ := parts.whole_held
    obtain ⟨z, hz⟩ := parts.part_held
    have reached := parts.nearest_whole.le hx beyond
    have large : (2 : ℚ) ^ (53 : Int) ≤ whole := by
      have great : (carry : ℚ) ≤ d.seconds := by exact_mod_cast great
      have edge := holds_finite (m := 1) (e := 53) ⟨by decide, by decide, by decide⟩
      rw [magnitude, Nat.cast_one, one_mul] at edge
      exact parts.nearest_whole.ge edge (carry_eq ▸ great)
    obtain ⟨i, hi⟩ := hy.even large
    obtain ⟨j, hj⟩ := hx.even (large.trans reached)
    obtain ⟨k, hk⟩ := hs.even ((large.trans reached).trans less.le)
    have within : j < i + 1 := by
      have : (j : ℚ) < i + 1 := by linarith
      exact_mod_cast this
    have further : j + 1 ≤ k := by
      have : (j : ℚ) < k := by linarith
      exact_mod_cast this
    have reached : i ≤ j := by
      have : (i : ℚ) ≤ j := by linarith
      exact_mod_cast this
    have lost := near _ _ hy
    rw [sub_add_cancel_left, abs_neg, abs_of_nonneg hz.nonneg] at lost
    have step : (i : ℚ) + 1 ≤ k := by exact_mod_cast (by omega : i + 1 ≤ k)
    linarith [le_abs_self (s - (whole + part))]

theorem ofSeconds?_of_lt (hx : Holds x v) (h : v * perSecond < n + 1 / 2) (fits : n < limit) :
    ∃ d, ofSeconds? x = some d ∧ d.nanos ≤ n ∧ |(d.nanos : ℚ) - v * perSecond| ≤ 1 / 2 := by
  obtain ⟨m, e, rfl, -, rfl⟩ := hx
  obtain ⟨r, hr⟩ : ∃ r, r = scale (m * perSecond) 1 e := ⟨_, rfl⟩
  have near := roundHalfEven_near r.1 (hr ▸ scale_pos _ Nat.one_pos e)
  have exact : (r.1 / r.2 : ℚ) = magnitude m e * perSecond := by
    rw [hr, scale_ratio, magnitude]
    push_cast
    ring
  rw [exact] at near
  have few : roundHalfEven r.1 r.2 ≤ n := by
    have below : (roundHalfEven r.1 r.2 : ℚ) < n + 1 := by
      linarith [le_abs_self ((roundHalfEven r.1 r.2 : ℚ) - magnitude m e * perSecond)]
    exact Nat.le_of_lt_succ (by exact_mod_cast below)
  refine ⟨⟨roundHalfEven r.1 r.2⟩, ?_, few, near⟩
  simp only [ofSeconds?, Bool.false_and, Bool.false_eq_true, if_false, ← hr, if_pos (few.trans_lt fits)]

end Span

namespace Backoff

variable {initial cap : Span} {multiplier : Binary64} {attempt : Nat}

theorem holds_grown (bounded : initial.nanos < Span.limit)
    (finite : (grown initial multiplier attempt).isFinite = true) :
    ∃ v, Holds (grown initial multiplier attempt) v := by
  obtain ⟨whole, part, parts⟩ := Span.exists_parts bounded
  obtain ⟨s, hs, -⟩ := parts.sum
  exact holds_mul hs.isNegative (isNegative_powLoop (isNegative_max_one multiplier) rfl _) finite

/-- However an exponential delay grows, be it to infinity or to no number at all, it is turned into a span
only if it is a finite number without a sign and less than the cap in seconds. Then there is such a span, and
the nearest one is the delay. In all other cases the delay is the cap, and it never is more. -/
theorem exponential_capped (multiplier : Binary64) (attempt : Nat) (hi : initial.nanos < Span.limit)
    (hc : cap.nanos < Span.limit) :
    let s := grown initial multiplier attempt
    let d := (exponential initial multiplier cap).delay attempt
    (s.isFinite = true → s.ge cap.toSeconds = false → s.isNegative = false ∧ Span.ofSeconds? s = some d ∧
      ∃ v, Holds s v ∧ |(d.nanos : ℚ) - v * Span.perSecond| ≤ 1 / 2) ∧
    (s.isFinite = false ∨ s.ge cap.toSeconds = true → d = cap) ∧ d ≤ cap := by
  intro s d
  by_cases passed : s.isFinite = true ∧ s.ge cap.toSeconds = false
  · obtain ⟨finite, below⟩ := passed
    obtain ⟨v, hv⟩ := holds_grown hi finite
    obtain ⟨whole, part, parts⟩ := Span.exists_parts hc
    obtain ⟨w, hw, -⟩ := parts.sum
    have less : v < w := by
      rw [← not_le, ← ge_iff hv hw, below]
      exact Bool.false_ne_true
    obtain ⟨r, hr, few, near⟩ := Span.ofSeconds?_of_lt hv (Span.lt_of_lt_toSeconds hc hw hv less) hc
    have turned : d = r := by
      simp only [d, delay]
      rw [finite, below, hr]
      rfl
    rw [turned]
    refine ⟨fun _ _ => ⟨hv.isNegative, hr, v, hv, near⟩, ?_, few⟩
    rintro (infinite | reached)
    · rw [finite] at infinite
      cases infinite
    · rw [below] at reached
      cases reached
  · have kept : d = cap := by
      simp only [d, delay]
      rw [if_pos]
      by_contra passing
      exact passed (by simpa using passing)
    rw [kept]
    exact ⟨fun finite below => absurd ⟨finite, below⟩ passed, fun _ => rfl, Nat.le_refl _⟩

/-- The cap is no number of the format, and in seconds it is rounded up, beyond the delay. The delay is one
second below the cap, where it stays. -/
theorem exponential_capped_uneven :
    let cap := Span.of 9007199254740995 0
    let s := grown (.of 9007199254740994 0) .nan 7
    cap.toSeconds = .finite false 0x10000000000002 1 ∧ s = .finite false 0x10000000000001 1 ∧
    s.isNegative = false ∧ Span.ofSeconds? s = some (.of 9007199254740994 0) ∧
    (exponential (.of 9007199254740994 0) .nan cap).delay 7 = .of 9007199254740994 0 ∧
    (exponential (.of 9007199254740994 0) .nan cap).delay 7 ≤ cap := by
  obtain ⟨turned, -, few⟩ := @exponential_capped (.of 9007199254740994 0) (.of 9007199254740995 0) .nan 7
    (by decide) (by decide)
  obtain ⟨sign, there, -⟩ := turned (by decide +kernel) (by decide +kernel)
  have value : (exponential (.of 9007199254740994 0) .nan (.of 9007199254740995 0)).delay 7 =
      .of 9007199254740994 0 := by
    decide +kernel
  rw [value] at there
  exact ⟨by decide +kernel, by decide +kernel, sign, there, value, few⟩

end Backoff

end QueueProbe
