import QueueProbe.Proofs.Polling.Attempts

/-! A poll that always fails, on a clock that only sleeping moves. When its attempts are made is read
off what it did, by adding up its sleeps. Each attempt comes a delay after the one before, but the last,
which comes at the deadline and not later. -/

namespace QueueProbe

/-- When attempts are made, if the first is at `t` and only sleeping takes time. -/
def PollEvent.moments (t : Span) : List PollEvent → List Span
  | [] => []
  | .asserting _ _ :: rest => t :: moments t rest
  | .sleeping d :: rest => moments (t + d) rest
  | .retrying _ _ :: rest | .gaveUp _ :: rest => moments t rest

def Poll.moments {α : Type} (r : Poll α) : List Span := PollEvent.moments .zero r.events

theorem Span.eq_of_nanos {a b : Span} (h : a.nanos = b.nanos) : a = b := congrArg Span.mk h

namespace RetryPolicy

/-- When the attempt is due that follows `n` failed ones: a delay after the one before, or at the
deadline if that is sooner. -/
def due (p : RetryPolicy) : Nat → Span
  | 0 => .zero
  | n + 1 => min (p.due n + max (p.backoff.delay (n + 1)) leastDelay) p.maxDuration

variable {p : RetryPolicy} {n k : Nat}

theorem nanos_due (p : RetryPolicy) (n : Nat) : (p.due (n + 1)).nanos =
    min ((p.due n).nanos + max (p.backoff.delay (n + 1)).nanos leastDelay.nanos) p.maxDuration.nanos := rfl

theorem due_le (p : RetryPolicy) (n : Nat) : p.due n ≤ p.maxDuration := by
  cases n with
  | zero => exact Nat.zero_le _
  | succ n => exact Nat.min_le_right _ _

theorem due_lt_succ (left : p.due n < p.maxDuration) : p.due n < p.due (n + 1) := by
  have least : 0 < leastDelay.nanos := by decide
  rw [Span.lt_iff] at left ⊢
  rw [nanos_due]
  omega

theorem due_le_succ (p : RetryPolicy) (n : Nat) : p.due n ≤ p.due (n + 1) := by
  have hle := p.due_le n
  rw [Span.le_iff] at hle ⊢
  rw [nanos_due]
  omega

theorem due_mono (h : n ≤ k) : p.due n ≤ p.due k :=
  monotone_nat_of_le_succ (f := fun n => (p.due n).nanos) p.due_le_succ h

theorem due_lt (h : n < k) (left : p.due n < p.maxDuration) : p.due n < p.due k :=
  Nat.lt_of_lt_of_le (due_lt_succ left) (due_mono h)

theorem nanos_due_sum (p : RetryPolicy) (n : Nat) : (p.due n).nanos =
    min ((List.range n).map fun i => (max (p.backoff.delay (i + 1)) leastDelay).nanos).sum p.maxDuration.nanos := by
  induction n with
  | zero => simp [due, Span.zero]
  | succ n ih =>
    rw [nanos_due, ih, List.range_succ, List.map_append, List.sum_append, List.map_singleton,
      List.sum_singleton, Span.nanos_max]
    omega

theorem due_fixed {d : Span} (hb : p.backoff = .fixed d) (n : Nat) :
    (p.due n).nanos = min (n * (max d leastDelay).nanos) p.maxDuration.nanos := by
  simp [nanos_due_sum, hb, Backoff.delay]

/-- With a schedule of the caller's own, the caller is asked for each delay, by the attempts made before it. -/
theorem due_custom {schedule : Nat → Span} (hb : p.backoff = .custom schedule) (n : Nat) :
    (p.due n).nanos =
      min ((List.range n).map fun i => (max (schedule (i + 1)) leastDelay).nanos).sum p.maxDuration.nanos := by
  rw [nanos_due_sum, hb]
  rfl

theorem spent_iff {d : Span} (hb : p.backoff = .fixed d) :
    p.maxDuration ≤ p.due n ↔ p.maxDuration.nanos ⌈/⌉ (max d leastDelay).nanos ≤ n := by
  have pos : 0 < (max d leastDelay).nanos :=
    (by decide : 0 < leastDelay.nanos).trans_le (Nat.le_max_right _ _)
  rw [ceilDiv_le_iff_le_mul pos, Span.le_iff, due_fixed hb, Nat.mul_comm]
  omega

end RetryPolicy

theorem Clock.shows_ideal (p : RetryPolicy) (n : Nat) : ideal.shows p (n + 1) = p.due n := by
  induction n with
  | zero => rfl
  | succ n ih =>
    have hle := p.due_le n
    rw [shows_succ _ p (Nat.add_one_pos n), ih]
    refine Span.eq_of_nanos ?_
    rw [RetryPolicy.nanos_due]
    rcases Nat.lt_or_ge (p.due n).nanos p.maxDuration.nanos with left | spent
    · rw [RetryPolicy.sleep_of_lt left]
      simp only [ideal, Span.zero, Span.nanos_add, Span.nanos_min, Span.nanos_max, Span.nanos_sub]
      omega
    · have still : p.sleep (n + 1) (p.due n) = .zero := by
        rw [RetryPolicy.sleep, RetryPolicy.nextDelay_of_le spent, Option.getD_none]
      rw [still]
      simp only [ideal, Span.zero, Span.nanos_add, Span.le_iff] at hle ⊢
      omega

variable {α : Type} [Debug α] {supplier : Nat → α} {m : Matcher α} {p : RetryPolicy} {r : Poll α}

/-- Failed attempts are made at what the clock shows, one after the other. -/
theorem moments_retrials (supplier : Nat → α) (m : Matcher α) (p : RetryPolicy) (rest : List PollEvent)
    (k first : Nat) (hf : 0 < first) : PollEvent.moments (Clock.ideal.shows p first)
      ((List.range' first k).flatMap (retrial supplier m p (Clock.ideal.shows p)) ++ rest) =
    (List.range' first k).map (Clock.ideal.shows p) ++
      PollEvent.moments (Clock.ideal.shows p (first + k)) rest := by
  induction k generalizing first with
  | zero => rfl
  | succ k ih =>
    have next : Clock.ideal.shows p first + p.sleep first (Clock.ideal.shows p first) =
        Clock.ideal.shows p (first + 1) := by
      rw [Clock.shows_succ _ p hf]
      rfl
    rw [List.range'_succ, List.flatMap_cons, List.append_assoc]
    simp only [retrial, List.cons_append, List.nil_append, PollEvent.moments, next, ih (first + 1) (by omega),
      List.map_cons]
    rw [Nat.add_right_comm, Nat.add_assoc]

theorem Stretch.moments (h : Stretch supplier m p (Clock.ideal.shows p) Clock.ideal.report 1 r) :
    r.moments = (List.range r.calls).map p.due := by
  have asked : r.calls = r.calls - 1 + 1 := (Nat.sub_add_cancel h.first_le).symm
  have last : PollEvent.moments (Clock.ideal.shows p r.calls) (ending supplier m r) =
      [Clock.ideal.shows p r.calls] := by
    unfold ending
    split <;> rfl
  have one : 1 + (r.calls - 1) = r.calls := by omega
  have begun : Clock.ideal.shows p 1 = .zero := rfl
  calc r.moments
      = (List.range' 1 (r.calls - 1)).map (Clock.ideal.shows p) ++ [Clock.ideal.shows p r.calls] := by
        rw [Poll.moments, h.events, ← begun, moments_retrials _ _ _ _ _ _ Nat.one_pos, one, last]
    _ = (List.range' 1 r.calls).map (Clock.ideal.shows p) := by
        rw [asked, List.range'_concat, List.map_append, ← asked]
        simp [one]
    _ = (List.range r.calls).map p.due := by
        rw [List.range'_eq_map_range, List.map_map]
        refine List.map_congr_left fun n _ => ?_
        rw [Function.comp_apply, Nat.add_comm, Clock.shows_ideal]

/-- On a clock that only sleeping moves, a poll none of whose values passes makes its attempts when they
are due: the first at once, each next one later than the last, and the last at the deadline. It gives up
there and then. With a fixed delay they are as many as there are delays in the budget, rounded up, and
one. -/
theorem failing_poll_keeps_schedule (supplier : Nat → α) (m : Matcher α) (p : RetryPolicy)
    (failing : ∀ n, 0 < n → n ≤ (eventually supplier m p .ideal).calls → m.accepts (supplier n) = false) :
    let r := eventually supplier m p .ideal
    r.moments = (List.range r.calls).map p.due ∧
    r.moments.Pairwise (· < ·) ∧
    r.moments.head? = some .zero ∧ r.moments.getLast? = some p.maxDuration ∧
    (∃ t, r.result = .error t ∧ t.attempts = r.calls ∧ t.elapsed = p.maxDuration) ∧
    ∀ d, p.backoff = .fixed d →
      r.calls = p.maxDuration.nanos ⌈/⌉ (max d RetryPolicy.leastDelay).nanos + 1 := by
  intro r
  have h : Stretch supplier m p (Clock.ideal.shows p) Clock.ideal.report 1 r :=
    pollFrom_stretch 1 Nat.one_pos
  obtain ⟨k, hk⟩ : ∃ k, r.calls = k + 1 := ⟨r.calls - 1, (Nat.sub_add_cancel h.first_le).symm⟩
  have left : ∀ i < k, p.due i < p.maxDuration := by
    intro i hi
    rw [← Clock.shows_ideal]
    exact (h.failed (i + 1) (Nat.le_add_left 1 i) (by omega)).2
  obtain ⟨spent, hr⟩ : p.maxDuration ≤ p.due k ∧
      r.result = .error (expiry supplier m r.calls (p.due k + Clock.ideal.report)) := by
    have rejected := failing r.calls h.first_le le_rfl
    rcases h.ended with ⟨accepted, -⟩ | ⟨-, spent, hr⟩
    · rw [rejected] at accepted
      cases accepted
    · rw [hk, Clock.shows_ideal] at spent
      rw [hr, hk, Clock.shows_ideal]
      exact ⟨spent, rfl⟩
  have last : p.due k = p.maxDuration := Span.eq_of_nanos (Nat.le_antisymm (p.due_le k) spent)
  have times := h.moments
  refine ⟨times, ?_, ?_, ?_, ⟨_, hr, rfl, ?_⟩, fun d hb => ?_⟩
  · rw [times, List.pairwise_map]
    refine List.pairwise_lt_range.imp_of_mem fun hi hj hlt => ?_
    rw [List.mem_range] at hj
    exact RetryPolicy.due_lt hlt (left _ (by omega))
  · rw [times, hk, List.range_succ_eq_map]
    rfl
  · rw [times, hk, List.range_succ, List.map_append]
    simp [last]
  · rw [last]
    rfl
  · rw [hk, Nat.add_right_cancel_iff]
    refine Nat.le_antisymm (Nat.le_of_not_lt fun few => ?_) ((RetryPolicy.spent_iff hb).1 spent)
    exact Span.not_le.2 (left _ few) ((RetryPolicy.spent_iff hb).2 le_rfl)

/-- A budget of 100 ms with a delay of 40 ms, which does not divide it: the last delay is cut short. -/
theorem failing_poll_keeps_schedule_uneven :
    let r := eventually (fun n => n) (.equalTo (· == ·) 0) (.fixed (.millis 100) (.millis 40)) .ideal
    (∀ n, 0 < n → (Matcher.equalTo (· == ·) 0).accepts n = false) ∧ r.calls = 4 ∧
    r.moments = [.zero, .millis 40, .millis 80, .millis 100] := by
  have rejects : ∀ n, 0 < n → (Matcher.equalTo (· == ·) 0).accepts n = false := by
    intro n hn
    simpa [Matcher.equalTo] using hn.ne'
  obtain ⟨times, -, -, -, -, count⟩ := failing_poll_keeps_schedule (fun n => n) (.equalTo (· == ·) 0)
    (.fixed (.millis 100) (.millis 40)) fun n hn _ => rejects n hn
  have calls := count (.millis 40) rfl
  refine ⟨rejects, calls.trans (by decide), times.trans ?_⟩
  rw [calls]
  decide

end QueueProbe
