import Mathlib.Algebra.Order.Floor.Div
import QueueProbe.Polling.Eventually

/-! Polling against any clock. No number of attempts is counted down: each sleep takes at least the
least delay off the time left, or all of it, so however late or early things are the attempts are no
more than the least delays in the budget, rounded up, and one. What a poll answers, and what is told
on the way, is said by the values and the readings of the clock alone. -/

namespace QueueProbe

namespace Span

@[simp] theorem nanos_add (a b : Span) : (a + b).nanos = a.nanos + b.nanos := rfl

@[simp] theorem nanos_sub (a b : Span) : (a - b).nanos = a.nanos - b.nanos := rfl

@[simp] theorem nanos_max (a b : Span) : (max a b).nanos = max a.nanos b.nanos := rfl

@[simp] theorem nanos_min (a b : Span) : (min a b).nanos = min a.nanos b.nanos := rfl

theorem le_iff {a b : Span} : a ≤ b ↔ a.nanos ≤ b.nanos := Iff.rfl

theorem lt_iff {a b : Span} : a < b ↔ a.nanos < b.nanos := Iff.rfl

theorem not_le {a b : Span} : ¬a ≤ b ↔ b < a := Nat.not_le

end Span

namespace RetryPolicy

/-- The sleep after attempt `n` when the clock shows `t`; no time at all once the budget is spent. -/
def sleep (p : RetryPolicy) (n : Nat) (t : Span) : Span := (p.nextDelay n t).getD .zero

variable {p : RetryPolicy} {n : Nat} {t : Span}

theorem nextDelay_of_lt (h : t < p.maxDuration) : p.nextDelay n t = some (p.sleep n t) := by
  unfold sleep nextDelay
  rw [if_neg (Span.not_le.2 h), Option.getD_some]

theorem nextDelay_of_le (h : p.maxDuration ≤ t) : p.nextDelay n t = none := if_pos h

theorem sleep_of_lt (h : t < p.maxDuration) :
    p.sleep n t = min (max (p.backoff.delay n) leastDelay) (p.maxDuration - t) := by
  unfold sleep nextDelay
  rw [if_neg (Span.not_le.2 h), Option.getD_some]

theorem sleep_le (h : t < p.maxDuration) : p.sleep n t ≤ p.maxDuration - t := by
  rw [sleep_of_lt h]
  exact Nat.min_le_right _ _

theorem le_sleep (h : t < p.maxDuration) : min leastDelay (p.maxDuration - t) ≤ p.sleep n t := by
  rw [sleep_of_lt h, Span.le_iff]
  simp only [Span.nanos_min, Span.nanos_max]
  omega

/-- What a clock may show after each attempt: it never goes back, and a sleep takes at least its
time. -/
def Allows (p : RetryPolicy) (time : Nat → Span) : Prop :=
  ∀ n, 0 < n → time n + p.sleep n (time n) ≤ time (n + 1)

theorem Allows.elapsed {time : Nat → Span} (h : p.Allows time)
    (left : ∀ i, 0 < i → i < n → time i < p.maxDuration) {k : Nat} (hk : k < n) :
    k * leastDelay.nanos ≤ (time (k + 1)).nanos ∨ p.maxDuration ≤ time (k + 1) := by
  induction k with
  | zero => exact Or.inl (by simp)
  | succ k ih =>
    have hlt := left (k + 1) (Nat.succ_pos k) hk
    have hleast := le_sleep (n := k + 1) hlt
    have hnext := h (k + 1) (Nat.succ_pos k)
    have hprev := (ih (by omega)).resolve_right (Span.not_le.2 hlt)
    simp only [Span.le_iff, Span.lt_iff, Span.nanos_add, Span.nanos_min, Span.nanos_sub] at *
    -- either the least delay went by, or the rest of the budget did
    rcases Nat.le_total leastDelay.nanos (p.maxDuration.nanos - (time (k + 1)).nanos) with hle | hle
    · left
      rw [Nat.min_eq_left hle] at hleast
      rw [Nat.succ_mul]
      omega
    · right
      rw [Nat.min_eq_right hle] at hleast
      omega

/-- If there was time left after all attempts but the last, they were no more than the budget has least
delays, as each of those before it took one. -/
theorem Allows.attempts_le {time : Nat → Span} (h : p.Allows time)
    (left : ∀ i, 0 < i → i < n → time i < p.maxDuration) :
    n ≤ p.maxDuration.nanos ⌈/⌉ leastDelay.nanos + 1 := by
  obtain hn | ⟨k, rfl⟩ : n ≤ 1 ∨ ∃ k, n = k + 2 := by
    rcases n with _ | _ | k
    · exact Or.inl (Nat.zero_le 1)
    · exact Or.inl le_rfl
    · exact Or.inr ⟨k, rfl⟩
  · exact hn.trans (Nat.le_add_left 1 _)
  · have hlt := left (k + 1) (Nat.succ_pos k) (by omega)
    have hel := (h.elapsed left (k := k) (by omega)).resolve_right (Span.not_le.2 hlt)
    have hk : k < p.maxDuration.nanos ⌈/⌉ leastDelay.nanos := by
      refine Nat.lt_of_not_le fun hc => ?_
      have hm := (ceilDiv_le_iff_le_mul (by decide : 0 < leastDelay.nanos)).1 hc
      rw [Span.lt_iff] at hlt
      rw [Nat.mul_comm] at hm
      omega
    omega

end RetryPolicy

namespace Clock

/-- What the clock shows after attempt `n`, if none before succeeds. -/
def shows (c : Clock) (p : RetryPolicy) : Nat → Span
  | 0 => .zero
  | 1 => c.late 1
  | n + 2 => c.shows p (n + 1) + p.sleep (n + 1) (c.shows p (n + 1)) + c.late (n + 2)

variable {p : RetryPolicy}

theorem shows_succ (c : Clock) (p : RetryPolicy) {n : Nat} (hn : 0 < n) :
    c.shows p (n + 1) = c.shows p n + p.sleep n (c.shows p n) + c.late (n + 1) := by
  obtain ⟨k, rfl⟩ := Nat.exists_eq_succ_of_ne_zero hn.ne'
  rfl

theorem allows (c : Clock) (p : RetryPolicy) : p.Allows (c.shows p) := by
  intro n hn
  rw [c.shows_succ p hn, Span.le_iff]
  simp only [Span.nanos_add]
  omega

/-- Whatever a clock may show, one of these clocks does. -/
theorem exists_shows {time : Nat → Span} (h : p.Allows time) (report : Span) :
    ∃ c : Clock, c.report = report ∧ ∀ n, 0 < n → c.shows p n = time n := by
  let late : Nat → Span := fun n =>
    time n - if n ≤ 1 then .zero else time (n - 1) + p.sleep (n - 1) (time (n - 1))
  refine ⟨⟨late, report⟩, rfl, fun n hn => ?_⟩
  induction n, hn using Nat.le_induction with
  | base => rfl
  | succ n hn ih =>
    rw [shows_succ _ p hn, ih]
    have hle := h n hn
    have hone : ¬n + 1 ≤ 1 := by omega
    simp only [late, hone, if_false, Nat.add_sub_cancel]
    rw [Span.le_iff] at hle
    exact congrArg Span.mk (Nat.add_sub_of_le hle)

end Clock

variable {α : Type} [Debug α]

/-- What is told of attempt `n`, when it fails and another follows. -/
def retrial (supplier : Nat → α) (m : Matcher α) (p : RetryPolicy) (time : Nat → Span) (n : Nat) :
    List PollEvent :=
  [.asserting (debug (supplier n)) m.describe, .retrying n (m.mismatch (supplier n)),
    .sleeping (p.sleep n (time n))]

/-- The error of a poll that gives up after attempt `n`, made when the clock shows `elapsed`. -/
def expiry (supplier : Nat → α) (m : Matcher α) (n : Nat) (elapsed : Span) : Timeout where
  expected := m.describe
  lastObserved := debug (supplier n)
  mismatch := m.mismatch (supplier n)
  attempts := n
  elapsed := elapsed

def ending (supplier : Nat → α) (m : Matcher α) (r : Poll α) : List PollEvent :=
  .asserting (debug (supplier r.calls)) m.describe ::
    match r.result with
    | .ok _ => []
    | .error t => [.gaveUp t]

/-- A poll from attempt `first` on: it fails and has time left until its last attempt, which succeeds
or has none left. -/
structure Stretch (supplier : Nat → α) (m : Matcher α) (p : RetryPolicy) (time : Nat → Span)
    (report : Span) (first : Nat) (r : Poll α) : Prop where
  first_le : first ≤ r.calls
  failed : ∀ n, first ≤ n → n < r.calls → m.accepts (supplier n) = false ∧ time n < p.maxDuration
  ended : (m.accepts (supplier r.calls) = true ∧ r.result = .ok (supplier r.calls)) ∨
    (m.accepts (supplier r.calls) = false ∧ p.maxDuration ≤ time r.calls ∧
      r.result = .error (expiry supplier m r.calls (time r.calls + report)))
  events : r.events = (List.range' first (r.calls - first)).flatMap (retrial supplier m p time) ++
    ending supplier m r

variable {supplier : Nat → α} {m : Matcher α} {p : RetryPolicy} {clock : Clock} {time : Nat → Span}
  {report : Span} {first : Nat} {r : Poll α}

theorem Stretch.retry (h : Stretch supplier m p time report (first + 1) r)
    (rejected : m.accepts (supplier first) = false) (left : time first < p.maxDuration) :
    Stretch supplier m p time report first (r.before (retrial supplier m p time first)) where
  first_le := Nat.le_of_succ_le h.first_le
  failed n hn hr := by
    rcases Nat.eq_or_lt_of_le hn with rfl | hn
    · exact ⟨rejected, left⟩
    · exact h.failed n hn hr
  ended := h.ended
  events := by
    have hle : first + 1 ≤ r.calls := h.first_le
    have hsub : r.calls - first = r.calls - (first + 1) + 1 := by omega
    simp only [Poll.before, h.events, hsub, List.range'_succ, List.flatMap_cons, List.append_assoc, ending]

/-- By the time left: polling makes stretches. -/
theorem pollFrom_stretch (first : Nat) (hf : 0 < first) :
    Stretch supplier m p (clock.shows p) clock.report first
      (pollFrom supplier m p clock first (clock.shows p first)) := by
  induction hleft : p.maxDuration.nanos - (clock.shows p first).nanos using Nat.strong_induction_on
    generalizing first with
  | _ left ih =>
    subst hleft
    unfold pollFrom
    dsimp only
    by_cases ha : m.accepts (supplier first) = true
    · rw [if_pos ha]
      exact ⟨le_rfl, fun n hn hr => absurd hr (Nat.not_lt.2 hn), Or.inl ⟨ha, rfl⟩, by simp [ending]⟩
    · rw [if_neg ha]
      have ha : m.accepts (supplier first) = false := by simpa using ha
      split
      · next d hd =>
        have hlt : clock.shows p first < p.maxDuration := by
          refine Span.not_le.1 fun hle => ?_
          rw [RetryPolicy.nextDelay_of_le hle] at hd
          cases hd
        obtain rfl : p.sleep first (clock.shows p first) = d := by
          simpa [RetryPolicy.nextDelay_of_lt hlt] using hd
        rw [← clock.shows_succ p hf]
        refine Stretch.retry (ih _ ?_ (first + 1) (Nat.succ_pos _) rfl) ha hlt
        rw [clock.shows_succ p hf]
        exact RetryPolicy.remaining_lt hd
      · next hd =>
        have hle : p.maxDuration ≤ clock.shows p first := by
          refine Decidable.not_not.1 fun hn => ?_
          rw [RetryPolicy.nextDelay_of_lt (Span.not_le.1 hn)] at hd
          cases hd
        exact ⟨le_rfl, fun n hn hr => absurd hr (Nat.not_lt.2 hn), Or.inr ⟨ha, hle, rfl⟩, by simp [ending]⟩

theorem eventually_still (v : α) (m : Matcher α) (p : RetryPolicy) (clock : Clock) :
    (eventually (fun _ => v) m p clock).result.toOption = if m.accepts v then some v else none := by
  have h : Stretch (fun _ => v) m p (clock.shows p) clock.report 1 (eventually (fun _ => v) m p clock) :=
    pollFrom_stretch 1 Nat.one_pos
  rcases h.ended with ⟨ha, hr⟩ | ⟨ha, -, hr⟩ <;> simp [hr, ha, Except.toOption]

/-- What a poll comes to, by the values it is supplied and what the clock shows after each attempt. -/
structure Polled (supplier : Nat → α) (m : Matcher α) (p : RetryPolicy) (time : Nat → Span)
    (report : Span) (r : Poll α) : Prop where
  asked : 0 < r.calls
  bounded : r.calls ≤ p.maxDuration.nanos ⌈/⌉ RetryPolicy.leastDelay.nanos + 1
  /-- It answers with the first of the values it asked for that passes, if one does. -/
  found : ∀ v, r.result = .ok v ↔ ∃ n, 0 < n ∧ n ≤ r.calls ∧ v = supplier n ∧
    m.accepts (supplier n) = true ∧ ∀ i, 0 < i → i < n → m.accepts (supplier i) = false
  /-- It gives up only when its time is up, with an error about the last value. -/
  expired : ∀ t, r.result = .error t → p.maxDuration ≤ time r.calls ∧ p.maxDuration ≤ t.elapsed ∧
    t = { expected := m.describe, lastObserved := debug (supplier r.calls)
          mismatch := m.mismatch (supplier r.calls), attempts := r.calls
          elapsed := time r.calls + report }
  retries : r.retries = (List.range' 1 (r.calls - 1)).map fun n => (n, m.mismatch (supplier n))
  /-- Each retry is told just before its sleep. -/
  events : r.events = (List.range' 1 (r.calls - 1)).flatMap (retrial supplier m p time) ++
    ending supplier m r
  sleeps : ∀ n, 0 < n → n < r.calls → time n < p.maxDuration ∧
    p.sleep n (time n) ≤ p.maxDuration - time n ∧
    min RetryPolicy.leastDelay (p.maxDuration - time n) ≤ p.sleep n (time n)

namespace Stretch

variable (h : Stretch supplier m p time report 1 r)

include h

theorem found (v : α) : r.result = .ok v ↔ ∃ n, 0 < n ∧ n ≤ r.calls ∧ v = supplier n ∧
    m.accepts (supplier n) = true ∧ ∀ i, 0 < i → i < n → m.accepts (supplier i) = false := by
  have last : ∀ n, 0 < n → n ≤ r.calls → m.accepts (supplier n) = true → n = r.calls := by
    intro n hn hle ha
    refine Nat.le_antisymm hle (Nat.le_of_not_lt fun hlt => ?_)
    rw [(h.failed n hn hlt).1] at ha
    cases ha
  rcases h.ended with ⟨ha, hr⟩ | ⟨ha, -, hr⟩
  · rw [hr]
    constructor
    · intro hv
      cases hv
      exact ⟨r.calls, h.first_le, le_rfl, rfl, ha, fun i hi hlt => (h.failed i hi hlt).1⟩
    · rintro ⟨n, hn, hle, rfl, hacc, -⟩
      rw [last n hn hle hacc]
  · rw [hr]
    constructor
    · intro hv
      cases hv
    · rintro ⟨n, hn, hle, -, hacc, -⟩
      rw [last n hn hle hacc, ha] at hacc
      cases hacc

theorem retries : r.retries = (List.range' 1 (r.calls - 1)).map fun n => (n, m.mismatch (supplier n)) := by
  have hone : ∀ n, (retrial supplier m p time n).filterMap PollEvent.retry? = [(n, m.mismatch (supplier n))] :=
    fun _ => rfl
  have hend : (ending supplier m r).filterMap PollEvent.retry? = [] := by
    unfold ending
    split <;> rfl
  rw [Poll.retries, h.events, List.filterMap_append, hend, List.append_nil, List.filterMap_flatMap,
    List.map_eq_flatMap]
  simp only [hone]

theorem polled (hc : p.Allows time) : Polled supplier m p time report r where
  asked := h.first_le
  bounded := hc.attempts_le fun n hn hlt => (h.failed n hn hlt).2
  found := h.found
  expired t ht := by
    rcases h.ended with ⟨-, hr⟩ | ⟨-, hle, hr⟩
    · rw [hr] at ht
      cases ht
    · rw [hr] at ht
      cases ht
      exact ⟨hle, Nat.le_trans hle (Nat.le_add_right _ _), rfl⟩
  retries := h.retries
  events := h.events
  sleeps n hn hlt :=
    have hleft := (h.failed n hn hlt).2
    ⟨hleft, RetryPolicy.sleep_le hleft, RetryPolicy.le_sleep hleft⟩

end Stretch

/-- Polling ends after a bounded number of attempts whatever the clock does, with the first value that
passes or else, when its time is up, with an error about the last one. The clocks are all there are:
anything a clock may show after the attempts, one of them does. -/
theorem eventually_polls (supplier : Nat → α) (m : Matcher α) (p : RetryPolicy) :
    (∀ clock, Polled supplier m p (clock.shows p) clock.report (eventually supplier m p clock)) ∧
    ∀ (time : Nat → Span) (report : Span),
      (∀ n, 0 < n → time n + p.sleep n (time n) ≤ time (n + 1)) →
      ∃ clock : Clock, clock.report = report ∧ ∀ n, 0 < n → clock.shows p n = time n :=
  ⟨fun clock => (pollFrom_stretch 1 Nat.one_pos).polled (clock.allows p),
    fun _ report h => Clock.exists_shows h report⟩

end QueueProbe
