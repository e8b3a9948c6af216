import QueueProbe.Polling.Task
import QueueProbe.Proofs.Polling.Attempts

/-! Polling in the calling thread and polling as a task. The loops are written apart, but whatever the clock
shows, an attempt comes to the same in both: the same answer or the same sleep. The task only keeps no trace
of what it asserts. So the two stay together attempt by attempt, and do so even where the clock would let
neither end. -/

namespace QueueProbe

namespace PollEvent

def isTrace : PollEvent → Bool
  | asserting _ _ => true
  | retrying _ _ | sleeping _ | gaveUp _ => false

def sleep? : PollEvent → Option Span
  | sleeping d => some d
  | asserting _ _ | retrying _ _ | gaveUp _ => none

def untraced (events : List PollEvent) : List PollEvent := events.filter fun e => !e.isTrace

theorem untraced_append (as bs : List PollEvent) : untraced (as ++ bs) = untraced as ++ untraced bs :=
  List.filter_append ..

theorem filterMap_untraced {β : Type} (f : PollEvent → Option β) (blind : ∀ e, e.isTrace = true → f e = none)
    (events : List PollEvent) : (untraced events).filterMap f = events.filterMap f := by
  induction events with
  | nil => rfl
  | cons e rest ih =>
    cases he : e.isTrace with
    | true =>
      rw [List.filterMap_cons, blind e he, ← ih]
      simp [untraced, he]
    | false =>
      rw [List.filterMap_cons, ← ih]
      simp [untraced, he, List.filterMap_cons]

end PollEvent

variable {α : Type}

namespace Poll

def sleeps (r : Poll α) : List Span := r.events.filterMap PollEvent.sleep?

def failures (r : Poll α) (observer : Option Observer) (time : Span → String) : List Note :=
  (r.notes observer time).filter (·.level = .error)

def quiet (r : Poll α) : Poll α := { r with events := PollEvent.untraced r.events }

/-- All is the same but the trace: `r'` has none. -/
structure Agree (r r' : Poll α) : Prop where
  result : r'.result = r.result
  calls : r'.calls = r.calls
  retries : r'.retries = r.retries
  sleeps : r'.sleeps = r.sleeps
  failures : r'.failures = r.failures
  events : r'.events = r.events.filter fun e => !e.isTrace

theorem agree_quiet (r : Poll α) : Agree r r.quiet where
  result := rfl
  calls := rfl
  retries := PollEvent.filterMap_untraced _ (fun e he => by cases e <;> simp_all [PollEvent.isTrace, PollEvent.retry?]) _
  sleeps := PollEvent.filterMap_untraced _ (fun e he => by cases e <;> simp_all [PollEvent.isTrace, PollEvent.sleep?]) _
  failures := by
    funext observer time
    simp only [failures, notes, List.filter_filterMap]
    exact PollEvent.filterMap_untraced _ (fun e he => by
      cases e <;> simp_all [PollEvent.isTrace, PollEvent.note?, Note.trace, Option.filter]) _
  events := rfl

end Poll

/-- A poll that may still go on. -/
structure Progress (α : Type) where
  result : Option (Except Timeout α) := none
  /-- How often the supplier was asked. -/
  calls : Nat := 0
  events : List PollEvent := []

namespace Progress

def next (body : Nat → Turn α × List PollEvent) (s : Progress α) : Progress α :=
  match s.result, body (s.calls + 1) with
  | some _, _ => s
  | none, (.finished result, told) => ⟨some result, s.calls + 1, s.events ++ told⟩
  | none, (.asleep _, told) => ⟨none, s.calls + 1, s.events ++ told⟩

/-- How far a loop is after `k` attempts, or when it ended before. -/
def after (body : Nat → Turn α × List PollEvent) : Nat → Progress α
  | 0 => {}
  | k + 1 => (after body k).next body

def quiet (s : Progress α) : Progress α := { s with events := PollEvent.untraced s.events }

/-- Loops whose attempts are the same but for the trace are as far as each other. -/
theorem after_quiet {body quieter : Nat → Turn α × List PollEvent}
    (h : ∀ n, quieter n = ((body n).1, PollEvent.untraced (body n).2)) (k : Nat) :
    after quieter k = (after body k).quiet := by
  induction k with
  | zero => rfl
  | succ k ih =>
    rw [after, after, ih]
    generalize after body k = s
    obtain ⟨result, calls, events⟩ := s
    cases result with
    | some result => rfl
    | none =>
      simp only [next, quiet, h]
      obtain ⟨t, told⟩ := body (calls + 1)
      cases t <;> simp only [PollEvent.untraced_append]

end Progress

variable [Debug α]

/-- What an attempt of the blocking loop comes to, and what is told of it. -/
def attempt (m : Matcher α) (p : RetryPolicy) (n : Nat) (a : α) (elapsed reported : Span) :
    Turn α × List PollEvent :=
  let asserted := PollEvent.asserting (debug a) m.describe
  if m.accepts a then (.finished (.ok a), [asserted])
  else
    match p.nextDelay n elapsed with
    | some d => (.asleep d, [asserted, .retrying n (m.mismatch a), .sleeping d])
    | none =>
      let t : Timeout := ⟨m.describe, debug a, m.mismatch a, n, reported⟩
      (.finished (.error t), [asserted, .gaveUp t])

/-- A turn of the task is an attempt without its trace. -/
theorem turn_eq (m : Matcher α) (p : RetryPolicy) (n : Nat) (a : α) (elapsed reported : Span) :
    turn m p n a elapsed reported =
      ((attempt m p n a elapsed reported).1, PollEvent.untraced (attempt m p n a elapsed reported).2) := by
  unfold turn attempt
  by_cases ha : m.accepts a = true
  · simp [ha, PollEvent.untraced, PollEvent.isTrace]
  · simp only [ha]
    cases p.nextDelay n elapsed <;> simp [PollEvent.untraced, PollEvent.isTrace]

variable {supplier : Nat → α} {m : Matcher α} {p : RetryPolicy} {clock : Clock}

theorem pollFrom_eq (supplier : Nat → α) (m : Matcher α) (p : RetryPolicy) (clock : Clock) (n : Nat)
    (elapsed : Span) : pollFrom supplier m p clock n elapsed =
      match attempt m p n (supplier n) elapsed (elapsed + clock.report) with
      | (.finished result, told) => ⟨result, n, told⟩
      | (.asleep d, told) =>
        (pollFrom supplier m p clock (n + 1) (elapsed + d + clock.late (n + 1))).before told := by
  conv_lhs => unfold pollFrom
  unfold attempt
  dsimp only
  by_cases ha : m.accepts (supplier n) = true
  · rw [if_pos ha, if_pos ha]
  · rw [if_neg ha, if_neg ha]
    split <;> rename_i h <;> rw [h]

theorem turns_eq (n : Nat) (elapsed : Span) :
    turns supplier m p clock n elapsed = (pollFrom supplier m p clock n elapsed).quiet := by
  induction hleft : p.maxDuration.nanos - elapsed.nanos using Nat.strong_induction_on
    generalizing n elapsed with
  | _ left ih =>
    subst hleft
    unfold turns
    rw [pollFrom_eq]
    split
    · next result told h =>
      rw [turn_eq] at h
      generalize attempt m p n (supplier n) elapsed (elapsed + clock.report) = a at h ⊢
      obtain ⟨t, traced⟩ := a
      cases h
      rfl
    · next d told h =>
      have less : p.maxDuration.nanos - (elapsed + d + clock.late (n + 1)).nanos <
          p.maxDuration.nanos - elapsed.nanos := RetryPolicy.remaining_lt (nextDelay_of_asleep h)
      rw [ih _ less (n + 1) _ rfl]
      rw [turn_eq] at h
      generalize attempt m p n (supplier n) elapsed (elapsed + clock.report) = a at h ⊢
      obtain ⟨t, traced⟩ := a
      cases h
      simp only [Poll.before, Poll.quiet, PollEvent.untraced_append]

/-- The attempts of the blocking loop, with what the clock is read as after each of them, and once more if
the error is made then. -/
def blocking (supplier : Nat → α) (m : Matcher α) (p : RetryPolicy) (elapsed reported : Nat → Span)
    (n : Nat) : Turn α × List PollEvent := attempt m p n (supplier n) (elapsed n) (reported n)

def tasking (supplier : Nat → α) (m : Matcher α) (p : RetryPolicy) (elapsed reported : Nat → Span)
    (n : Nat) : Turn α × List PollEvent := turn m p n (supplier n) (elapsed n) (reported n)

section Loops

variable {time : Nat → Span} {report : Span} {r : Poll α}

theorem Stretch.going (h : Stretch supplier m p time report 1 r) {k : Nat} (hk : k < r.calls) :
    Progress.after (blocking supplier m p time fun n => time n + report) k =
      ⟨none, k, (List.range' 1 k).flatMap (retrial supplier m p time)⟩ := by
  induction k with
  | zero => rfl
  | succ k ih =>
    obtain ⟨rejected, left⟩ := h.failed (k + 1) (Nat.le_add_left 1 k) hk
    rw [Progress.after, ih (by omega), List.range'_concat, List.flatMap_append]
    simp [Progress.next, blocking, attempt, rejected, RetryPolicy.nextDelay_of_lt left, retrial, Nat.add_comm]

theorem Stretch.finished (h : Stretch supplier m p time report 1 r) :
    Progress.after (blocking supplier m p time fun n => time n + report) r.calls =
      ⟨some r.result, r.calls, r.events⟩ := by
  obtain ⟨k, hk⟩ : ∃ k, r.calls = k + 1 := ⟨r.calls - 1, (Nat.sub_add_cancel h.first_le).symm⟩
  have last : blocking supplier m p time (fun n => time n + report) r.calls =
      (.finished r.result, ending supplier m r) := by
    rcases h.ended with ⟨accepted, hr⟩ | ⟨rejected, spent, hr⟩
    · simp [blocking, attempt, accepted, ending, hr]
    · simp [blocking, attempt, rejected, RetryPolicy.nextDelay_of_le spent, ending, hr, expiry]
  rw [hk] at last
  rw [h.events, hk, Progress.after, h.going (by omega)]
  simp only [Progress.next, last, Nat.add_sub_cancel]

end Loops

/-- The three ways to poll agree. On every clock they have the same result after the same number of calls,
tell the observer the same, ask for the same sleeps and log the same failure, all in the same order; only the
trace of single attempts is missing from the task. It is the same for whatever the clock is read as, be it
that neither ends: after each number of attempts the two are as far as each other. -/
theorem flavours_agree (supplier : Nat → α) (m : Matcher α) (p : RetryPolicy) :
    (∀ clock, Poll.Agree (eventually supplier m p clock) (eventuallyAsync supplier m p clock)) ∧
    (∀ description test clock,
      eventuallyThat supplier description test p clock =
        eventually supplier (.satisfies description test) p clock ∧
      Poll.Agree (eventuallyThat supplier description test p clock)
        (eventuallyAsync supplier (.satisfies description test) p clock)) ∧
    (∀ elapsed reported k, Progress.after (tasking supplier m p elapsed reported) k =
      (Progress.after (blocking supplier m p elapsed reported) k).quiet) ∧
    ∀ clock : Clock,
      let elapsed := clock.shows p
      let reported := fun n => clock.shows p n + clock.report
      let r := eventually supplier m p clock
      let r' := eventuallyAsync supplier m p clock
      Progress.after (blocking supplier m p elapsed reported) r.calls = ⟨some r.result, r.calls, r.events⟩ ∧
      Progress.after (tasking supplier m p elapsed reported) r'.calls = ⟨some r'.result, r'.calls, r'.events⟩ := by
  have agree : ∀ (m : Matcher α) (clock : Clock),
      eventuallyAsync supplier m p clock = (eventually supplier m p clock).quiet := fun _ _ => turns_eq 1 _
  have together : ∀ elapsed reported k, Progress.after (tasking supplier m p elapsed reported) k =
      (Progress.after (blocking supplier m p elapsed reported) k).quiet := fun elapsed reported k =>
    Progress.after_quiet (fun n => turn_eq m p n (supplier n) (elapsed n) (reported n)) k
  refine ⟨fun clock => ?_, fun description test clock => ⟨rfl, ?_⟩, together, fun clock => ?_⟩
  · rw [agree]
    exact Poll.agree_quiet _
  · rw [agree]
    exact Poll.agree_quiet _
  · have whole : Stretch supplier m p (clock.shows p) clock.report 1 (eventually supplier m p clock) :=
      pollFrom_stretch 1 Nat.one_pos
    have finished := whole.finished
    refine ⟨finished, ?_⟩
    rw [together, agree]
    exact congrArg Progress.quiet finished

end QueueProbe
