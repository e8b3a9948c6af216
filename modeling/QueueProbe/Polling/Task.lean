import QueueProbe.Polling.Eventually

/-! Polling as a task that never blocks its thread: each turn takes one value and says whether the
task is finished or for how long it sleeps. It leaves no trace of single attempts. -/

namespace QueueProbe

inductive Turn (α : Type) where
  | asleep (d : Span)
  | finished (result : Except Timeout α)

variable {α : Type} [Debug α]

/-- A turn on the value of an attempt, and what is told of it. -/
def turn (m : Matcher α) (p : RetryPolicy) (attempt : Nat) (a : α) (elapsed reported : Span) :
    Turn α × List PollEvent :=
  if m.accepts a then (.finished (.ok a), [])
  else
    match p.nextDelay attempt elapsed with
    | some d => (.asleep d, [.retrying attempt (m.mismatch a), .sleeping d])
    | none =>
      let t : Timeout := ⟨m.describe, debug a, m.mismatch a, attempt, reported⟩
      (.finished (.error t), [.gaveUp t])

theorem nextDelay_of_asleep {m : Matcher α} {p : RetryPolicy} {attempt : Nat} {a : α}
    {elapsed reported d : Span} {told : List PollEvent}
    (h : turn m p attempt a elapsed reported = (.asleep d, told)) :
    p.nextDelay attempt elapsed = some d := by
  unfold turn at h
  split at h
  · simp at h
  · split at h
    · rename_i heq
      simp only [Prod.mk.injEq, Turn.asleep.injEq] at h
      rw [heq, h.1]
    · simp at h

/-- Turn after turn, each on the value of its attempt. -/
def turns (supplier : Nat → α) (m : Matcher α) (p : RetryPolicy) (clock : Clock)
    (attempt : Nat) (elapsed : Span) : Poll α :=
  match _h : turn m p attempt (supplier attempt) elapsed (elapsed + clock.report) with
  | (.finished result, told) => ⟨result, attempt, told⟩
  | (.asleep d, told) =>
    (turns supplier m p clock (attempt + 1) (elapsed + d + clock.late (attempt + 1))).before told
termination_by p.maxDuration.nanos - elapsed.nanos
decreasing_by exact RetryPolicy.remaining_lt (nextDelay_of_asleep _h)

def eventuallyAsync (supplier : Nat → α) (m : Matcher α) (p : RetryPolicy) (clock : Clock) :
    Poll α :=
  turns supplier m p clock 1 (clock.late 1)

end QueueProbe
