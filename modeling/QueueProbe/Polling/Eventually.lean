import QueueProbe.Polling.Timeout

/-! Polling in the calling thread: ask the supplier, test, and sleep between attempts until the
value passes or the time is up. Every sleep takes time, so the time left bounds the loop. -/

namespace QueueProbe

variable {α : Type} [Debug α]

theorem RetryPolicy.remaining_lt {p : RetryPolicy} {attempt : Nat} {elapsed d late : Span}
    (h : p.nextDelay attempt elapsed = some d) :
    p.maxDuration.nanos - (elapsed + d + late).nanos < p.maxDuration.nanos - elapsed.nanos := by
  unfold RetryPolicy.nextDelay at h
  split at h
  · simp at h
  · rename_i hlt
    have hlt : elapsed.nanos < p.maxDuration.nanos := Nat.lt_of_not_le hlt
    have hd : d.nanos = Nat.min (Nat.max (p.backoff.delay attempt).nanos 1000000)
        (p.maxDuration.nanos - elapsed.nanos) := by
      rw [← Option.some.inj h]; rfl
    have h1 : 1000000 ≤ Nat.max (p.backoff.delay attempt).nanos 1000000 := Nat.le_max_right _ _
    have hsum : (elapsed + d + late).nanos = elapsed.nanos + d.nanos + late.nanos := rfl
    have h0 : 0 < d.nanos := by rw [hd]; exact Nat.lt_min.2 ⟨by omega, by omega⟩
    omega

/-- Attempt number `attempt`, with the clock at `elapsed` after it. -/
def pollFrom (supplier : Nat → α) (m : Matcher α) (p : RetryPolicy) (clock : Clock)
    (attempt : Nat) (elapsed : Span) : Poll α :=
  let value := supplier attempt
  let asserted := PollEvent.asserting (debug value) m.describe
  if m.accepts value then ⟨.ok value, attempt, [asserted]⟩
  else
    let mismatch := m.mismatch value
    match _h : p.nextDelay attempt elapsed with
    | some d =>
      (pollFrom supplier m p clock (attempt + 1) (elapsed + d + clock.late (attempt + 1))).before
        [asserted, .retrying attempt mismatch, .sleeping d]
    | none =>
      let t : Timeout := ⟨m.describe, debug value, mismatch, attempt, elapsed + clock.report⟩
      ⟨.error t, attempt, [asserted, .gaveUp t]⟩
termination_by p.maxDuration.nanos - elapsed.nanos
decreasing_by exact RetryPolicy.remaining_lt _h

/-- Polls a supplier, whose `n`-th value answers the `n`-th attempt. -/
def eventually (supplier : Nat → α) (m : Matcher α) (p : RetryPolicy) (clock : Clock) : Poll α :=
  pollFrom supplier m p clock 1 (clock.late 1)

def eventuallyThat (supplier : Nat → α) (description : String) (test : α → Bool) (p : RetryPolicy)
    (clock : Clock) : Poll α :=
  eventually supplier (.satisfies description test) p clock

end QueueProbe
