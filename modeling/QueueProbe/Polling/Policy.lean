import QueueProbe.Polling.Backoff

/-! How long to keep trying, how long to wait in between, and who is told. -/

namespace QueueProbe

/-- Who is told of a retry: the log, or a function of the caller's. -/
inductive Observer where
  | log
  | caller
deriving DecidableEq, Repr

structure RetryPolicy where
  maxDuration : Span := .of 10 0
  backoff : Backoff := .fixed (.millis 250)
  observer : Option Observer := some .log

namespace RetryPolicy

def make (maxDuration : Span) (backoff : Backoff) : RetryPolicy := ⟨maxDuration, backoff, none⟩

def fixed (maxDuration delay : Span) : RetryPolicy := make maxDuration (.fixed delay)

def withMaxDuration (p : RetryPolicy) (d : Span) : RetryPolicy := { p with maxDuration := d }

def withBackoff (p : RetryPolicy) (b : Backoff) : RetryPolicy := { p with backoff := b }

def withDelay (p : RetryPolicy) (d : Span) : RetryPolicy := p.withBackoff (.fixed d)

def observed (p : RetryPolicy) : RetryPolicy := { p with observer := some .caller }

def unobserved (p : RetryPolicy) : RetryPolicy := { p with observer := none }

/-- No sleep is shorter, unless less than this is left. -/
def leastDelay : Span := .millis 1

/-- The sleep after a failed attempt, never longer than what is left; none if nothing is. -/
def nextDelay (p : RetryPolicy) (attempt : Nat) (elapsed : Span) : Option Span :=
  if p.maxDuration ≤ elapsed then none
  else some (min (max (p.backoff.delay attempt) leastDelay) (p.maxDuration - elapsed))

instance : Debug RetryPolicy where
  debug p := Text.record "RetryPolicy" [("max_duration", debug p.maxDuration),
    ("backoff", debug p.backoff), ("on_retry", debug p.observer.isSome)]

end RetryPolicy
end QueueProbe
