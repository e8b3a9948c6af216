import QueueProbe.Span

/-! How long to wait before the next attempt, as a function of the attempts made. -/

namespace QueueProbe

inductive Backoff where
  | fixed (delay : Span)
  | exponential (initial : Span) (multiplier : Binary64) (cap : Span)
  | custom (schedule : Nat → Span)

namespace Backoff

/-- The powers a delay can grow by stop here. -/
def greatestPower : Nat := 0x7fffffff

/-- The grown delay in seconds, before the cap: a factor below one, or none, counts as one. -/
def grown (initial : Span) (multiplier : Binary64) (attempt : Nat) : Binary64 :=
  let factor := (multiplier.max .one).pow (min (attempt - 1) greatestPower)
  initial.toSeconds.mul factor

/-- A grown delay that is no number, or reaches the cap, becomes the cap; below it there is always
a span to round to. -/
def delay : Backoff → Nat → Span
  | fixed d, _ => d
  | exponential initial multiplier cap, attempt =>
    let s := grown initial multiplier attempt
    if !s.isFinite || s.ge cap.toSeconds then cap else (Span.ofSeconds? s).getD cap
  | custom schedule, attempt => schedule attempt

instance : Debug Backoff where
  debug
    | fixed d => Text.applied "Fixed" [debug d]
    | exponential initial multiplier cap => Text.record "Exponential"
      [("initial", debug initial), ("multiplier", debug multiplier), ("max", debug cap)]
    | custom _ => "Custom(..)"

end Backoff
end QueueProbe
