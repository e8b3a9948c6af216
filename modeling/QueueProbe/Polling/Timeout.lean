import QueueProbe.Journal.Level
import QueueProbe.Polling.Matcher
import QueueProbe.Polling.Policy

/-! Polling, seen from outside: the error of a poll that ran out of time, the events on the way, and
the clock it runs by. -/

namespace QueueProbe

structure Timeout where
  expected : String
  lastObserved : String
  mismatch : String
  attempts : Nat
  elapsed : Span
deriving DecidableEq, Repr

namespace Timeout

/-- `time` is the text that stands for the elapsed time. -/
def messageWith (time : String) (t : Timeout) : String :=
  "expected " ++ t.expected ++ " but " ++ t.mismatch ++ " after " ++ toString t.attempts ++
    " attempts in " ++ time ++ "; last observed value: " ++ t.lastObserved

def message (t : Timeout) : String := t.messageWith t.elapsed.text

instance : Debug Timeout where
  debug t := Text.record "TimeoutAssertionError" [("expected", debug t.expected),
    ("last_observed", debug t.lastObserved), ("mismatch", debug t.mismatch),
    ("attempts", debug t.attempts), ("elapsed", debug t.elapsed)]

end Timeout

/-- What happens in a poll, in order. -/
inductive PollEvent where
  | asserting (value expectation : String)
  | retrying (attempt : Nat) (mismatch : String)
  | sleeping (d : Span)
  | gaveUp (t : Timeout)
deriving DecidableEq, Repr

namespace PollEvent

/-- What the log shows of an event. A retry is shown only if the log is the observer; `time` writes
the elapsed time of a poll that gave up. -/
def note? (observer : Option Observer) (time : Span → String) : PollEvent → Option Note
  | asserting value expectation =>
    some (.trace ("asserting value " ++ value ++ " against " ++ expectation))
  | retrying attempt mismatch =>
    if observer = some .log then
      some (.trace ("attempt " ++ toString attempt ++ " failed, retrying: " ++ mismatch))
    else none
  | sleeping _ => none
  | gaveUp t => some (.error ("eventually got " ++ t.messageWith (time t.elapsed)))

/-- What an observer is told. -/
def retry? : PollEvent → Option (Nat × String)
  | retrying attempt mismatch => some (attempt, mismatch)
  | _ => none

end PollEvent

/-- How late things are: after the `n`-th attempt the clock shows the sleeps so far and `late n`
more for every attempt up to it, and `report` more when the error is made. Every clock on which a
sleep takes at least its time is one of these. -/
structure Clock where
  late : Nat → Span
  report : Span

/-- Nothing but sleeping takes time. -/
def Clock.ideal : Clock := ⟨fun _ => .zero, .zero⟩

structure Poll (α : Type) where
  result : Except Timeout α
  /-- How often the supplier was asked. -/
  calls : Nat
  events : List PollEvent

namespace Poll

variable {α : Type}

def retries (p : Poll α) : List (Nat × String) := p.events.filterMap PollEvent.retry?

def notes (p : Poll α) (observer : Option Observer) (time : Span → String) : List Note :=
  p.events.filterMap (PollEvent.note? observer time)

def before (events : List PollEvent) (p : Poll α) : Poll α := { p with events := events ++ p.events }

end Poll
end QueueProbe
