import QueueProbe.Bench.Handling
import QueueProbe.Journal.Report

/-! A handler that is built when it is first asked for and shared from then on. A build that fails
is reported and tried again by whoever asks next. -/

namespace QueueProbe

structure Shared where
  built : Option Nat := none
  /-- How often the factory was run. -/
  runs : Nat := 0
deriving DecidableEq, Repr

namespace Shared

variable {K V : Type}

def isInitialised (s : Shared) : Bool := s.built.isSome

/-- The shared handler, built by `factory` unless an earlier request already had it built. -/
def get (s : Shared) (factory : Bench K V → Except QueueError Nat × Bench K V) (w : Bench K V) :
    Except QueueError Nat × Shared × Bench K V :=
  match s.built with
  | some n => (.ok n, s, w)
  | none =>
    match factory (w.note (.debug "building shared queue handler")) with
    | (.ok n, w') => (.ok n, ⟨some n, s.runs + 1⟩, w')
    | (.error e, w') =>
      (.error e, ⟨none, s.runs + 1⟩,
        { w' with journal := w'.journal ++ reportError e "building shared queue handler" })

instance : Debug Shared :=
  ⟨fun s => Text.record "SharedQueueHandler" [("initialised", debug s.isInitialised)]⟩

end Shared
end QueueProbe
