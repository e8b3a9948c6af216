import QueueProbe.Bench.Handling
import QueueProbe.Polling.Eventually

/-! Waiting for a handler to have received something. The store is read anew at every attempt, so
the bench may move on in between: `moments` is how it stands at each. -/

namespace QueueProbe.Handler

variable {K V : Type} [DecidableEq K] [Debug K] [Debug V]

def eventuallyMessage (h : Handler K V) (moments : Nat → Bench K V) (k : K)
    (m : Matcher (Option (Message V))) (clock : Clock) : Poll (Option (Message V)) :=
  eventually (fun n => ((moments n).storeOf h.consumer).get? k) m h.retry clock

def eventuallyReceived (h : Handler K V) (moments : Nat → Bench K V) (m : Matcher (Store K V))
    (clock : Clock) : Poll (Store K V) :=
  eventually (fun n => (moments n).storeOf h.consumer) m h.retry clock

end QueueProbe.Handler
