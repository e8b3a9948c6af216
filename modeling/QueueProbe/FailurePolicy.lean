import QueueProbe.Text.Quoted

/-! What to do with a body that cannot be decoded or filed: put it back, or put it back until it was
delivered so many times and then give it up. -/

namespace QueueProbe

inductive FailurePolicy where
  | requeue
  | deadLetterAfter (deliveries : Nat)
deriving DecidableEq, Repr

namespace FailurePolicy

def keeps (p : FailurePolicy) (count : Nat) : Bool :=
  match p with
  | requeue => true
  | deadLetterAfter limit => count < limit

instance : Debug FailurePolicy where
  debug
    | requeue => "Requeue"
    | deadLetterAfter n => Text.applied "DeadLetterAfter" [debug n]

end FailurePolicy

end QueueProbe
