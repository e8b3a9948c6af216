import QueueProbe.Failure
import QueueProbe.Journal.Level

/-! How an error is put into the log: one line for the user, two for whoever looks closer. -/

namespace QueueProbe

/-- Errors that may carry a part written for the user. -/
class Reportable (ε : Type) extends Failure ε where
  userMessage : ε → Option String

instance : Reportable QueueError := ⟨QueueError.userMessage⟩
instance : Reportable ConfigError := ⟨ConfigError.userMessage⟩

/-- Something the user can act on is named at once; of all else the user learns only that the
operation failed. -/
def reportError {ε : Type} [Reportable ε] (e : ε) (context : String) : List Note :=
  [ match Reportable.userMessage e with
    | some m => .error (context ++ ": " ++ m)
    | none => .error (context ++ " failed"),
    .debug ("DETAIL: " ++ Failure.message e),
    .debug ("DEBUG_DETAILS: " ++ debug e) ]

end QueueProbe
