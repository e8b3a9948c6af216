/-! What a call comes to: a value, a named error, or a panic that unwinds through its callers. -/

namespace QueueProbe

/-- A panic carries a text, or a payload that has none. -/
inductive Panic where
  | message (text : String)
  | wordless
deriving DecidableEq, Repr

def Panic.text : Panic → String
  | .message text => text
  | .wordless => "non-string panic payload"

inductive Outcome (ε α : Type) where
  | ok (value : α)
  | error (cause : ε)
  | panic (cause : Panic)
deriving DecidableEq, Repr

namespace Outcome

variable {ε δ α β : Type}

def map (f : α → β) : Outcome ε α → Outcome ε β
  | ok a => ok (f a)
  | error e => error e
  | panic p => panic p

def mapError (f : ε → δ) : Outcome ε α → Outcome δ α
  | ok a => ok a
  | error e => error (f e)
  | panic p => panic p

def bind (x : Outcome ε α) (f : α → Outcome ε β) : Outcome ε β :=
  match x with
  | ok a => f a
  | error e => error e
  | panic p => panic p

def ofExcept : Except ε α → Outcome ε α
  | .ok a => ok a
  | .error e => error e

/-- A panic held back at a boundary becomes an error of the caller's choosing. -/
def contain (f : Panic → ε) : Outcome ε α → Except ε α
  | ok a => .ok a
  | error e => .error e
  | panic p => .error (f p)

end Outcome
end QueueProbe
