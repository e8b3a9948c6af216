/-! A lock whose holder may die. What it guards stays readable as it was left, but every later
taker is told that the lock is poisoned. -/

namespace QueueProbe

structure Lock (α : Type) where
  value : α
  poisoned : Bool := false
deriving DecidableEq, Repr

namespace Lock

variable {α β ε : Type}

def poisonText : String :=
  "Internal synchronisation error (mutex poisoned): a thread panicked while holding the lock"

/-- Takes the lock, or gives the caller's error made of the poison text. -/
def take (l : Lock α) (refuse : String → ε) : Except ε α :=
  if l.poisoned then .error (refuse poisonText) else .ok l.value

def poison (l : Lock α) : Lock α := { l with poisoned := true }

def put (l : Lock α) (a : α) : Lock α := { l with value := a }

def debug (inner : α → String) (l : Lock α) : String :=
  "Mutex \x7b data: " ++ inner l.value ++ ", poisoned: " ++ toString l.poisoned ++ ", .. \x7d"

end Lock
end QueueProbe
