import QueueProbe.Message

/-! The messages a consumer has received, by key. The last message of a key is kept; what was read
out before stays as it was. -/

namespace QueueProbe

structure Store (K V : Type) where
  messages : Table K (Message V) := []
deriving Repr

namespace Store

variable {K V : Type} [DecidableEq K]

def put (s : Store K V) (k : K) (m : Message V) : Store K V := ⟨s.messages.set k m⟩

def get? (s : Store K V) (k : K) : Option (Message V) := s.messages.get? k

def contains (s : Store K V) (k : K) : Bool := s.messages.has k

def size (s : Store K V) : Nat := s.messages.length

def keys (s : Store K V) : List K := s.messages.keys

@[simp] theorem get?_put_self (s : Store K V) (k : K) (m : Message V) :
    (s.put k m).get? k = some m := Table.get?_set_self k m s.messages

theorem get?_put_ne {k l : K} (h : l ≠ k) (s : Store K V) (m : Message V) :
    (s.put k m).get? l = s.get? l := Table.get?_set_ne h m s.messages

/-- A snapshot shows every message it holds. -/
instance [Debug K] [Debug V] : Debug (Store K V) := ⟨fun s => debugEntries s.messages⟩

/-- The store itself shows only how much it holds. -/
def debugText (s : Store K V) : String := Text.record "KeyedMessageStore" [("len", debug s.size)]

end Store
end QueueProbe
