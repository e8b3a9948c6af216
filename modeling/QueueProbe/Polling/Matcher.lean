import QueueProbe.Text.Quoted

/-! What an observed value is held against: a test, a description of what is expected, and words for
a value that fails it. -/

namespace QueueProbe

structure Matcher (α : Type) where
  accepts : α → Bool
  describe : String
  mismatch : α → String

namespace Matcher

variable {α : Type}

def was [Debug α] (a : α) : String := "was " ++ debug a

def equalTo [Debug α] (same : α → α → Bool) (expected : α) : Matcher α :=
  ⟨fun a => same a expected, "equal to " ++ debug expected, was⟩

def present [Debug α] : Matcher (Option α) := ⟨Option.isSome, "present", was⟩

/-- Present, and the value inside passes too. -/
def presentAnd [Debug α] (inner : Matcher α) : Matcher (Option α) where
  accepts a := a.any inner.accepts
  describe := "present and " ++ inner.describe
  mismatch
    | none => "was absent"
    | some a => was (some a)

def hasLength (length : α → Nat) (expected : Nat) : Matcher α :=
  ⟨fun a => length a == expected, "with length " ++ toString expected,
    fun a => "had length " ++ toString (length a)⟩

def satisfies [Debug α] (description : String) (test : α → Bool) : Matcher α :=
  ⟨test, description, was⟩

end Matcher
end QueueProbe
