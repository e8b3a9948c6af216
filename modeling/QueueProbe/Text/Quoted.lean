import QueueProbe.Text.Hidden

/-! Debug text: how a value is shown to whoever reads a failed assertion. Text is quoted and every
character that would not show as itself is escaped. -/

namespace QueueProbe

class Debug (α : Type) where
  debug : α → String

export Debug (debug)

namespace Text

def hexDigit (n : Nat) : Char := (Nat.toDigits 16 n).headD '0'

def escapeChar (c : Char) : List Char :=
  if c = '"' then ['\\', '"']
  else if c = '\\' then ['\\', '\\']
  else if c = '\n' then ['\\', 'n']
  else if c = '\r' then ['\\', 'r']
  else if c = '\t' then ['\\', 't']
  else if c.toNat = 0 then ['\\', '0']
  else if isHidden c then
    ['\\', 'u', '\x7b'] ++ Nat.toDigits 16 c.toNat ++ ['\x7d']
  else [c]

def quoted (s : String) : String :=
  String.ofList (['"'] ++ s.toList.flatMap escapeChar ++ ['"'])

def joined (pieces : List String) : String := ", ".intercalate pieces

def brackets (pieces : List String) : String := "[" ++ joined pieces ++ "]"

def braces (pieces : List String) : String := "\x7b" ++ joined pieces ++ "\x7d"

/-- A record: its name, then its fields, each with its text. -/
def record (name : String) (fields : List (String × String)) : String :=
  name ++ " \x7b " ++ joined (fields.map fun f => f.1 ++ ": " ++ f.2) ++ " \x7d"

def applied (name : String) (args : List String) : String := name ++ "(" ++ joined args ++ ")"

end Text

instance : Debug String := ⟨Text.quoted⟩
instance : Debug Bool := ⟨fun b => if b then "true" else "false"⟩
instance : Debug Nat := ⟨fun n => toString n⟩
instance : Debug Int := ⟨fun n => toString n⟩
instance : Debug Unit := ⟨fun _ => "()"⟩
instance {α : Type} [Debug α] : Debug (Option α) :=
  ⟨fun | none => "None" | some a => Text.applied "Some" [debug a]⟩
instance {α : Type} [Debug α] : Debug (List α) := ⟨fun as => Text.brackets (as.map debug)⟩

/-- A table shows its entries in the order it holds them. -/
def debugEntries {κ α : Type} [Debug κ] [Debug α] (entries : List (κ × α)) : String :=
  Text.braces (entries.map fun e => debug e.1 ++ ": " ++ debug e.2)

end QueueProbe
