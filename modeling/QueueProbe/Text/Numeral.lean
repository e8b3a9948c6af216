/-! Decimal whole numbers of a bounded width, read digit by digit: the first digit that is none, or
that carries the number out of its bounds, is what is wrong with the text. -/

namespace QueueProbe.Text

inductive NumeralFault where
  | empty
  | invalidDigit
  | tooLarge
  | tooSmall
deriving DecidableEq, Repr

def NumeralFault.text : NumeralFault → String
  | empty => "cannot parse integer from empty string"
  | invalidDigit => "invalid digit found in string"
  | tooLarge => "number too large to fit in target type"
  | tooSmall => "number too small to fit in target type"

def digitOf (c : Char) : Option Nat := if c.isDigit then some (c.toNat - 0x30) else none

def readUp (greatest : Int) : List Char → Int → Except NumeralFault Int
  | [], n => .ok n
  | c :: rest, n =>
    match digitOf c with
    | none => .error .invalidDigit
    | some d => if greatest < n * 10 + d then .error .tooLarge else readUp greatest rest (n * 10 + d)

def readDown (least : Int) : List Char → Int → Except NumeralFault Int
  | [], n => .ok n
  | c :: rest, n =>
    match digitOf c with
    | none => .error .invalidDigit
    | some d => if n * 10 - d < least then .error .tooSmall else readDown least rest (n * 10 - d)

/-- A whole number between two bounds, with a sign or without. -/
def readInt (least greatest : Int) (s : String) : Except NumeralFault Int :=
  match s.toList with
  | [] => .error .empty
  | ['+'] | ['-'] => .error .invalidDigit
  | '+' :: ds => readUp greatest ds 0
  | '-' :: ds => readDown least ds 0
  | ds => readUp greatest ds 0

end QueueProbe.Text
