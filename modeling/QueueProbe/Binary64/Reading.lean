import QueueProbe.Binary64.Decimal
import QueueProbe.Text.Blank
import QueueProbe.Text.Numeral

/-! Numbers read from text: a sign, digits with a point among them and an exponent, or a name. The
number nearest to what is written is taken, which is infinite if that is too great. -/

namespace QueueProbe.Binary64

/-- A sign in front, and what follows it; true for minus. -/
def splitSign : List Char → Bool × List Char
  | '-' :: rest => (true, rest)
  | '+' :: rest => (false, rest)
  | cs => (false, cs)

def digitsValue (cs : List Char) : Option Nat :=
  (cs.mapM Text.digitOf).map fun ds => ds.foldl (fun n d => n * 10 + d) 0

def exponentValue (cs : List Char) : Option Int :=
  let s := splitSign cs
  if s.2 = [] then none
  else (digitsValue s.2).map fun (n : Nat) => if s.1 then -(n : Int) else n

def decimal? (cs : List Char) : Option Decimal := do
  let mantissa := cs.takeWhile fun c => c ≠ 'e' && c ≠ 'E'
  let exponent ← match cs.drop mantissa.length with
    | [] => some 0
    | _ :: rest => exponentValue rest
  let whole := mantissa.takeWhile (· ≠ '.')
  let fraction := (mantissa.drop whole.length).drop 1
  if whole = [] ∧ fraction = [] then none
  else return ⟨← digitsValue (whole ++ fraction), exponent - fraction.length⟩

/-- Names count in any case. -/
def ofText? (s : String) : Option Binary64 :=
  let t := splitSign (Text.lowerAscii s).toList
  if t.2 = "nan".toList then some nan
  else if t.2 = "inf".toList ∨ t.2 = "infinity".toList then some (infinite t.1)
  else (decimal? t.2).map (ofDecimal t.1)

end QueueProbe.Binary64
