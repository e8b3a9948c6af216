import QueueProbe.Binary64.Decimal

/-! Lengths of time, in whole nanoseconds. A span that is handed out holds less than `2 ^ 64`
seconds; sums on the way may hold more. -/

namespace QueueProbe

structure Span where
  nanos : Nat
deriving DecidableEq, Repr

namespace Span

def perSecond : Nat := 1000000000

def zero : Span := ⟨0⟩

def of (seconds nanos : Nat) : Span := ⟨seconds * perSecond + nanos⟩

def millis (n : Nat) : Span := ⟨n * 1000000⟩

def seconds (d : Span) : Nat := d.nanos / perSecond

def subsecond (d : Span) : Nat := d.nanos % perSecond

def le (a b : Span) : Bool := a.nanos ≤ b.nanos

instance : LE Span := ⟨fun a b => a.nanos ≤ b.nanos⟩
instance : LT Span := ⟨fun a b => a.nanos < b.nanos⟩
instance (a b : Span) : Decidable (a ≤ b) := inferInstanceAs (Decidable (a.nanos ≤ b.nanos))
instance (a b : Span) : Decidable (a < b) := inferInstanceAs (Decidable (a.nanos < b.nanos))
instance : Add Span := ⟨fun a b => ⟨a.nanos + b.nanos⟩⟩
instance : Sub Span := ⟨fun a b => ⟨a.nanos - b.nanos⟩⟩
instance : Max Span := ⟨fun a b => ⟨Nat.max a.nanos b.nanos⟩⟩
instance : Min Span := ⟨fun a b => ⟨Nat.min a.nanos b.nanos⟩⟩

/-- Seconds as a number: the whole ones plus the rest over a billion, each step rounded. -/
def toSeconds (d : Span) : Binary64 :=
  (Binary64.ofNat d.seconds).add ((Binary64.ofNat d.subsecond).div (Binary64.ofNat perSecond))

/-- What no span can hold. -/
def limit : Nat := 0x10000000000000000 * perSecond

/-- The span nearest to a number of seconds, ties to an even count of nanoseconds; none if the
number is negative, no number or too great. -/
def ofSeconds? : Binary64 → Option Span
  | .finite negative m e =>
    if negative && m ≠ 0 then none
    else
      let r := Binary64.scale (m * perSecond) 1 e
      let n := Binary64.roundHalfEven r.1 r.2
      if n < limit then some ⟨n⟩ else none
  | _ => none

/-- A fraction of `places` digits without the zeros at its end. -/
def fraction (n places : Nat) : List Char :=
  let ds := Nat.toDigits 10 n
  let padded := List.replicate (places - ds.length) '0' ++ ds
  match (padded.reverse.dropWhile (· = '0')).reverse with
  | [] => []
  | rest => '.' :: rest

/-- In the greatest unit of which there is one. -/
def text (d : Span) : String :=
  let show2 (whole rest places : Nat) (unit : String) :=
    toString whole ++ String.ofList (fraction rest places) ++ unit
  if perSecond ≤ d.nanos then show2 d.seconds d.subsecond 9 "s"
  else if 1000000 ≤ d.nanos then show2 (d.nanos / 1000000) (d.nanos % 1000000) 6 "ms"
  else if 1000 ≤ d.nanos then show2 (d.nanos / 1000) (d.nanos % 1000) 3 "µs"
  else toString d.nanos ++ "ns"

instance : Debug Span := ⟨text⟩

end Span
end QueueProbe
