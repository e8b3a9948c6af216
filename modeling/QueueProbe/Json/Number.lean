import QueueProbe.Binary64.Decimal

/-! JSON numbers. A numeral is what stands in the text; its value is a whole number where 64 bits
hold it and the numeral has neither fraction nor exponent, and else a float. Of a float's digits
those are read that fit 64 bits one after the other; the value then takes one multiplication or
division by a power of ten, each rounded, so the last bit may differ from the nearest float. -/

namespace QueueProbe.Json

inductive Number where
  /-- Below `2 ^ 64`. -/
  | natural (n : Nat)
  /-- Negative, and at least `-2 ^ 63`. -/
  | negative (n : Int)
  | float (x : Binary64)
deriving DecidableEq, Repr

structure Numeral where
  minus : Bool
  whole : List Nat
  fraction : List Nat
  /-- Whether the exponent is negative, and its digits. -/
  exponent : Option (Bool × List Nat)
deriving DecidableEq, Repr

namespace Numeral

def wordLimit : Nat := 0x10000000000000000

/-- Digits read until the next one would not fit 64 bits, and how many are left then. -/
def readDigits (start : Nat) : List Nat → Nat × Nat
  | [] => (start, 0)
  | d :: rest =>
    if start * 10 + d < wordLimit then readDigits (start * 10 + d) rest
    else (start, rest.length + 1)

def digitsValue (ds : List Nat) : Nat := ds.foldl (fun n d => n * 10 + d) 0

def powerOfTen (n : Nat) : Binary64 := .ofNat (Nat.pow 10 n)

/-- The greatest power of ten that is a float. -/
def greatestTen : Nat := 308

/-- `x * 10 ^ e`; none if it is too great. Small powers are divided off in pieces. -/
def scaleTen (x : Binary64) (e : Int) : Option Binary64 :=
  if 0 ≤ e then
    if x.same (.ofNat 0) then some x
    else if e.toNat ≤ greatestTen then
      let y := x.mul (powerOfTen e.toNat)
      if y.isFinite then some y else none
    else none
  else if (-e).toNat ≤ greatestTen then some (x.div (powerOfTen (-e).toNat))
  else if x.same (.ofNat 0) then some x
  else scaleTen (x.div (powerOfTen greatestTen)) (e + greatestTen)
termination_by (-e).toNat
decreasing_by unfold greatestTen at *; omega

/-- An exponent of this size or more is not read out. -/
def exponentLimit : Nat := 0x80000000

/-- The float of a significand and the exponent that its digits and the numeral give it. -/
def floatValue (n : Numeral) (significand : Nat) (place : Int) : Option Binary64 :=
  let sign (x : Binary64) := if n.minus then x.neg else x
  match n.exponent with
  | none => (scaleTen (.ofNat significand) place).map sign
  | some (below, ds) =>
    let e := digitsValue ds
    if exponentLimit ≤ e then
      if significand = 0 ∨ below then some (sign (.ofNat 0)) else none
    else (scaleTen (.ofNat significand) (if below then place - e else place + e)).map sign

def value? (n : Numeral) : Option Number :=
  let w := readDigits 0 n.whole
  if n.fraction.isEmpty && n.exponent.isNone && w.2 = 0 then
    if !n.minus then some (.natural w.1)
    else if w.1 = 0 ∨ 0x8000000000000000 < w.1 then some (.float (Binary64.ofNat w.1).neg)
    else some (.negative (-(w.1 : Int)))
  else
    let f := readDigits w.1 n.fraction
    (n.floatValue f.1 ((w.2 : Int) - ((n.fraction.length - f.2 : Nat) : Int))).map .float

end Numeral

namespace Number

def render : Number → List Char
  | natural n => Nat.toDigits 10 n
  | negative n => (toString n).toList
  | float x => (Binary64.Layout.json.render x).toList

/-- The whole number of a number that is one, within bounds. -/
def toInt? (least greatest : Int) : Number → Option Int
  | natural n => if (n : Int) ≤ greatest then some n else none
  | negative n => if least ≤ n then some n else none
  | float _ => none

def toFloat : Number → Binary64
  | natural n => .ofNat n
  | negative n => .ofInt n
  | float x => x

end Number
end QueueProbe.Json
