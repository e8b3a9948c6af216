import QueueProbe.Binary64.Basic
import QueueProbe.Text.Quoted

/-! Numbers written in decimal. Of all decimals that round to the number the shortest is taken, and
of those the nearest to it; a `Layout` says how its digits are set. -/

namespace QueueProbe.Binary64

/-- `digits * 10 ^ exponent`. -/
structure Decimal where
  digits : Nat
  exponent : Int
deriving DecidableEq, Repr

/-- What to do when the number lies halfway between two decimals. -/
inductive Tie where
  | up
  | even
deriving DecidableEq, Repr

def gridRatio (e k : Int) : Nat × Nat :=
  let r := scale 1 1 e
  if 0 ≤ k then (r.1, r.2 * Nat.pow 10 k.toNat) else (r.1 * Nat.pow 10 (-k).toNat, r.2)

/-- The multiple of `10 ^ k` that rounds to `m * 2 ^ e` and is nearest to it, if one rounds to it.
The reals that round to it reach half a step to both sides, but only a quarter below the first
number of a new exponent; their ends count if the significand is even. -/
def nearestOn (tie : Tie) (m : Nat) (e k : Int) : Option Nat :=
  let g := gridRatio (e - 2) k
  let v := 4 * m * g.1
  let lo := (if m = carry / 2 ∧ leastExponent < e then 4 * m - 1 else 4 * m - 2) * g.1
  let hi := (4 * m + 2) * g.1
  let d := v / g.2
  let inside (x : Nat) : Bool :=
    if m % 2 = 0 then lo ≤ x * g.2 && x * g.2 ≤ hi else lo < x * g.2 && x * g.2 < hi
  match inside d, inside (d + 1) with
  | true, true =>
    let below := v - d * g.2
    let above := (d + 1) * g.2 - v
    if below < above then some d
    else if above < below then some (d + 1)
    else match tie with
      | .up => some (d + 1)
      | .even => some (if d % 2 = 0 then d else d + 1)
  | true, false => some d
  | false, true => some (d + 1)
  | false, false => none

/-- Tries ever finer grids; eighteen digits always suffice. -/
def shortestFrom (tie : Tie) (m : Nat) (e : Int) : Nat → Int → Decimal
  | 0, k => ⟨0, k⟩
  | tries + 1, k =>
    match nearestOn tie m e k with
    | some d => ⟨d, k⟩
    | none => shortestFrom tie m e tries (k - 1)

def shortest (tie : Tie) (m : Nat) (e : Int) : Decimal :=
  shortestFrom tie m e 24 (((m.log2 : Int) + e) * 30103 / 100000 + 2)

/-- How digits are set: which scientific exponents are written out as a plain number, whether a
whole number keeps a zero after the point, and whether a positive exponent has a sign. -/
structure Layout where
  plainFrom : Option Int
  plainTo : Option Int
  wholePoint : Bool
  exponentPlus : Bool
  tie : Tie
  nanText : String
  infinityText : String

namespace Layout

/-- Debug text: plain from `1e-4` up to below `1e16`. -/
def debug : Layout := ⟨some (-4), some 15, true, false, .up, "NaN", "inf"⟩

/-- Sentences: always plain, and whole numbers without a point. -/
def sentence : Layout := ⟨none, none, false, false, .up, "NaN", "inf"⟩

/-- JSON: plain from `1e-5` up to below `1e16`; what is no number is null. -/
def json : Layout := ⟨some (-5), some 15, true, true, .even, "null", "null"⟩

def isPlain (l : Layout) (p : Int) : Bool :=
  (l.plainFrom.all (· ≤ p)) && (l.plainTo.all (p ≤ ·))

def zeros (n : Nat) : List Char := List.replicate n '0'

/-- Digits `ds`, the first of them at `10 ^ p`. -/
def plain (l : Layout) (ds : List Char) (p : Int) : List Char :=
  if p < 0 then ['0', '.'] ++ zeros (-p - 1).toNat ++ ds
  else
    let whole := p.toNat + 1
    if ds.length ≤ whole then
      ds ++ zeros (whole - ds.length) ++ (if l.wholePoint then ['.', '0'] else [])
    else ds.take whole ++ ['.'] ++ ds.drop whole

def scientific (l : Layout) (ds : List Char) (p : Int) : List Char :=
  let fraction := match ds.drop 1 with
    | [] => []
    | rest => '.' :: rest
  let sign := if p < 0 then ['-'] else if l.exponentPlus then ['+'] else []
  ds.take 1 ++ fraction ++ ['e'] ++ sign ++ Nat.toDigits 10 p.natAbs

def positive (l : Layout) (m : Nat) (e : Int) : List Char :=
  if m = 0 then (if l.wholePoint then ['0', '.', '0'] else ['0'])
  else
    let d := shortest l.tie m e
    let ds := Nat.toDigits 10 d.digits
    let p := d.exponent + ds.length - 1
    if l.isPlain p then l.plain ds p else l.scientific ds p

def render (l : Layout) : Binary64 → String
  | .finite n m e => String.ofList ((if n then ['-'] else []) ++ l.positive m e)
  | .infinite n => if n && l.infinityText = "inf" then "-inf" else l.infinityText
  | .nan => l.nanText

end Layout

instance : Debug Binary64 := ⟨Layout.debug.render⟩

/-- The number nearest to `digits * 10 ^ exponent`, however great the exponent. -/
def ofDecimal (negative : Bool) (d : Decimal) : Binary64 :=
  if d.digits = 0 then zero negative
  else
    let top := d.exponent + (d.digits.log2 : Int) * 30103 / 100000
    if 310 < top then infinite negative
    else if top < -330 then zero negative
    else if 0 ≤ d.exponent then ofRatio negative (d.digits * Nat.pow 10 d.exponent.toNat) 1
    else ofRatio negative d.digits (Nat.pow 10 (-d.exponent).toNat)

end QueueProbe.Binary64
