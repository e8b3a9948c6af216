/-! Numbers of the IEEE format binary64, as exact values. A finite number is a significand below
`2 ^ 53` times a power of two; every operation computes its exact result as a ratio and rounds
once, to the nearest number and of two to the even one. Nothing here uses machine floats. -/

namespace QueueProbe

/-- `finite n m e` is `m * 2 ^ e`, negated if `n`; a zero has its sign. -/
inductive Binary64 where
  | finite (negative : Bool) (significand : Nat) (exponent : Int)
  | infinite (negative : Bool)
  | nan
deriving DecidableEq, Repr

namespace Binary64

/-- A ratio rounded to a natural number, ties to the even one. -/
def roundHalfEven (num den : Nat) : Nat :=
  let q := num / den
  let r := num % den
  if 2 * r < den ∨ (2 * r = den ∧ q % 2 = 0) then q else q + 1

def scale (num den : Nat) (k : Int) : Nat × Nat :=
  if 0 ≤ k then (num * Nat.pow 2 k.toNat, den) else (num, den * Nat.pow 2 (-k).toNat)

def leastExponent : Int := -1074
def greatestExponent : Int := 971

/-- The exponent whose grid holds the positive ratio with 53 bits, or the least one. -/
def exponentOf (num den : Nat) : Int :=
  let l : Int := (num.log2 : Int) - (den.log2 : Int)
  let r := scale num den (-l)
  max leastExponent (if r.2 ≤ r.1 then l - 52 else l - 53)

def carry : Nat := 0x20000000000000

/-- A significand that rounding carried to `2 ^ 53` moves up one exponent; above the greatest
exponent there is only infinity. -/
def pack (negative : Bool) (m : Nat) (e : Int) : Binary64 :=
  let c := if m = carry then (carry / 2, e + 1) else (m, e)
  if greatestExponent < c.2 then infinite negative else finite negative c.1 c.2

def zero (negative : Bool) : Binary64 := finite negative 0 leastExponent

/-- The number nearest to `num / den`. -/
def ofRatio (negative : Bool) (num den : Nat) : Binary64 :=
  if num = 0 then zero negative
  else
    let e := exponentOf num den
    let r := scale num den (-e)
    pack negative (roundHalfEven r.1 r.2) e

def ofScaled (negative : Bool) (m : Nat) (e : Int) : Binary64 :=
  let r := scale m 1 e
  ofRatio negative r.1 r.2

def ofNat (n : Nat) : Binary64 := ofRatio false n 1

def ofInt (n : Int) : Binary64 := ofRatio (n < 0) n.natAbs 1

def isNegative : Binary64 → Bool
  | finite n _ _ => n
  | infinite n => n
  | nan => false

def isFinite : Binary64 → Bool
  | finite .. => true
  | _ => false

def neg : Binary64 → Binary64
  | finite n m e => finite (!n) m e
  | infinite n => infinite (!n)
  | nan => nan

/-- Signed value over `2 ^ k`, for `k` at most the exponent. -/
def atExponent (negative : Bool) (m : Nat) (e k : Int) : Int :=
  let v : Int := (m * Nat.pow 2 (e - k).toNat : Nat)
  if negative then -v else v

def add : Binary64 → Binary64 → Binary64
  | finite n m e, finite n' m' e' =>
    let k := min e e'
    let s := atExponent n m e k + atExponent n' m' e' k
    if s = 0 then zero (n && n') else ofScaled (s < 0) s.natAbs k
  | infinite n, infinite n' => if n = n' then infinite n else nan
  | infinite n, finite .. => infinite n
  | finite .., infinite n => infinite n
  | _, _ => nan

def mul : Binary64 → Binary64 → Binary64
  | finite n m e, finite n' m' e' => ofScaled (n != n') (m * m') (e + e')
  | infinite n, infinite n' => infinite (n != n')
  | infinite n, finite n' m _ => if m = 0 then nan else infinite (n != n')
  | finite n m _, infinite n' => if m = 0 then nan else infinite (n != n')
  | _, _ => nan

def div : Binary64 → Binary64 → Binary64
  | finite n m e, finite n' m' e' =>
    if m' = 0 then (if m = 0 then nan else infinite (n != n'))
    else
      let r := scale m m' (e - e')
      ofRatio (n != n') r.1 r.2
  | infinite n, finite n' .. => infinite (n != n')
  | finite n .., infinite n' => zero (n != n')
  | _, _ => nan

/-- The order of two numbers, if neither is a NaN; the two zeros are equal. -/
def compare? : Binary64 → Binary64 → Option Ordering
  | finite n m e, finite n' m' e' =>
    let k := min e e'
    some (compare (atExponent n m e k) (atExponent n' m' e' k))
  | infinite n, infinite n' => some (compare n'.toNat n.toNat)
  | infinite n, finite .. => some (if n then .lt else .gt)
  | finite .., infinite n => some (if n then .gt else .lt)
  | _, _ => none

def lt (x y : Binary64) : Bool := x.compare? y == some .lt

def ge (x y : Binary64) : Bool := x.compare? y == some .gt || x.compare? y == some .eq

def same (x y : Binary64) : Bool := x.compare? y == some .eq

/-- The greater of two; a NaN gives way to the other. -/
def max (x y : Binary64) : Binary64 :=
  match x.compare? y with
  | some .lt => y
  | some _ => x
  | none => if x = nan then y else x

/-- Repeated squaring from the lowest bit of the exponent up. -/
def powLoop (a r : Binary64) (n : Nat) : Binary64 :=
  let r := if n % 2 = 1 then r.mul a else r
  if n < 2 then r else powLoop (a.mul a) r (n / 2)
termination_by n

def one : Binary64 := finite false (carry / 2) (-52)

def pow (a : Binary64) (n : Nat) : Binary64 := powLoop a one n

end Binary64
end QueueProbe
