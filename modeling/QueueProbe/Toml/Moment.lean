import QueueProbe.Text.Numeral

/-! Points in time as documents write them: a date, a time of day, or a date and a time with a letter
or a blank between them, and after those the offset from universal time. -/

namespace QueueProbe.Toml

structure Date where
  year : Nat
  month : Nat
  day : Nat
deriving DecidableEq, Repr

/-- A minute may have a sixty-first second. -/
structure TimeOfDay where
  hour : Nat
  minute : Nat
  second : Nat
  nanosecond : Nat
deriving DecidableEq, Repr

/-- How many minutes a clock is ahead of universal time. -/
structure Offset where
  minutes : Int
deriving DecidableEq, Repr

inductive Moment where
  | date (d : Date)
  | time (t : TimeOfDay)
  | both (d : Date) (t : TimeOfDay) (offset : Option Offset)
deriving DecidableEq, Repr

namespace Date

def isLeap (year : Nat) : Bool := year % 4 = 0 && (year % 100 ≠ 0 || year % 400 = 0)

def daysIn (year month : Nat) : Nat :=
  if month = 2 then (if isLeap year then 29 else 28)
  else if month ∈ [4, 6, 9, 11] then 30
  else 31

def Exists (d : Date) : Prop :=
  1 ≤ d.month ∧ d.month ≤ 12 ∧ 1 ≤ d.day ∧ d.day ≤ daysIn d.year d.month

instance (d : Date) : Decidable d.Exists := inferInstanceAs (Decidable (_ ∧ _))

end Date

namespace Moment

def digits (n : Nat) (cs : List Char) : Option (Nat × List Char) :=
  let run := cs.takeWhile Char.isDigit
  if run.length = n then
    some (run.foldl (fun v c => v * 10 + (c.toNat - 0x30)) 0, cs.drop n)
  else none

def mark (c : Char) : List Char → Option (List Char)
  | d :: rest => if c = d then some rest else none
  | [] => none

def dateAt (cs : List Char) : Option (Date × List Char) := do
  let (year, cs) ← digits 4 cs
  let (month, cs) ← digits 2 (← mark '-' cs)
  let (day, cs) ← digits 2 (← mark '-' cs)
  let d : Date := ⟨year, month, day⟩
  if d.Exists then return (d, cs) else none

def clockAt (cs : List Char) : Option ((Nat × Nat) × List Char) := do
  let (hour, cs) ← digits 2 cs
  let (minute, cs) ← digits 2 (← mark ':' cs)
  if hour ≤ 23 ∧ minute ≤ 59 then return ((hour, minute), cs) else none

/-- Digits after the point, of which nine count. -/
def fractionAt : List Char → Option (Nat × List Char)
  | '.' :: cs =>
    let run := cs.takeWhile Char.isDigit
    let nine := (run ++ List.replicate 9 '0').take 9
    if run = [] then none
    else some (nine.foldl (fun v c => v * 10 + (c.toNat - 0x30)) 0, cs.drop run.length)
  | cs => some (0, cs)

/-- Seconds may be left out, and with them their fraction. -/
def timeAt (cs : List Char) : Option (TimeOfDay × List Char) := do
  let ((hour, minute), cs) ← clockAt cs
  match cs with
  | ':' :: cs =>
    let (second, cs) ← digits 2 cs
    let (nanosecond, cs) ← fractionAt cs
    if second ≤ 60 then return (⟨hour, minute, second, nanosecond⟩, cs) else none
  | cs => return (⟨hour, minute, 0, 0⟩, cs)

def offset? : List Char → Option (Option Offset)
  | [] => some none
  | ['Z'] | ['z'] => some (some ⟨0⟩)
  | sign :: cs => do
    let ((hours, minutes), rest) ← clockAt cs
    let ahead : Int := hours * 60 + minutes
    match sign, rest with
    | '+', [] => return some ⟨ahead⟩
    | '-', [] => return some ⟨-ahead⟩
    | _, _ => none

def ofChars? (cs : List Char) : Option Moment :=
  match dateAt cs with
  | none =>
    match timeAt cs with
    | some (t, []) => some (.time t)
    | _ => none
  | some (d, []) => some (.date d)
  | some (d, between :: rest) => do
    if between ∉ ['T', 't', ' '] then none
    let (t, rest) ← timeAt rest
    return .both d t (← offset? rest)

end Moment
end QueueProbe.Toml
