import QueueProbe.Json.Number
import QueueProbe.Text.Hex

/-! JSON texts as trees of what is written, before anything is asked of numbers and strings: a
numeral may be too great, and a string may have no text, for want of well-formed bytes or of the
other half of a surrogate pair. A reader takes from a tree what it needs; the rest only has to be
written well. -/

namespace QueueProbe.Json

inductive Tree where
  | null
  | bool (b : Bool)
  | number (n : Numeral)
  | string (text : Option String)
  | array (items : List Tree)
  | object (members : List (Option String × Tree))

/-- A piece of a string: a byte as it stands, or a UTF-16 unit from an escape. -/
inductive Chunk where
  | byte (b : UInt8)
  | unit (u : Nat)
deriving DecidableEq, Repr

namespace Tree

def isSpace (b : UInt8) : Bool := b = 0x20 || b = 0x9 || b = 0xa || b = 0xd

def skipSpace (bs : Bytes) : Bytes := bs.dropWhile isSpace

def isDigit (b : UInt8) : Bool := 0x30 ≤ b && b ≤ 0x39

def digit (b : UInt8) : Nat := b.toNat - 0x30

def hexValue (b : UInt8) : Option Nat := Hex.digit? (.ofUInt8 b)

def hex4 (a b c d : UInt8) : Option Nat := do
  return (← hexValue a) * 0x1000 + (← hexValue b) * 0x100 + (← hexValue c) * 0x10 + (← hexValue d)

/-- The byte an escape with one letter stands for. -/
def escape? (b : UInt8) : Option UInt8 :=
  if b = 0x22 || b = 0x5c || b = 0x2f then some b
  else if b = 0x62 then some 0x8
  else if b = 0x66 then some 0xc
  else if b = 0x6e then some 0xa
  else if b = 0x72 then some 0xd
  else if b = 0x74 then some 0x9
  else none

/-- The pieces of a string up to its closing quote, and what follows. -/
def chunks : Bytes → Option (List Chunk × Bytes)
  | [] => none
  | 0x22 :: rest => some ([], rest)
  | 0x5c :: 0x75 :: a :: b :: c :: d :: rest =>
    match hex4 a b c d with
    | some u => (chunks rest).map fun r => (.unit u :: r.1, r.2)
    | none => none
  | 0x5c :: e :: rest =>
    match escape? e with
    | some x => (chunks rest).map fun r => (.byte x :: r.1, r.2)
    | none => none
  | b :: rest =>
    if b < 0x20 || b = 0x5c then none else (chunks rest).map fun r => (.byte b :: r.1, r.2)

def isHigh (u : Nat) : Bool := 0xd800 ≤ u && u < 0xdc00
def isLow (u : Nat) : Bool := 0xdc00 ≤ u && u < 0xe000

/-- The bytes of the pieces; a surrogate has to stand in its pair. -/
def assemble : List Chunk → Option Bytes
  | [] => some []
  | .byte b :: rest => (assemble rest).map (b :: ·)
  | .unit u :: .unit v :: rest =>
    if isHigh u then
      if isLow v then
        let c := Char.ofNat (0x10000 + (u - 0xd800) * 0x400 + (v - 0xdc00))
        (assemble rest).map (Utf8.encodeChar c ++ ·)
      else none
    else if isLow u then none
    else (assemble (.unit v :: rest)).map (Utf8.encodeChar (Char.ofNat u) ++ ·)
  | .unit u :: rest =>
    if isHigh u || isLow u then none
    else (assemble rest).map (Utf8.encodeChar (Char.ofNat u) ++ ·)

def textOf (cs : List Chunk) : Option String :=
  match assemble cs with
  | some bs => (Utf8.decode bs).toOption
  | none => none

def stringAt (bs : Bytes) : Option (Option String × Bytes) :=
  (chunks bs).map fun r => (textOf r.1, r.2)

def digitsAt (bs : Bytes) : List Nat × Bytes := ((bs.takeWhile isDigit).map digit, bs.dropWhile isDigit)

def digitsAt1 (bs : Bytes) : Option (List Nat × Bytes) :=
  match digitsAt bs with
  | ([], _) => none
  | r => some r

def fractionAt : Bytes → Option (List Nat × Bytes)
  | 0x2e :: rest => digitsAt1 rest
  | bs => some ([], bs)

def exponentAt : Bytes → Option (Option (Bool × List Nat) × Bytes)
  | b :: rest =>
    if b = 0x65 || b = 0x45 then
      match rest with
      | 0x2b :: ds => (digitsAt1 ds).map fun r => (some (false, r.1), r.2)
      | 0x2d :: ds => (digitsAt1 ds).map fun r => (some (true, r.1), r.2)
      | ds => (digitsAt1 ds).map fun r => (some (false, r.1), r.2)
    else some (none, b :: rest)
  | [] => some (none, [])

/-- Digits of a whole number, without a zero in front of others. -/
def wholeAt (bs : Bytes) : Option (List Nat × Bytes) :=
  match digitsAt1 bs with
  | some (0 :: _ :: _, _) => none
  | r => r

def numeralAt (minus : Bool) (bs : Bytes) : Option (Numeral × Bytes) := do
  let w ← wholeAt bs
  let f ← fractionAt w.2
  let e ← exponentAt f.2
  return (⟨minus, w.1, f.1, e.1⟩, e.2)

def word? (word : String) (bs : Bytes) : Option Bytes :=
  let w := Utf8.encode word
  if w.isPrefixOf bs then some (bs.drop w.length) else none

mutual

/-- The tree at the start of the bytes, blanks before it skipped, and what follows. -/
def treeAt (fuel : Nat) (bs : Bytes) : Option (Tree × Bytes) :=
  match fuel with
  | 0 => none
  | fuel + 1 =>
    match skipSpace bs with
    | [] => none
    | b :: rest =>
      if b = 0x22 then (stringAt rest).map fun r => (.string r.1, r.2)
      else if b = 0x5b then
        match skipSpace rest with
        | 0x5d :: after => some (.array [], after)
        | _ => (itemsAt fuel rest).map fun r => (.array r.1, r.2)
      else if b = 0x7b then
        match skipSpace rest with
        | 0x7d :: after => some (.object [], after)
        | _ => (membersAt fuel rest).map fun r => (.object r.1, r.2)
      else if b = 0x2d then (numeralAt true rest).map fun r => (.number r.1, r.2)
      else if isDigit b then (numeralAt false (b :: rest)).map fun r => (.number r.1, r.2)
      else if b = 0x6e then (word? "ull" rest).map fun r => (.null, r)
      else if b = 0x74 then (word? "rue" rest).map fun r => (.bool true, r)
      else if b = 0x66 then (word? "alse" rest).map fun r => (.bool false, r)
      else none

def itemsAt (fuel : Nat) (bs : Bytes) : Option (List Tree × Bytes) :=
  match fuel with
  | 0 => none
  | fuel + 1 =>
    match treeAt fuel bs with
    | none => none
    | some (t, rest) =>
      match skipSpace rest with
      | 0x2c :: more => (itemsAt fuel more).map fun r => (t :: r.1, r.2)
      | 0x5d :: after => some ([t], after)
      | _ => none

def membersAt (fuel : Nat) (bs : Bytes) : Option (List (Option String × Tree) × Bytes) :=
  match fuel with
  | 0 => none
  | fuel + 1 =>
    match skipSpace bs with
    | 0x22 :: quoted =>
      match stringAt quoted with
      | none => none
      | some (key, rest) =>
        match skipSpace rest with
        | 0x3a :: value =>
          match treeAt fuel value with
          | none => none
          | some (t, rest) =>
            match skipSpace rest with
            | 0x2c :: more => (membersAt fuel more).map fun r => ((key, t) :: r.1, r.2)
            | 0x7d :: after => some ([(key, t)], after)
            | _ => none
        | _ => none
    | _ => none

end

def parse (bs : Bytes) : Option Tree :=
  match treeAt (2 * bs.length + 2) bs with
  | some (t, rest) => if (skipSpace rest).isEmpty then some t else none
  | none => none

end Tree
end QueueProbe.Json
