import QueueProbe.Binary64.Reading
import QueueProbe.Toml.Basic
import QueueProbe.Toml.Moment

/-! Values that stand without quotes: numbers, truth values and points in time. -/

namespace QueueProbe.Toml

/-- What is written without quotes. A number that is too great, or whose digits are not all of its
base, is nothing: that is a fault only where the number is asked for. -/
inductive Scalar where
  | integer (n : Option Int)
  | float (x : Option Binary64)
  | bool (b : Bool)
  | moment (m : Moment)
deriving DecidableEq, Repr

/-- The text without its underscores, each of which stands between two digits, or right after a sign. -/
def unspaced (digit : Char → Bool) (cs : Chars) : Option Chars :=
  let pieces := Text.splitChars '_' cs
  if pieces.length ≤ 1 then some cs
  else if pieces.all (!·.isEmpty) && (pieces.drop 1).all (fun p => p.head?.any digit) &&
      pieces.dropLast.all (fun p => p.length = 1 || p.getLast?.any digit) then some pieces.flatten
  else none

def isHex (c : Char) : Bool := (Hex.digit? c).isSome

def digitsIn (base : Nat) (cs : Chars) : Option Nat :=
  if cs.isEmpty then none
  else (cs.mapM fun c => (Hex.digit? c).filter (· < base)).map fun ds =>
    ds.foldl (fun n d => n * base + d) 0

def basedOf (base : Nat) (cs : Chars) : Option Scalar :=
  if cs.all fun c => c = '_' || (Hex.digit? c).any (· < base) then
    (unspaced isHex cs).map fun ds => .integer ((digitsIn base ds).map Int.ofNat)
  else none

def startsWithZero (cs : Chars) : Bool := cs.head? = some '0'

def wholeOf (word : Chars) : Option Scalar :=
  (unspaced isHex word).map fun ds =>
    let s := Binary64.splitSign ds
    .integer ((digitsIn 10 s.2).map fun (n : Nat) => if s.1 then -(n : Int) else n)

def digitsAt (cs : Chars) : Option (Chars × Chars) :=
  let run := cs.takeWhile fun c => c.isDigit || c = '_'
  if run.any Char.isDigit then some (run, cs.drop run.length) else none

/-- The form of a float without its sign: more digits than one do not start with a zero. -/
def isFloat (cs : Chars) : Bool := Option.isSome do
  let (whole, cs) ← digitsAt cs
  if startsWithZero whole && 1 < whole.countP Char.isDigit then none
  let cs ← match cs with
    | '.' :: rest => (digitsAt rest).map (·.2)
    | rest => some rest
  let cs ← match cs with
    | 'e' :: rest | 'E' :: rest => (digitsAt (Binary64.splitSign rest).2).map (·.2)
    | rest => some rest
  if cs.isEmpty then some () else none

/-- Too great a number is none. -/
def floatOf (word : Chars) : Option Scalar :=
  (unspaced Char.isDigit word).map fun ds =>
    .float ((Binary64.ofText? (String.ofList ds)).filter Binary64.isFinite)

/-- A word that starts like a number; `body` is the word without its sign. -/
def numberOf (word body : Chars) : Option Scalar :=
  match body.dropWhile Char.isDigit with
  | [] => if body = [] ∨ (startsWithZero body ∧ body ≠ ['0']) then none else wholeOf word
  | '-' :: _ | ':' :: _ => (Moment.ofChars? word).map .moment
  | rest =>
    if rest.contains ' ' then none
    else if rest.any fun c => c = '.' || c = 'e' || c = 'E' then
      if isFloat body then floatOf word else none
    else if rest.head? = some '_' && !startsWithZero body then wholeOf word
    else none

def scalarOf (word : Chars) : Option Scalar :=
  let s := Binary64.splitSign word
  if word = "true".toList then some (.bool true)
  else if word = "false".toList then some (.bool false)
  else if s.2 = "inf".toList then some (.float (some (.infinite s.1)))
  else if s.2 = "nan".toList then some (.float (some .nan))
  else
    match word with
    | '0' :: 'x' :: ds => basedOf 16 ds
    | '0' :: 'o' :: ds => basedOf 8 ds
    | '0' :: 'b' :: ds => basedOf 2 ds
    | _ => numberOf word s.2

def isBreak (c : Char) : Bool :=
  c ∈ ['.', '=', ',', '[', ']', '\x7b', '\x7d', ' ', '\t', '#', '\r', '\n']

def isQuote (c : Char) : Bool := c = '"' || c = '\''

/-- A word: pieces with points or blanks between them, and no quote in front of a piece. -/
def wordAt : Nat → Chars → Chars × Chars
  | 0, cs => ([], cs)
  | fuel + 1, cs =>
    match cs with
    | '.' :: rest => let r := wordAt fuel rest; ('.' :: r.1, r.2)
    | _ =>
      let gap := cs.takeWhile isGap
      let more := cs.drop gap.length
      let piece := if more.head?.any isQuote then [] else more.takeWhile (!isBreak ·)
      if piece.isEmpty then ([], cs)
      else
        let r := wordAt fuel (more.drop piece.length)
        (gap ++ piece ++ r.1, r.2)

def scalarAt (cs : Chars) : Option (Scalar × Chars) :=
  let r := wordAt (cs.length + 1) cs
  (scalarOf r.1).map (·, r.2)

end QueueProbe.Toml
