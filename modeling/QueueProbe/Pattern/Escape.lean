import QueueProbe.Pattern.Tree
import QueueProbe.Text.Hex

/-! What a backslash gives a meaning to, in a pattern and in its sets. In a verbose pattern blanks and
comments do not count; each reader is told whether the pattern is one. What is not well written is
none. -/

namespace QueueProbe.Pattern

abbrev Chars := List Char

/-- After blanks and comments; `comment` if one has begun, which lasts to the end of its line. -/
def uncommented (comment : Bool) : Chars → Chars
  | [] => []
  | c :: rest =>
    if comment then uncommented (c ≠ '\n') rest
    else if Text.isBlank c then uncommented false rest
    else if c = '#' then uncommented true rest
    else c :: rest

def skip (verbose : Bool) (cs : Chars) : Chars := if verbose then uncommented false cs else cs

/-- The characters in front that pass a test, with what does not count after each of them. -/
def run (verbose : Bool) (test : Char → Bool) : Nat → Chars → Chars × Chars
  | 0, cs => ([], cs)
  | fuel + 1, c :: rest =>
    if test c then
      let r := run verbose test fuel (skip verbose rest)
      (c :: r.1, r.2)
    else ([], c :: rest)
  | _, [] => ([], [])

inductive Piece where
  | letter (l : Letter)
  | mark (m : Mark)
  | set (s : SetTree)

def charOf (ds : Chars) : Option Char := do
  let values ← ds.mapM Hex.digit?
  let n := values.foldl (fun n d => n * 16 + d) 0
  if ds ≠ [] ∧ n.isValidChar then return Char.ofNat n else none

/-- A character by its code: `n` digits, or any number of them in braces. -/
def codeAt (verbose : Bool) (n : Nat) (cs : Chars) : Option (Letter × Chars) :=
  match skip verbose cs with
  | '\x7b' :: rest => do
    let r := run verbose (· ≠ '\x7d') rest.length (skip verbose rest)
    match r.2 with
    | '\x7d' :: rest => return (⟨← charOf r.1, false⟩, skip verbose rest)
    | _ => none
  | cs => do
    let ds := (run verbose (fun c => (Hex.digit? c).isSome) n cs).1
    if ds.length ≠ n then none
    return (⟨← charOf ds, n = 2⟩, (run verbose (fun c => (Hex.digit? c).isSome) n cs).2)

def cutAt (mark : Chars) : Chars → Option (Chars × Chars)
  | [] => none
  | c :: rest =>
    if mark.isPrefixOf (c :: rest) then some ([], (c :: rest).drop mark.length)
    else (cutAt mark rest).map fun r => (c :: r.1, r.2)

/-- A property by what stands in its braces. -/
def propertyOf (negated : Bool) (cs : Chars) : SetTree :=
  let valued (negated : Bool) (r : Chars × Chars) :=
    SetTree.property negated (String.ofList r.1) (some (String.ofList r.2))
  match cutAt ['!', '='] cs, cutAt [':'] cs, cutAt ['='] cs with
  | some r, _, _ => valued (!negated) r
  | none, some r, _ => valued negated r
  | none, none, some r => valued negated r
  | none, none, none => .property negated (String.ofList cs) none

def propertyAt (verbose negated : Bool) (cs : Chars) : Option (SetTree × Chars) :=
  match skip verbose cs with
  | '\x7b' :: rest =>
    let r := run verbose (· ≠ '\x7d') rest.length (skip verbose rest)
    match r.2 with
    | '\x7d' :: rest => some (propertyOf negated r.1, rest)
    | _ => none
  | c :: rest =>
    if c = '\\' then none
    else some (.property negated (String.singleton c) none, skip verbose rest)
  | [] => none

def isNamePart (c : Char) : Bool := c.isAlpha || c = '-'

/-- The name of an edge of words in braces; without one it is any edge, and the brace counts how often
that is repeated. -/
def wordEdgeAt (verbose : Bool) (cs : Chars) : Option (WordEdge × Chars) :=
  match cs with
  | '\x7b' :: rest =>
    match skip verbose rest with
    | [] => none
    | c :: rest =>
      if !isNamePart c then some (.boundary, cs)
      else
        let r := run verbose isNamePart (rest.length + 1) (c :: rest)
        match String.ofList r.1, r.2 with
        | "start", '\x7d' :: rest => some (.start, rest)
        | "end", '\x7d' :: rest => some (.finish, rest)
        | "start-half", '\x7d' :: rest => some (.startHalf, rest)
        | "end-half", '\x7d' :: rest => some (.finishHalf, rest)
        | _, _ => none
  | _ => some (.boundary, cs)

/-- What follows a backslash. Signs stand for themselves after it, letters and digits never do. -/
def escapeAt (verbose : Bool) : Chars → Option (Piece × Chars)
  | 'x' :: rest => (codeAt verbose 2 rest).map fun r => (.letter r.1, r.2)
  | 'u' :: rest => (codeAt verbose 4 rest).map fun r => (.letter r.1, r.2)
  | 'U' :: rest => (codeAt verbose 8 rest).map fun r => (.letter r.1, r.2)
  | 'p' :: rest => (propertyAt verbose false rest).map fun r => (.set r.1, r.2)
  | 'P' :: rest => (propertyAt verbose true rest).map fun r => (.set r.1, r.2)
  | 'd' :: rest => some (.set (.shorthand false .digit), rest)
  | 'D' :: rest => some (.set (.shorthand true .digit), rest)
  | 's' :: rest => some (.set (.shorthand false .blank), rest)
  | 'S' :: rest => some (.set (.shorthand true .blank), rest)
  | 'w' :: rest => some (.set (.shorthand false .letter), rest)
  | 'W' :: rest => some (.set (.shorthand true .letter), rest)
  | 'a' :: rest => some (.letter ⟨'\x07', false⟩, rest)
  | 'f' :: rest => some (.letter ⟨'\x0c', false⟩, rest)
  | 't' :: rest => some (.letter ⟨'\t', false⟩, rest)
  | 'n' :: rest => some (.letter ⟨'\n', false⟩, rest)
  | 'r' :: rest => some (.letter ⟨'\r', false⟩, rest)
  | 'v' :: rest => some (.letter ⟨'\x0b', false⟩, rest)
  | 'A' :: rest => some (.mark .textStart, rest)
  | 'z' :: rest => some (.mark .textEnd, rest)
  | 'b' :: rest => (wordEdgeAt verbose rest).map fun r => (.mark (.word r.1), r.2)
  | 'B' :: rest => some (.mark (.word .inside), rest)
  | '<' :: rest => some (.mark (.word .start), rest)
  | '>' :: rest => some (.mark (.word .finish), rest)
  | c :: rest => if c.isAlphanum || 0x7f < c.toNat then none else some (.letter ⟨c, false⟩, rest)
  | [] => none

end QueueProbe.Pattern
