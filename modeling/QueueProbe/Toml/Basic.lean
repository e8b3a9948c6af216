import QueueProbe.Text.Hex

/-! The small parts of a TOML text: blanks, comments, strings and keys. A reader takes the characters
that are left and gives what it read with the rest, or nothing if the text is not written well
there. -/

namespace QueueProbe.Toml

abbrev Chars := List Char

abbrev Reads (α : Type) := Chars → Option (α × Chars)

def isGap (c : Char) : Bool := c = ' ' || c = '\t'

def skipGap (cs : Chars) : Chars := cs.dropWhile isGap

/-- Tabs, and all but the control characters. -/
def isPlain (c : Char) : Bool := c = '\t' || (0x20 ≤ c.toNat && c.toNat ≠ 0x7f)

def newline? : Chars → Option Chars
  | '\n' :: rest => some rest
  | '\r' :: '\n' :: rest => some rest
  | _ => none

def skipComment : Chars → Chars
  | '#' :: rest => rest.dropWhile isPlain
  | cs => cs

/-- Blanks, comments and line ends, as they may stand between the items of an array. -/
def skipLines : Nat → Chars → Chars
  | 0, cs => cs
  | fuel + 1, cs =>
    let rest := skipComment (skipGap cs)
    match newline? rest with
    | some more => skipLines fuel more
    | none => rest

def skipAll (cs : Chars) : Chars := skipLines (cs.length + 1) cs

def isBare (c : Char) : Bool := c.isAlphanum || c = '_' || c = '-'

def codePoint (n : Nat) : Reads Char := fun cs =>
  if (cs.take n).length = n then
    match (cs.take n).mapM Hex.digit? with
    | some ds =>
      let code := ds.foldl (fun v d => v * 16 + d) 0
      if code.isValidChar then some (Char.ofNat code, cs.drop n) else none
    | none => none
  else none

def escaped : Reads Char
  | 'b' :: rest => some ('\x08', rest)
  | 't' :: rest => some ('\t', rest)
  | 'n' :: rest => some ('\n', rest)
  | 'f' :: rest => some ('\x0c', rest)
  | 'r' :: rest => some ('\r', rest)
  | 'e' :: rest => some ('\x1b', rest)
  | '"' :: rest => some ('"', rest)
  | '\\' :: rest => some ('\\', rest)
  | 'x' :: rest => codePoint 2 rest
  | 'u' :: rest => codePoint 4 rest
  | 'U' :: rest => codePoint 8 rest
  | _ => none

def basicString : Nat → Reads Chars
  | 0, _ => none
  | fuel + 1, cs =>
    match cs with
    | [] => none
    | '"' :: rest => some ([], rest)
    | '\\' :: rest =>
      match escaped rest with
      | some (c, more) => (basicString fuel more).map fun r => (c :: r.1, r.2)
      | none => none
    | c :: rest =>
      if isPlain c then (basicString fuel rest).map fun r => (c :: r.1, r.2) else none

def literalString (cs : Chars) : Option (Chars × Chars) :=
  let body := cs.takeWhile fun c => isPlain c && c ≠ '\''
  match cs.drop body.length with
  | '\'' :: rest => some (body, rest)
  | _ => none

/-- The end of a string of several lines: three quotes, and up to two before them that belong to
the string. -/
def closing (q : Char) : Chars → Option (Chars × Chars)
  | a :: b :: c :: d :: e :: rest =>
    if a = q ∧ b = q ∧ c = q then
      if d = q ∧ e = q then some ([q, q], rest)
      else if d = q then some ([q], e :: rest)
      else some ([], d :: e :: rest)
    else none
  | [a, b, c, d] =>
    if a = q ∧ b = q ∧ c = q then (if d = q then some ([q], []) else some ([], [d])) else none
  | [a, b, c] => if a = q ∧ b = q ∧ c = q then some ([], []) else none
  | _ => none

/-- A line end after a backslash, with blanks before it. -/
def isFolded (cs : Chars) : Bool := (newline? (skipGap cs)).isSome

def skipFold (cs : Chars) : Chars := cs.dropWhile fun c => isGap c || c = '\n' || c = '\r'

/-- A string of several lines after its opening quotes; `escapes` if backslashes mean something. -/
def linesString (q : Char) (escapes : Bool) : Nat → Reads Chars
  | 0, _ => none
  | fuel + 1, cs =>
    match closing q cs with
    | some (quotes, rest) => some (quotes, rest)
    | none =>
      match cs with
      | [] => none
      | '\r' :: '\n' :: rest => (linesString q escapes fuel rest).map fun r => ('\r' :: '\n' :: r.1, r.2)
      | c :: rest =>
        if c = '\\' && escapes then
          if isFolded rest then linesString q escapes fuel (skipFold rest)
          else
            match escaped rest with
            | some (x, more) => (linesString q escapes fuel more).map fun r => (x :: r.1, r.2)
            | none => none
        else if isPlain c || c = '\n' then
          (linesString q escapes fuel rest).map fun r => (c :: r.1, r.2)
        else none

/-- A line end right after the opening quotes does not count. -/
def afterOpening (cs : Chars) : Chars := (newline? cs).getD cs

/-- Any string, from its opening quote on; `lines` if it may be one of several lines. -/
def stringAt (lines : Bool) (cs : Chars) : Option (String × Chars) :=
  let fuel := cs.length + 1
  let text (r : Option (Chars × Chars)) := r.map fun r => (String.ofList r.1, r.2)
  match cs with
  | '"' :: '"' :: '"' :: rest =>
    if lines then text (linesString '"' true fuel (afterOpening rest)) else none
  | '\'' :: '\'' :: '\'' :: rest =>
    if lines then text (linesString '\'' false fuel (afterOpening rest)) else none
  | '"' :: rest => text (basicString fuel rest)
  | '\'' :: rest => text (literalString rest)
  | _ => none

def keyPart (cs : Chars) : Option (String × Chars) :=
  match stringAt false cs with
  | some r => some r
  | none =>
    let bare := cs.takeWhile isBare
    if bare.isEmpty then none else some (String.ofList bare, cs.drop bare.length)

/-- A key: parts with points between them, and blanks around those. -/
def keyAt : Nat → Reads (List String)
  | 0, _ => none
  | fuel + 1, cs =>
    match keyPart (skipGap cs) with
    | none => none
    | some (part, rest) =>
      match skipGap rest with
      | '.' :: more => (keyAt fuel more).map fun r => (part :: r.1, r.2)
      | more => some ([part], more)

/-- How many parts a key may have, and how deep values may stand in each other. -/
def depthLimit : Nat := 80

def key (cs : Chars) : Option (List String × Chars) :=
  (keyAt (cs.length + 1) cs).filter fun r => r.1.length ≤ depthLimit

end QueueProbe.Toml
