import QueueProbe.Pattern.Brackets

/-! Reading of written patterns: parts in a row, signs that repeat them, groups and alternatives. -/

namespace QueueProbe.Pattern

def countAt (verbose : Bool) (cs : Chars) : Option (Nat × Chars) :=
  let r := run verbose Char.isDigit cs.length (cs.dropWhile Text.isBlank)
  let n := r.1.foldl (fun n d => n * 10 + (d.toNat - 0x30)) 0
  if r.1.isEmpty || 0xffffffff < n then none
  else some (n, skip verbose (r.2.dropWhile Text.isBlank))

def boundsAt (verbose : Bool) (cs : Chars) : Option ((Nat × Option Nat) × Chars) := do
  let (least, cs) ← countAt verbose (skip verbose cs)
  match cs with
  | '\x7d' :: rest => return ((least, some least), skip verbose rest)
  | ',' :: rest =>
    match skip verbose rest with
    | '\x7d' :: rest => return ((least, none), skip verbose rest)
    | cs =>
      let (most, cs) ← countAt verbose cs
      match cs with
      | '\x7d' :: rest =>
        if least ≤ most then return ((least, some most), skip verbose rest) else none
      | _ => none
  | _ => none

def Flag.ofChar? : Char → Option Flag
  | 'i' => some .anyCase
  | 'm' => some .multiLine
  | 's' => some .dotAll
  | 'U' => some .swapGreed
  | 'u' => some .unicode
  | 'R' => some .crlf
  | 'x' => some .verbose
  | _ => none

/-- Flags up to a colon or a closing parenthesis. Each may be named once, and a dash has flags after it. -/
def flagsAt (f : FlagChange) (minus dangling : Bool) : Chars → Option (FlagChange × Chars)
  | [] => none
  | c :: rest =>
    if c = ':' ∨ c = ')' then (if dangling then none else some (f, c :: rest))
    else if c = '-' then (if minus then none else flagsAt f true true rest)
    else
      match Flag.ofChar? c with
      | none => none
      | some flag =>
        if flag ∈ f.on ++ f.off then none
        else if minus then flagsAt { f with off := flag :: f.off } true false rest
        else flagsAt { f with on := flag :: f.on } false false rest

def isNameStart (c : Char) : Bool := c = '_' || CharSet.alphabetic.has c

def isNameChar (c : Char) : Bool :=
  isNameStart c || c ∈ ['.', '[', ']'] || (CharSet.categories (Text.Category.ofGroup "N")).has c

def nameAt (cs : Chars) : Option (String × Chars) :=
  let name := cs.takeWhile (· ≠ '>')
  match name, cs.drop name.length with
  | c :: more, _ :: rest =>
    if isNameStart c && more.all isNameChar then some (String.ofList name, rest) else none
  | _, _ => none

inductive Opening where
  | group (f : FlagChange) (name : Option String)
  | flags (f : FlagChange)

/-- An opening after its parenthesis. Nothing looks around, and there is no empty change of flags. -/
def groupAt (verbose : Bool) (cs : Chars) : Option (Opening × Chars) :=
  match skip verbose cs with
  | '?' :: 'P' :: '<' :: rest => (nameAt rest).map fun r => (.group {} (some r.1), r.2)
  | '?' :: '<' :: rest =>
    if rest.head? = some '=' ∨ rest.head? = some '!' then none
    else (nameAt rest).map fun r => (.group {} (some r.1), r.2)
  | '?' :: rest =>
    match flagsAt {} false false rest with
    | some (f, ')' :: rest) => if f = {} then none else some (.flags f, rest)
    | some (f, ':' :: rest) => some (.group f none, rest)
    | _ => none
  | cs => some (.group {} none, cs)

def FlagChange.verbose (f : FlagChange) (old : Bool) : Bool :=
  if .verbose ∈ f.on then true else if .verbose ∈ f.off then false else old

/-- What counts for what is still to be read: whether blanks do, and the names that are taken. -/
structure Reading where
  verbose : Bool := false
  names : List String := []

def repetitionAt (verbose : Bool) : Chars → Option ((Nat × Option Nat) × Chars)
  | '?' :: rest => some ((0, some 1), rest)
  | '*' :: rest => some ((0, none), rest)
  | '+' :: rest => some ((1, none), rest)
  | '\x7b' :: rest => boundsAt verbose rest
  | _ => none

def Tree.isPart : Tree → Bool
  | empty | flags _ => false
  | _ => true

def Piece.tree : Piece → Tree
  | letter l => .letter l
  | mark m => .mark m
  | set s => .set s

def partAt (verbose : Bool) (fuel : Nat) : Chars → Option (Tree × Chars)
  | '.' :: rest => some (.dot, rest)
  | '^' :: rest => some (.mark .lineStart, rest)
  | '$' :: rest => some (.mark .lineEnd, rest)
  | '[' :: rest => (bracketAt verbose fuel rest).map fun r => (.bracket r.1.1 r.1.2, r.2)
  | '\\' :: rest => (escapeAt verbose rest).map fun r => (r.1.tree, r.2)
  | c :: rest => some (.letter ⟨c, false⟩, rest)
  | [] => none

mutual

/-- One alternative, up to a bar, a closing parenthesis or the end; its parts stand last first. -/
def branchAt : Nat → Reading → List Tree → Chars → Option (Tree × Reading × Chars)
  | 0, _, _, _ => none
  | fuel + 1, r, parts, cs =>
    match skip r.verbose cs with
    | [] => some (.sequence parts.reverse, r, [])
    | '|' :: rest => some (.sequence parts.reverse, r, '|' :: rest)
    | ')' :: rest => some (.sequence parts.reverse, r, ')' :: rest)
    | '(' :: rest =>
      match groupAt r.verbose rest with
      | none => none
      | some (.flags f, rest) =>
        branchAt fuel { r with verbose := f.verbose r.verbose } (.flags f :: parts) rest
      | some (.group f name, rest) =>
        if name.any (r.names.contains ·) then none
        else
          match branchesAt fuel ⟨f.verbose r.verbose, name.toList ++ r.names⟩ rest with
          | some (t, inner, ')' :: rest) =>
            branchAt fuel { inner with verbose := r.verbose } (.group f t :: parts) rest
          | _ => none
    | cs =>
      if cs.head?.any (· ∈ ['?', '*', '+', '\x7b']) then
        match repetitionAt r.verbose cs, parts with
        | some (n, rest), t :: parts =>
          let rest := if rest.head? = some '?' then rest.drop 1 else rest
          if t.isPart then branchAt fuel r (.times t n.1 n.2 :: parts) rest else none
        | _, _ => none
      else
        match partAt r.verbose fuel cs with
        | some (t, rest) => branchAt fuel r (t :: parts) rest
        | none => none

/-- Alternatives with bars between them. -/
def branchesAt : Nat → Reading → Chars → Option (Tree × Reading × Chars)
  | 0, _, _ => none
  | fuel + 1, r, cs =>
    match branchAt fuel r [] cs with
    | some (t, r, '|' :: rest) =>
      (branchesAt fuel r rest).map fun b => (.alt t b.1, b.2)
    | other => other

end

/-- How deep the parts of a pattern may stand in each other. -/
def deepest : Nat := 250

def read (text : String) : Option Tree :=
  let cs := text.toList
  match branchesAt (2 * cs.length + 2) {} cs with
  | some (t, _, []) => if t.depth ≤ deepest then some t else none
  | _ => none

end QueueProbe.Pattern
