import QueueProbe.Pattern.Escape

/-! Sets of characters in brackets: letters, ranges of them, sets with a name, sets in sets, and
operations on them. -/

namespace QueueProbe.Pattern

def NamedSet.names : List (String × NamedSet) := [
  ("alnum", .alnum), ("alpha", .alpha), ("ascii", .ascii), ("blank", .blank), ("cntrl", .cntrl),
  ("digit", .digit), ("graph", .graph), ("lower", .lower), ("print", .print), ("punct", .punct),
  ("space", .space), ("upper", .upper), ("word", .word), ("xdigit", .xdigit)]

/-- A named set after its opening bracket: a colon, a name and a colon with a bracket. -/
def namedAt : Chars → Option (SetTree × Chars)
  | ':' :: rest =>
    let negated := rest.head? = some '^'
    let cs := if negated then rest.drop 1 else rest
    let name := cs.takeWhile (· ≠ ':')
    match cs.drop name.length, NamedSet.names.find? (·.1.toList = name) with
    | ':' :: ']' :: rest, some (_, s) => some (.named negated s, rest)
    | _, _ => none
  | _ => none

def memberAt (verbose : Bool) : Chars → Option (Piece × Chars)
  | '\\' :: rest => escapeAt verbose rest
  | c :: rest => some (.letter ⟨c, false⟩, rest)
  | [] => none

def rangeAt (verbose : Bool) (cs : Chars) : Option (SetTree × Chars) := do
  let (first, cs) ← memberAt verbose cs
  let alone : Option SetTree := match first with
    | .letter l => some (.letter l)
    | .set s => some s
    | .mark _ => none
  match skip verbose cs with
  | [] => none
  | '-' :: rest =>
    let more := skip verbose rest
    if more.head? = some ']' ∨ more.head? = some '-' then return (← alone, '-' :: rest)
    let (last, cs) ← memberAt verbose more
    match first, last with
    | .letter a, .letter b => if a.char ≤ b.char then return (.range a b, cs) else none
    | _, _ => none
  | cs => return (← alone, cs)

/-- The members read so far as the right side of the operation that is still open. -/
def settled (pending : Option (SetTree × SetOp)) (members : List SetTree) : SetTree :=
  let s := SetTree.unions members.reverse
  match pending with
  | some (left, o) => .op o left s
  | none => s

def dashes (verbose : Bool) (cs : Chars) : List SetTree × Chars :=
  let r := run verbose (· = '-') cs.length cs
  (r.1.map fun c => .letter ⟨c, false⟩, r.2)

/-- The opening of a set after its bracket: whether it is negated, and what in it stands for itself
although it means something elsewhere. -/
def openingAt (verbose : Bool) (cs : Chars) : Bool × List SetTree × Chars :=
  let cs := skip verbose cs
  let negated := cs.head? = some '^'
  let r := dashes verbose (if negated then skip verbose (cs.drop 1) else cs)
  match r.1, r.2 with
  | [], ']' :: rest => (negated, [.letter ⟨']', false⟩], skip verbose rest)
  | members, rest => (negated, members, rest)

mutual

def bracketAt (verbose : Bool) : Nat → Chars → Option ((Bool × SetTree) × Chars)
  | 0, _ => none
  | fuel + 1, cs =>
    let r := openingAt verbose cs
    (membersAt verbose fuel none r.2.1 r.2.2).map fun b => ((r.1, b.1), b.2)

/-- The members of a set up to its closing bracket; those read so far stand last first. Operations
are done from left to right. -/
def membersAt (verbose : Bool) :
    Nat → Option (SetTree × SetOp) → List SetTree → Chars → Option (SetTree × Chars)
  | 0, _, _, _ => none
  | fuel + 1, pending, members, cs =>
    match skip verbose cs with
    | ']' :: rest => some (settled pending members, rest)
    | '[' :: rest =>
      match namedAt rest with
      | some (s, rest) => membersAt verbose fuel pending (s :: members) rest
      | none =>
        match bracketAt verbose fuel rest with
        | some (b, rest) =>
          membersAt verbose fuel pending (.bracketed b.1 b.2 :: members) rest
        | none => none
    | '&' :: '&' :: rest => membersAt verbose fuel (some (settled pending members, .inter)) [] rest
    | '-' :: '-' :: rest => membersAt verbose fuel (some (settled pending members, .minus)) [] rest
    | '~' :: '~' :: rest => membersAt verbose fuel (some (settled pending members, .either)) [] rest
    | cs =>
      match rangeAt verbose cs with
      | some (s, rest) => membersAt verbose fuel pending (s :: members) rest
      | none => none

end

end QueueProbe.Pattern
