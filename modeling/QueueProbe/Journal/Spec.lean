import QueueProbe.Journal.Level
import QueueProbe.Pattern.Matching
import QueueProbe.Pattern.Meaning

/-! Which records are wanted. A specification is a list of parts with commas between them: a level
for everything, a target at a level, or a bare target at the finest level. The longest target that
a record's target starts with decides; after a slash may stand a pattern that has to match somewhere
in the text of a record. -/

namespace QueueProbe

/-- One part of a specification; the part for everything has no target. -/
structure LogFilter where
  target : Option String
  /-- The finest level that passes; nothing does if absent. -/
  level : Option Level
deriving DecidableEq, Repr

structure LogSpec where
  filters : List LogFilter
  pattern : Option Pattern := none
deriving DecidableEq, Repr

namespace Level

def all : List Level := [error, warn, info, debug, trace]

/-- A level by its name in any case, or the word for none. -/
def ofName? (s : String) : Option (Option Level) :=
  if Text.lowerAscii s = "off" then some none
  else (all.find? fun l => Text.lowerAscii l.name = Text.lowerAscii s).map some

def passes (l : Level) : Option Level → Bool
  | some finest => l.rank ≤ finest.rank
  | none => false

end Level

namespace LogFilter

def hasBlank (s : String) : Bool := s.toList.any Text.isBlank

def ofPart? (part : String) : Option LogFilter :=
  match (Text.splitChars '=' part.toList).map fun p => Text.trim (String.ofList p) with
  | [word] =>
    if hasBlank word then none
    else match Level.ofName? word with
      | some level => some ⟨none, level⟩
      | none => some ⟨some word, some .trace⟩
  | [target, word] =>
    if hasBlank target then none
    else if word = "" then some ⟨some target, some .trace⟩
    else (Level.ofName? word).map (⟨some target, ·⟩)
  | _ => none

def length (f : LogFilter) : Nat := (f.target.map String.utf8ByteSize).getD 0

def covers (f : LogFilter) (target : String) : Bool :=
  match f.target with
  | some start => target.startsWith start
  | none => true

/-- Keeps longer targets in front, and those of one length in their order. -/
def place (f : LogFilter) : List LogFilter → List LogFilter
  | [] => [f]
  | g :: rest => if g.length < f.length then f :: g :: rest else g :: place f rest

end LogFilter

namespace LogSpec

def filtersOf (s : List Char) : Option (List LogFilter) := do
  let parts := (Text.splitChars ',' s).map fun p => Text.trim (String.ofList p)
  let filters ← (parts.filter (· ≠ "")).mapM LogFilter.ofPart?
  return filters.foldl (fun sorted f => f.place sorted) []

/-- None if a part or the pattern makes no sense, or if there is a second slash. -/
def ofText? (s : String) : Option LogSpec :=
  match Text.splitChars '/' s.toList with
  | [parts] => (filtersOf parts).map ({ filters := · })
  | [parts, text] => do
    return ⟨← filtersOf parts, some (← Pattern.ofText? (String.ofList text))⟩
  | _ => none

def wants (s : LogSpec) (l : Level) (target text : String) : Bool :=
  (match s.filters.find? (·.covers target) with
    | some f => l.passes f.level
    | none => false) &&
  s.pattern.all (·.occursIn text)

end LogSpec
end QueueProbe
