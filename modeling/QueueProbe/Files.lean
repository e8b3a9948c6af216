import QueueProbe.Table
import QueueProbe.Text.Blank
import QueueProbe.Text.Utf8

/-! Files: a tree given by the places of its entries, and paths that are walked from a place. Every
piece of a path needs a directory to stand in, an empty piece and a dot too. -/

namespace QueueProbe

abbrev Place := List String

inductive FileEntry where
  | directory
  | file (content : Bytes)
deriving DecidableEq, Repr

structure FileTree where
  entries : Table Place FileEntry := []
deriving Repr

namespace FileTree

/-- The top is always a directory. -/
def at? (t : FileTree) (p : Place) : Option FileEntry :=
  if p = [] then some .directory else t.entries.get? p

def isDirectory (t : FileTree) (p : Place) : Bool := t.at? p == some .directory

def put (t : FileTree) (p : Place) (e : FileEntry) : FileTree := ⟨t.entries.set p e⟩

def make (t : FileTree) (p : Place) : FileTree :=
  if (t.at? p).isSome then t else t.put p .directory

def add (t : FileTree) (p : Place) (e : FileEntry) : FileTree :=
  ((List.range p.length).foldl (fun t n => t.make (p.take n)) t).put p e

def pieces (path : String) : List String :=
  (Text.splitChars '/' path.toList).map String.ofList

def step (t : FileTree) (p : Place) (piece : String) : Option Place :=
  if !t.isDirectory p then none
  else if piece = "" ∨ piece = "." then some p
  else if piece = ".." then some p.dropLast
  else if (t.at? (p ++ [piece])).isSome then some (p ++ [piece])
  else none

/-- Where the walk of a path starts. -/
def origin (here : Place) (path : String) : Place := if path.startsWith "/" then [] else here

/-- The entry that a path leads to; an empty path leads nowhere. -/
def find? (t : FileTree) (here : Place) (path : String) : Option (Place × FileEntry) :=
  if path = "" then none
  else do
    let p ← (pieces path).foldlM t.step (origin here path)
    return (p, ← t.at? p)

/-- A step into a directory that is made if it is missing. -/
def enter (s : FileTree × Place) (piece : String) : Option (FileTree × Place) :=
  let t := if s.1.isDirectory s.2 ∧ piece ≠ "" ∧ piece ≠ "." ∧ piece ≠ ".." then
      s.1.make (s.2 ++ [piece])
    else s.1
  (t.step s.2 piece).map (t, ·)

/-- More bytes for the file of a name in the directory that `way` leads to. -/
def append (t : FileTree) (start : Place) (way : List String) (name : String) (bs : Bytes) :
    Option FileTree := do
  let (t, p) ← way.foldlM enter (t, start)
  match t.isDirectory p, t.at? (p ++ [name]) with
  | true, none => return t.put (p ++ [name]) (.file bs)
  | true, some (.file old) => return t.put (p ++ [name]) (.file (old ++ bs))
  | _, _ => none

def filesIn (t : FileTree) (here : Place) : List (String × Bytes) :=
  t.entries.filterMap fun e =>
    match e with
    | (p, .file bs) => if p.dropLast = here then p.getLast?.map (·, bs) else none
    | _ => none

end FileTree
end QueueProbe
