import QueueProbe.Table
import QueueProbe.Toml.Scalar

/-! TOML documents: statements, and the tables they build. A table remembers how it came about,
because that decides what may still be added to it: a header opens a table once, a dotted key adds
only to tables that dotted keys made, and an inline table is complete. -/

namespace QueueProbe.Toml

inductive Origin where
  | header
  /-- On the way to a table that a header names. -/
  | passage
  | dotted
  | inline
deriving DecidableEq, Repr

inductive Value where
  | string (s : String)
  | scalar (s : Scalar)
  | array (items : List Value)
  | table (origin : Origin) (entries : List (String × Value))
  /-- Tables that headers in double brackets add one after another. -/
  | tables (items : List (List (String × Value)))
deriving Inhabited

abbrev Entries := Table String Value

/-- Adds a value under a key of one or more parts. Only dotted keys may have made the table that the
value goes into, the one that `es` itself stands for aside. -/
def insert (v : Value) : List String → Origin → Entries → Option Entries
  | [], _, _ => none
  | [k], origin, es =>
    if origin = .dotted ∧ (es.get? k).isNone then some (es ++ [(k, v)]) else none
  | k :: rest, _, es =>
    match es.get? k with
    | none => (insert v rest .dotted []).map fun t => es.set k (.table .dotted t)
    | some (.table .dotted t) =>
      (insert v rest .dotted t).map fun t => es.set k (.table .dotted t)
    | some (.table .passage t) =>
      (insert v rest .passage t).map fun t => es.set k (.table .passage t)
    | some _ => none

def openTable : List String → Entries → Option Entries
  | [], _ => none
  | [k], es =>
    match es.get? k with
    | none => some (es.set k (.table .header []))
    | some (.table .passage t) => some (es.set k (.table .header t))
    | some _ => none
  | k :: rest, es =>
    match es.get? k with
    | none => (openTable rest []).map fun t => es.set k (.table .passage t)
    | some (.table .inline _) => none
    | some (.table origin t) => (openTable rest t).map fun t => es.set k (.table origin t)
    | some (.tables ts) =>
      match ts.getLast? with
      | some t => (openTable rest t).map fun t => es.set k (.tables (ts.dropLast ++ [t]))
      | none => none
    | some _ => none

def addTable : List String → Entries → Option Entries
  | [], _ => none
  | [k], es =>
    match es.get? k with
    | none => some (es.set k (.tables [[]]))
    | some (.tables ts) => some (es.set k (.tables (ts ++ [[]])))
    | some _ => none
  | k :: rest, es =>
    match es.get? k with
    | none => (addTable rest []).map fun t => es.set k (.table .passage t)
    | some (.table .inline _) => none
    | some (.table origin t) => (addTable rest t).map fun t => es.set k (.table origin t)
    | some (.tables ts) =>
      match ts.getLast? with
      | some t => (addTable rest t).map fun t => es.set k (.tables (ts.dropLast ++ [t]))
      | none => none
    | some _ => none

/-- Changes the table at a path that headers have opened. -/
def within (f : Entries → Option Entries) : List String → Entries → Option Entries
  | [], es => f es
  | k :: rest, es =>
    match es.get? k with
    | some (.table origin t) => (within f rest t).map fun t => es.set k (.table origin t)
    | some (.tables ts) =>
      match ts.getLast? with
      | some t => (within f rest t).map fun t => es.set k (.tables (ts.dropLast ++ [t]))
      | none => none
    | _ => none

mutual

/-- A value that may have `room` arrays and tables in each other. -/
def valueAt : Nat → Nat → Reads Value
  | 0, _, _ => none
  | fuel + 1, room, cs =>
    match cs, room with
    | '[' :: rest, room + 1 =>
      (itemsAt fuel room (skipAll rest)).map fun r => (.array r.1, r.2)
    | '\x7b' :: rest, room + 1 =>
      (entriesAt fuel room [] (skipAll rest)).map fun r => (.table .inline r.1, r.2)
    | '"' :: _, _ | '\'' :: _, _ => (stringAt true cs).map fun r => (.string r.1, r.2)
    | _, _ => (scalarAt cs).map fun r => (.scalar r.1, r.2)

def itemsAt : Nat → Nat → Reads (List Value)
  | 0, _, _ => none
  | fuel + 1, room, cs =>
    match cs with
    | ']' :: rest => some ([], rest)
    | _ =>
      match valueAt fuel room cs with
      | none => none
      | some (v, rest) =>
        match skipAll rest with
        | ',' :: more => (itemsAt fuel room (skipAll more)).map fun r => (v :: r.1, r.2)
        | ']' :: more => some ([v], more)
        | _ => none

/-- The entries of an inline table up to its closing brace, added to `es`. Lines may end wherever
blanks may stand, except within a key. -/
def entriesAt : Nat → Nat → Entries → Reads Entries
  | 0, _, _, _ => none
  | fuel + 1, room, es, cs =>
    match cs with
    | '\x7d' :: rest => some (es, rest)
    | _ =>
      match (key cs).map fun r => (r.1, skipAll r.2) with
      | some (path, '=' :: more) =>
        match valueAt fuel room (skipAll more) with
        | none => none
        | some (v, rest) =>
          match insert v path .dotted es with
          | none => none
          | some es =>
            match skipAll rest with
            | ',' :: more => entriesAt fuel room es (skipAll more)
            | '\x7d' :: more => some (es, more)
            | _ => none
      | _ => none

end

inductive Statement where
  | pair (path : List String) (v : Value)
  | header (path : List String)
  | listHeader (path : List String)

def statementAt (cs : Chars) : Option (Statement × Chars) :=
  match cs with
  | '[' :: '[' :: rest =>
    match key rest with
    | some (path, ']' :: ']' :: more) => some (.listHeader path, more)
    | _ => none
  | '[' :: rest =>
    match key rest with
    | some (path, ']' :: more) => some (.header path, more)
    | _ => none
  | _ =>
    match key cs with
    | some (path, '=' :: more) =>
      (valueAt (cs.length + 1) depthLimit (skipGap more)).map fun r => (.pair path r.1, r.2)
    | _ => none

def statements : Nat → Chars → Option (List Statement)
  | 0, _ => none
  | fuel + 1, cs =>
    match skipAll cs with
    | [] => some []
    | start =>
      match statementAt start with
      | none => none
      | some (s, rest) =>
        match skipComment (skipGap rest) with
        | [] => some [s]
        | more =>
          match newline? more with
          | some next => (statements fuel next).map (s :: ·)
          | none => none

/-- The document so far, and the path of the table that pairs go into. -/
def apply (d : Entries × List String) : Statement → Option (Entries × List String)
  | .pair path v => (within (insert v path .dotted) d.2 d.1).map (·, d.2)
  | .header path => (openTable path d.1).map (·, path)
  | .listHeader path => (addTable path d.1).map (·, path)

/-- The entries of a document; a mark of byte order may stand before it. -/
def parse (s : String) : Option Entries :=
  let cs := match s.toList with
    | '\ufeff' :: rest => rest
    | cs => cs
  match statements (cs.length + 1) cs with
  | some ss => (ss.foldlM apply ([], [])).map (·.1)
  | none => none

end QueueProbe.Toml
