import QueueProbe.Pattern.Basic

/-! Patterns as they are written, before flags have told what their parts mean. -/

namespace QueueProbe.Pattern

inductive Flag where
  | anyCase
  | multiLine
  | dotAll
  | swapGreed
  | unicode
  | crlf
  | verbose
deriving DecidableEq, Repr

/-- Flags to switch on and to switch off. -/
structure FlagChange where
  on : List Flag := []
  off : List Flag := []
deriving DecidableEq, Repr

/-- A single character; a byte if it is written as two hexadecimal digits. -/
structure Letter where
  char : Char
  isByte : Bool := false
deriving DecidableEq, Repr

inductive Shorthand where
  | digit
  | blank
  | letter
deriving DecidableEq, Repr

inductive NamedSet where
  | alnum | alpha | ascii | blank | cntrl | digit | graph
  | lower | print | punct | space | upper | word | xdigit
deriving DecidableEq, Repr

inductive SetOp where
  | inter
  | minus
  | either
deriving DecidableEq, Repr

inductive SetTree where
  | empty
  | letter (l : Letter)
  | range (first last : Letter)
  | named (negated : Bool) (name : NamedSet)
  | shorthand (negated : Bool) (kind : Shorthand)
  /-- A property by its name, or a name and one of its values. -/
  | property (negated : Bool) (name : String) (value : Option String)
  | bracketed (negated : Bool) (body : SetTree)
  | union (a b : SetTree)
  | op (o : SetOp) (a b : SetTree)
deriving DecidableEq, Repr

/-- Edges; the flags say what a line is and which words count. -/
inductive Mark where
  | lineStart
  | lineEnd
  | textStart
  | textEnd
  | word (edge : WordEdge)
deriving DecidableEq, Repr

inductive Tree where
  | empty
  | flags (f : FlagChange)
  | letter (l : Letter)
  | dot
  | mark (m : Mark)
  /-- A set without brackets around it. -/
  | set (s : SetTree)
  | bracket (negated : Bool) (body : SetTree)
  | times (t : Tree) (least : Nat) (most : Option Nat)
  | group (f : FlagChange) (t : Tree)
  | seq (a b : Tree)
  | alt (a b : Tree)
deriving DecidableEq, Repr

namespace SetTree

/-- How deep brackets, unions and operations stand in each other; a row of unions counts once. -/
def depth : SetTree → Nat
  | bracketed _ body => body.depth + 1
  | op _ a b => max a.depth b.depth + 1
  | union a b =>
    match b with
    | union _ _ => max (a.depth + 1) b.depth
    | _ => max a.depth b.depth + 1
  | _ => 0

def unions : List SetTree → SetTree
  | [] => empty
  | [s] => s
  | s :: more => union s (unions more)

end SetTree

namespace Tree

/-- How deep the parts of a pattern stand in each other; a row of parts, or of alternatives, counts
once. -/
def depth : Tree → Nat
  | bracket _ body => body.depth + 1
  | times t _ _ => t.depth + 1
  | group _ t => t.depth + 1
  | seq a b =>
    match b with
    | seq _ _ => max (a.depth + 1) b.depth
    | _ => max a.depth b.depth + 1
  | alt a b =>
    match b with
    | alt _ _ => max (a.depth + 1) b.depth
    | _ => max a.depth b.depth + 1
  | _ => 0

def sequence : List Tree → Tree
  | [] => empty
  | [t] => t
  | t :: more => seq t (sequence more)

end Tree
end QueueProbe.Pattern
