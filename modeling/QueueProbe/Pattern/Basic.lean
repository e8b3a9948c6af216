import QueueProbe.Text.Case
import QueueProbe.Text.Category
import QueueProbe.Text.Script

/-! Patterns of text: what they are made of. A set of characters stands for one of them, an edge for a
place between two. -/

namespace QueueProbe

open Text

inductive CharSet where
  | empty
  | range (first last : Char)
  | categories (cs : List Category)
  | script (code : String)
  | blanks
  | union (a b : CharSet)
  | inter (a b : CharSet)
  | compl (a : CharSet)
  /-- With every character that differs from one of the set only in case. -/
  | anyCase (a : CharSet)
  /-- The same for the letters of the basic alphabet alone. -/
  | anyBasicCase (a : CharSet)
deriving DecidableEq, Repr

namespace CharSet

def has (c : Char) : CharSet → Bool
  | empty => false
  | range first last => first ≤ c && c ≤ last
  | categories cs => cs.contains (Category.of c)
  | script code => Script.of c == some code
  | blanks => isBlank c
  | union a b => a.has c || b.has c
  | inter a b => a.has c && b.has c
  | compl a => !a.has c
  | anyCase a => (caseFamily c).any fun d => a.has d
  | anyBasicCase a => a.has c || a.has c.toLower || a.has c.toUpper

def single (c : Char) : CharSet := range c c

def all : CharSet := compl empty

def ofRanges (ranges : List (Char × Char)) : CharSet :=
  ranges.foldr (fun r s => union (range r.1 r.2) s) empty

def digits : CharSet := categories [.decimalDigit]

/-- Letters, numbers that are letters, and letters in circles and squares. -/
def alphabetic : CharSet :=
  union (categories (.letterNumber :: Category.ofGroup "L"))
    (ofRanges [('Ⓐ', 'ⓩ'), ('🄰', '🅉'), ('🅐', '🅩'), ('🅰', '🆉')])

/-- The characters that words are made of: letters, marks, digits, connectors and joiners. -/
def letters : CharSet :=
  union alphabetic (union (categories (.decimalDigit :: .connector :: Category.ofGroup "M"))
    (range '\u200c' '\u200d'))

def basicDigits : CharSet := range '0' '9'

def basicBlanks : CharSet := ofRanges [('\t', '\r'), (' ', ' ')]

def basicLetters : CharSet := ofRanges [('A', 'Z'), ('a', 'z'), ('0', '9'), ('_', '_')]

end CharSet

/-- What a place has to be with respect to the words around it. -/
inductive WordEdge where
  | boundary
  | inside
  | start
  | finish
  /-- Not after a word character. -/
  | startHalf
  /-- Not before a word character. -/
  | finishHalf
deriving DecidableEq, Repr

inductive Edge where
  | textStart
  | textEnd
  /-- Lines end with a line feed, and if `crlf` with a carriage return or both in a row too. -/
  | lineStart (crlf : Bool)
  | lineEnd (crlf : Bool)
  | word (edge : WordEdge) (letters : CharSet)
deriving DecidableEq, Repr

inductive Pattern where
  | empty
  | char (s : CharSet)
  | edge (e : Edge)
  | seq (a b : Pattern)
  | alt (a b : Pattern)
  /-- At least `least` in a row, and no more than `most`. -/
  | times (p : Pattern) (least : Nat) (most : Option Nat)
deriving DecidableEq, Repr

end QueueProbe
