import QueueProbe.Pattern.Property
import QueueProbe.Pattern.Reader
import QueueProbe.Pattern.Size

/-! What a written pattern means. Flags hold from where they are set to the end of their group. Without
Unicode a pattern knows the basic alphabet only, and no set of it may reach beyond. -/

namespace QueueProbe.Pattern

structure Flags where
  anyCase : Bool := false
  multiLine : Bool := false
  dotAll : Bool := false
  unicode : Bool := true
  crlf : Bool := false
deriving DecidableEq, Repr

namespace Flags

/-- Whether blanks count, and how much a repetition takes if it can, makes no difference here. -/
def set (value : Bool) (fs : Flags) : Flag → Flags
  | .anyCase => { fs with anyCase := value }
  | .multiLine => { fs with multiLine := value }
  | .dotAll => { fs with dotAll := value }
  | .unicode => { fs with unicode := value }
  | .crlf => { fs with crlf := value }
  | .swapGreed | .verbose => fs

def change (fs : Flags) (f : FlagChange) : Flags :=
  f.off.foldl (set false) (f.on.foldl (set true) fs)

/-- A set without regard to case, if the flags say so. -/
def cased (fs : Flags) (s : CharSet) : CharSet :=
  if !fs.anyCase then s else if fs.unicode then .anyCase s else .anyBasicCase s

/-- The set or what is outside of it; without Unicode nothing is said of what is outside. -/
def signed (fs : Flags) (negated : Bool) (s : CharSet) : Option CharSet :=
  if !negated then some s else if fs.unicode then some (.compl s) else none

end Flags

def NamedSet.chars : NamedSet → CharSet
  | alnum => CharSet.ofRanges [('0', '9'), ('A', 'Z'), ('a', 'z')]
  | alpha => CharSet.ofRanges [('A', 'Z'), ('a', 'z')]
  | ascii => .range '\x00' '\x7f'
  | blank => CharSet.ofRanges [('\t', '\t'), (' ', ' ')]
  | cntrl => CharSet.ofRanges [('\x00', '\x1f'), ('\x7f', '\x7f')]
  | digit => CharSet.basicDigits
  | graph => .range '!' '~'
  | lower => .range 'a' 'z'
  | print => .range ' ' '~'
  | punct => CharSet.ofRanges [('!', '/'), (':', '@'), ('[', '\x60'), ('\x7b', '~')]
  | space => CharSet.basicBlanks
  | upper => .range 'A' 'Z'
  | word => CharSet.basicLetters
  | xdigit => CharSet.ofRanges [('0', '9'), ('A', 'F'), ('a', 'f')]

def Shorthand.chars (unicode : Bool) : Shorthand → CharSet
  | digit => if unicode then .digits else .basicDigits
  | blank => if unicode then .blanks else .basicBlanks
  | letter => if unicode then .letters else .basicLetters

def SetOp.apply (a b : CharSet) : SetOp → CharSet
  | inter => .inter a b
  | minus => .inter a (.compl b)
  | either => .union (.inter a (.compl b)) (.inter b (.compl a))

def Letter.member (l : Letter) (fs : Flags) : Option Char :=
  if fs.unicode || l.char.toNat < 0x80 then some l.char else none

def SetTree.chars (fs : Flags) : SetTree → Option CharSet
  | empty => some .empty
  | letter l => (l.member fs).map .single
  | range a b => do return .range (← a.member fs) (← b.member fs)
  | named negated name => fs.signed negated (fs.cased name.chars)
  | shorthand negated kind => fs.signed negated (kind.chars fs.unicode)
  | property negated name value => do
    if !fs.unicode then none
    fs.signed negated (fs.cased (← propertySet? name value))
  | bracketed negated body => do fs.signed negated (fs.cased (← body.chars fs))
  | union a b => do return .union (← a.chars fs) (← b.chars fs)
  | op o a b => do return o.apply (fs.cased (← a.chars fs)) (fs.cased (← b.chars fs))

def Mark.edge (fs : Flags) : Mark → Edge
  | lineStart => if fs.multiLine then .lineStart fs.crlf else .textStart
  | lineEnd => if fs.multiLine then .lineEnd fs.crlf else .textEnd
  | textStart => .textStart
  | textEnd => .textEnd
  | word edge => .word edge (if fs.unicode then .letters else .basicLetters)

/-- Any character that does not end a line. -/
def Flags.dot (fs : Flags) : Option CharSet :=
  if !fs.unicode then none
  else if fs.dotAll then some .all
  else if fs.crlf then some (.compl (CharSet.ofRanges [('\n', '\n'), ('\r', '\r')]))
  else some (.compl (.single '\n'))

/-- A letter alone. A byte beyond the basic alphabet is no character. -/
def Letter.chars (l : Letter) (fs : Flags) : Option CharSet :=
  if l.char.toNat < 0x80 || fs.unicode then some (fs.cased (.single l.char))
  else if l.isByte then none
  else some (.single l.char)

def Tree.meaning (fs : Flags) : Tree → Option (Pattern × Flags)
  | empty => some (.empty, fs)
  | flags f => some (.empty, fs.change f)
  | letter l => (l.chars fs).map fun s => (.char s, fs)
  | dot => fs.dot.map fun s => (.char s, fs)
  | mark m => some (.edge (m.edge fs), fs)
  | set s => (s.chars fs).map fun s => (.char s, fs)
  | bracket negated body => do
    return (.char (← fs.signed negated (fs.cased (← body.chars fs))), fs)
  | times t least most => (t.meaning fs).map fun r => (.times r.1 least most, r.2)
  | group f t => (t.meaning (fs.change f)).map fun r => (r.1, fs)
  | seq a b => do
    let (p, fs) ← a.meaning fs
    let (q, fs) ← b.meaning fs
    return (.seq p q, fs)
  | alt a b => do
    let (p, fs) ← a.meaning fs
    let (q, fs) ← b.meaning fs
    return (.alt p q, fs)

/-- The pattern of a text; none if it is not well written, means nothing, or is too large. -/
def ofText? (text : String) : Option Pattern := do
  let t ← read text
  let (p, _) ← t.meaning {}
  if p.size ≤ largest then return p else none

end QueueProbe.Pattern
