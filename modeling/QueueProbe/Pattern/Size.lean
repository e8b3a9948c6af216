import QueueProbe.Pattern.Basic

/-! How large the machine for a pattern is, in bytes: a state for each character it waits for, each
place where it can go two ways, and each copy of what is repeated. Sets of many characters are
estimated. -/

namespace QueueProbe

def stateSize : Nat := 32

def CharSet.room : CharSet → Nat
  | empty => 0
  | range _ last => if last.toNat < 0x80 then 8 else 160
  | categories cs => 6000 * cs.length
  | script _ => 1200
  | blanks => 480
  | union a b | inter a b => a.room + b.room
  | compl a => a.room + 300
  | anyCase a | anyBasicCase a => 2 * a.room

namespace Pattern

/-- The machine of a pattern. A place with two ways keeps both. -/
def size : Pattern → Nat
  | empty | edge _ => stateSize
  | char (.range first last) =>
    if first = last then stateSize * first.utf8Size else stateSize + (CharSet.range first last).room
  | char s => stateSize + s.room
  | seq a b => a.size + b.size
  | alt a b => a.size + b.size + 2 * stateSize
  | times p least none => max least 1 * p.size + 2 * stateSize
  | times p least (some most) => most * p.size + (most - least + 1) * stateSize

def largest : Nat := 10485760

end Pattern
end QueueProbe
