import QueueProbe.Pattern.Basic

/-! Where a pattern matches. From a list of places in a text a pattern leads to the places where a
match that started at one of them may end; no place is listed twice. -/

namespace QueueProbe

namespace WordEdge

def holds (before after : Bool) : WordEdge → Bool
  | boundary => before != after
  | inside => before == after
  | start => !before && after
  | finish => before && !after
  | startHalf => !before
  | finishHalf => !after

end WordEdge

namespace Edge

def holds (before after : Option Char) : Edge → Bool
  | textStart => before.isNone
  | textEnd => after.isNone
  | lineStart false => before.all (· = '\n')
  | lineEnd false => after.all (· = '\n')
  | lineStart true =>
    before.all fun c => c = '\n' || (c = '\r' && after != some '\n')
  | lineEnd true =>
    after.all fun c => c = '\r' || (c = '\n' && before != some '\r')
  | word edge letters => edge.holds (before.any letters.has) (after.any letters.has)

end Edge

namespace Pattern

/-- The places that are `as` and those of `bs` that are not. -/
def join (as bs : List Nat) : List Nat := as ++ bs.filter (!as.contains ·)

/-- All places that `step` leads to from `fresh` in up to `n` steps, added to those found. -/
def reach (step : List Nat → List Nat) : Nat → List Nat → List Nat → List Nat
  | 0, _, found => found
  | n + 1, fresh, found =>
    match (step fresh).filter (!found.contains ·) with
    | [] => found
    | more => reach step n more (found ++ more)

def before? (t : Array Char) (i : Nat) : Option Char := if i = 0 then none else t[i - 1]?

/-- A way through a text of `n` characters passes `n + 1` places at most; a match that is repeated
more often than that stays where it is at least once, so it may as well be repeated less. -/
def lead (t : Array Char) : Pattern → List Nat → List Nat
  | empty, places => places
  | char s, places => places.filterMap fun i => if t[i]?.any s.has then some (i + 1) else none
  | edge e, places => places.filter fun i => e.holds (before? t i) t[i]?
  | seq a b, places => lead t b (lead t a places)
  | alt a b, places => join (lead t a places) (lead t b places)
  | times p least most, places =>
    let enough := t.size + 1
    let start := (min least enough).repeat (lead t p) places
    reach (lead t p) (min ((most.map (· - least)).getD enough) enough) start start

def occursIn (p : Pattern) (text : String) : Bool :=
  let t := text.toList.toArray
  !(lead t p (List.range (t.size + 1))).isEmpty

end Pattern
end QueueProbe
