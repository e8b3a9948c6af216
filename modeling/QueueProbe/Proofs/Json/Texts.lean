import QueueProbe.Json.Shape
import QueueProbe.Proofs.Json.Numerals

/-! What is read of a value as it is written. A value in a text ends where its own text ends, whatever
comes after it, as long as a numeral is not gone on with. So arrays and objects are read item by item, and
the fuel that a text brings along is always enough. -/

namespace QueueProbe.Json

open Utf8

/-- The text of a value is read as a tree, and no further than it goes. -/
structure Reads (v : Value) (t : Tree) : Prop where
  begins : ∃ b bs, written v.render = b :: bs ∧ Tree.isSpace b = false ∧ b ≠ 0x5d
  read : ∀ fuel rest, 2 * (written v.render).length ≤ fuel + 1 → Ends rest →
    Tree.treeAt (fuel + 1) (written v.render ++ rest) = some (t, rest)

/-! How a text starts. -/

section Tokens

variable (fuel : Nat) (rest : Bytes)

theorem skipSpace_cons {b : UInt8} (h : Tree.isSpace b = false) : Tree.skipSpace (b :: rest) = b :: rest := by
  simp [Tree.skipSpace, h]

theorem word?_encode (word : String) : Tree.word? word (Utf8.encode word ++ rest) = some rest := by
  simp [Tree.word?]

theorem ne_of_isDigit {b : UInt8} (h : Tree.isDigit b = true) (x : UInt8) (hx : Tree.isDigit x = false) :
    b ≠ x := by
  rintro rfl
  rw [h] at hx
  cases hx

theorem not_isSpace_of_isDigit {b : UInt8} (h : Tree.isDigit b = true) : Tree.isSpace b = false := by
  have other := ne_of_isDigit h
  simp [Tree.isSpace, other 0x20 rfl, other 0x9 rfl, other 0xa rfl, other 0xd rfl]

theorem treeAt_digit {b : UInt8} (h : Tree.isDigit b = true) : Tree.treeAt (fuel + 1) (b :: rest) =
    (Tree.numeralAt false (b :: rest)).map fun r => (.number r.1, r.2) := by
  have other := ne_of_isDigit h
  rw [Tree.treeAt, skipSpace_cons _ (not_isSpace_of_isDigit h)]
  simp [h, other 0x22 rfl, other 0x5b rfl, other 0x7b rfl, other 0x2d rfl]

theorem treeAt_bracket {b : UInt8} (space : Tree.isSpace b = false) (filled : b ≠ 0x5d) :
    Tree.treeAt (fuel + 1) (0x5b :: b :: rest) =
      (Tree.itemsAt fuel (b :: rest)).map fun r => (.array r.1, r.2) := by
  rw [Tree.treeAt, skipSpace_cons _ rfl]
  simp [skipSpace_cons _ space, filled]

end Tokens

/-! Values of one token. -/

theorem reads_null : Reads .null .null where
  begins := ⟨_, _, rfl, rfl, by decide⟩
  read fuel rest _ _ := congrArg (Option.map fun r => (Tree.null, r)) (word?_encode rest "ull")

theorem reads_string (s : String) : Reads (.string s) (.string (some s)) where
  begins := ⟨_, _, written_quote s, rfl, by decide⟩
  read fuel rest _ _ := by
    have text : written (Value.string s).render = _ := written_quote s
    rw [text, List.cons_append, List.append_assoc]
    exact congrArg (Option.map fun r => (Tree.string r.1, r.2)) (stringAt_quote s rest)

theorem head_toDigits (n : Nat) : ∃ b bs, written (Nat.toDigits 10 n) = b :: bs ∧ Tree.isDigit b = true := by
  have text := written_toDigits n
  cases front : figures n with
  | nil => exact absurd (List.map_eq_nil_iff.1 front) Nat.toDigits_ne_nil
  | cons d ds =>
    rw [front] at text
    exact ⟨_, _, text, isDigit_figure d (figure_lt (front ▸ List.mem_cons_self))⟩

theorem reads_natural (n : Nat) : Reads (.number (.natural n)) (.number ⟨false, figures n, [], none⟩) where
  begins := by
    obtain ⟨b, bs, text, digit⟩ := head_toDigits n
    exact ⟨b, bs, text, not_isSpace_of_isDigit digit, ne_of_isDigit digit _ rfl⟩
  read fuel rest _ ends := by
    obtain ⟨b, bs, text, digit⟩ := head_toDigits n
    have numeral := numeralAt_toDigits ends false n
    show Tree.treeAt (fuel + 1) (written (Nat.toDigits 10 n) ++ rest) = _
    rw [text, List.cons_append] at numeral ⊢
    rw [treeAt_digit _ _ digit, numeral]
    rfl

theorem render_negative {n : Nat} (h : 0 < n) :
    (Value.number (.negative (-(n : Int)))).render = '-' :: Nat.toDigits 10 n := by
  obtain ⟨k, rfl⟩ : ∃ k, n = k + 1 := ⟨n - 1, by omega⟩
  show ("-" ++ toString (k + 1)).toList = _
  rw [String.toList_append, Nat.toString_eq_ofList_toDigits]
  exact congrArg (List.cons _) String.toList_ofList

theorem reads_negative {n : Nat} (h : 0 < n) :
    Reads (.number (.negative (-(n : Int)))) (.number ⟨true, figures n, [], none⟩) where
  begins := by
    rw [render_negative h]
    exact ⟨_, _, rfl, rfl, by decide⟩
  read fuel rest _ ends := by
    rw [render_negative h]
    exact congrArg (Option.map fun r => (Tree.number r.1, r.2)) (numeralAt_toDigits ends true n)

/-! Items and members. -/

theorem Reads.length_pos {v : Value} {t : Tree} (h : Reads v t) : 0 < (written v.render).length := by
  obtain ⟨b, bs, text, -⟩ := h.begins
  simp [text]

theorem written_items (v w : Value) (vs : List Value) : written (Value.renderItems (v :: w :: vs)) =
    written v.render ++ 0x2c :: written (Value.renderItems (w :: vs)) := by
  show written (v.render ++ [','] ++ Value.renderItems (w :: vs)) = _
  rw [List.append_assoc, written_append]
  rfl

theorem written_array (vs : List Value) :
    written (Value.array vs).render = 0x5b :: (written (Value.renderItems vs) ++ [0x5d]) :=
  written_append _ _

theorem reads_items {vs : List Value} {ts : List Tree} (all : List.Forall₂ Reads vs ts) (filled : vs ≠ [])
    (fuel : Nat) (rest : Bytes) (enough : 2 * (written (Value.renderItems vs)).length < fuel) :
    Tree.itemsAt fuel (written (Value.renderItems vs) ++ 0x5d :: rest) = some (ts, rest) := by
  induction all generalizing fuel with
  | nil => exact absurd rfl filled
  | @cons v t vs ts one all ih =>
    have pos := one.length_pos
    cases all with
    | nil =>
      have text : written (Value.renderItems [v]) = written v.render := rfl
      rw [text] at enough ⊢
      obtain ⟨fuel, rfl⟩ : ∃ k, fuel = k + 2 := ⟨fuel - 2, by omega⟩
      rw [Tree.itemsAt, one.read fuel _ (by omega) (ends_cons (by decide) _)]
      simp [skipSpace_cons (b := 0x5d) _ rfl]
    | @cons w u ws us next more =>
      rw [written_items, List.length_append, List.length_cons] at enough
      obtain ⟨fuel, rfl⟩ : ∃ k, fuel = k + 2 := ⟨fuel - 2, by omega⟩
      have after := ih (List.cons_ne_nil _ _) (fuel + 1) (by omega)
      rw [written_items, List.append_assoc, List.cons_append, Tree.itemsAt,
        one.read fuel _ (by omega) (ends_cons (by decide) _)]
      simp [skipSpace_cons (b := 0x2c) _ rfl, after]

theorem head_items {v : Value} {t : Tree} (h : Reads v t) (vs : List Value) :
    ∃ b bs, written (Value.renderItems (v :: vs)) = b :: bs ∧ Tree.isSpace b = false ∧ b ≠ 0x5d := by
  obtain ⟨b, bs, text, first⟩ := h.begins
  cases vs with
  | nil => exact ⟨b, bs, text, first⟩
  | cons w vs => exact ⟨b, _, by rw [written_items, text]; rfl, first⟩

theorem reads_array {vs : List Value} {ts : List Tree} (all : List.Forall₂ Reads vs ts) :
    Reads (.array vs) (.array ts) where
  begins := ⟨0x5b, _, rfl, rfl, by decide⟩
  read fuel rest enough _ := by
    rw [written_array] at enough ⊢
    rw [List.length_cons, List.length_append] at enough
    rw [List.cons_append, List.append_assoc]
    cases all with
    | nil => rfl
    | cons one more =>
      obtain ⟨b, bs, front, space, other⟩ := head_items one _
      have items := reads_items (.cons one more) (List.cons_ne_nil _ _) fuel rest (by omega)
      rw [front] at items ⊢
      exact (treeAt_bracket fuel _ space other).trans (congrArg _ items)

/-- The tree of a member is that of its name and that of its value. -/
def Member (m : String × Value) (e : Option String × Tree) : Prop := e.1 = some m.1 ∧ Reads m.2 e.2

theorem written_member (m : String × Value) : written (Value.renderMembers [m]) =
    0x22 :: (written (m.1.toList.flatMap Value.escapeChar) ++ 0x22 :: 0x3a :: written m.2.render) := by
  show written (Value.quote m.1 ++ [':'] ++ m.2.render) = _
  rw [List.append_assoc, written_append, written_quote, List.cons_append, List.append_assoc]
  rfl

theorem written_members (m n : String × Value) (ms : List (String × Value)) :
    written (Value.renderMembers (m :: n :: ms)) =
      written (Value.renderMembers [m]) ++ 0x2c :: written (Value.renderMembers (n :: ms)) := by
  show written (Value.renderMembers [m] ++ [','] ++ Value.renderMembers (n :: ms)) = _
  rw [List.append_assoc, written_append]
  rfl

theorem written_object (ms : List (String × Value)) :
    written (Value.object ms).render = 0x7b :: (written (Value.renderMembers ms) ++ [0x7d]) :=
  written_append _ _

theorem membersAt_member {m : String × Value} {e : Option String × Tree} (one : Member m e) {fuel : Nat}
    (enough : 2 * (written (Value.renderMembers [m])).length ≤ fuel + 1) {x : UInt8}
    (hx : x = 0x2c ∨ x = 0x7d) (more : Bytes) :
    Tree.membersAt (fuel + 2) (written (Value.renderMembers [m]) ++ x :: more) =
      if x = 0x2c then (Tree.membersAt (fuel + 1) more).map fun r => (e :: r.1, r.2)
      else some ([e], more) := by
  obtain ⟨key, t⟩ := e
  obtain ⟨rfl, value⟩ := one
  rw [written_member] at enough ⊢
  simp only [List.length_cons, List.length_append] at enough
  have ends : Ends (x :: more) := ends_cons (by rcases hx with rfl | rfl <;> decide) more
  have read := value.read fuel (x :: more) (by omega) ends
  rw [List.cons_append, List.append_assoc, List.cons_append, List.cons_append, Tree.membersAt,
    skipSpace_cons _ rfl]
  rcases hx with rfl | rfl
  · simp [stringAt_quote, skipSpace_cons (b := 0x3a) _ rfl, skipSpace_cons (b := 0x2c) _ rfl, read]
  · simp [stringAt_quote, skipSpace_cons (b := 0x3a) _ rfl, skipSpace_cons (b := 0x7d) _ rfl, read]

theorem reads_members {ms : List (String × Value)} {es : List (Option String × Tree)}
    (all : List.Forall₂ Member ms es) (filled : ms ≠ []) (fuel : Nat) (rest : Bytes)
    (enough : 2 * (written (Value.renderMembers ms)).length < fuel) :
    Tree.membersAt fuel (written (Value.renderMembers ms) ++ 0x7d :: rest) = some (es, rest) := by
  induction all generalizing fuel with
  | nil => exact absurd rfl filled
  | @cons m e ms es one all ih =>
    cases all with
    | nil =>
      have pos : 0 < (written (Value.renderMembers [m])).length := by simp [written_member]
      obtain ⟨fuel, rfl⟩ : ∃ k, fuel = k + 2 := ⟨fuel - 2, by omega⟩
      exact membersAt_member one (by omega) (.inr rfl) rest
    | @cons n f ns fs next more =>
      rw [written_members, List.length_append, List.length_cons] at enough
      obtain ⟨fuel, rfl⟩ : ∃ k, fuel = k + 2 := ⟨fuel - 2, by omega⟩
      have after := ih (List.cons_ne_nil _ _) (fuel + 1) (by omega)
      rw [written_members, List.append_assoc, List.cons_append, membersAt_member one (by omega) (.inl rfl),
        if_pos rfl, after]
      rfl

theorem head_members (m : String × Value) (ms : List (String × Value)) :
    ∃ bs, written (Value.renderMembers (m :: ms)) = 0x22 :: bs := by
  cases ms with
  | nil => exact ⟨_, written_member m⟩
  | cons n ms => exact ⟨_, by rw [written_members, written_member]; rfl⟩

theorem reads_object {ms : List (String × Value)} {es : List (Option String × Tree)}
    (all : List.Forall₂ Member ms es) : Reads (.object ms) (.object es) where
  begins := ⟨0x7b, _, rfl, rfl, by decide⟩
  read fuel rest enough _ := by
    rw [written_object] at enough ⊢
    rw [List.length_cons, List.length_append] at enough
    rw [List.cons_append, List.append_assoc]
    cases all with
    | nil => rfl
    | cons one more =>
      obtain ⟨bs, front⟩ := head_members _ _
      have members := reads_members (.cons one more) (List.cons_ne_nil _ _) fuel rest (by omega)
      rw [front] at members ⊢
      exact congrArg (Option.map fun r => (Tree.object r.1, r.2)) members

/-- Objects of strings are read member for member, with each string as it was. -/
theorem reads_strings (ms : List (String × String)) :
    Reads (.object (ms.map fun m => (m.1, .string m.2)))
      (.object (ms.map fun m => (some m.1, .string (some m.2)))) := by
  apply reads_object
  induction ms with
  | nil => exact .nil
  | cons m ms ih => exact .cons ⟨rfl, reads_string m.2⟩ ih

theorem Reads.parse {v : Value} {t : Tree} (h : Reads v t) : Tree.parse (written v.render) = some t := by
  have all := h.read (2 * (written v.render).length + 1) [] (by omega) ends_nil
  rw [List.append_nil] at all
  rw [Tree.parse, all]
  rfl

end QueueProbe.Json
