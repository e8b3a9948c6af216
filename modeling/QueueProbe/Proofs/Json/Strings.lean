import QueueProbe.Json.Value
import QueueProbe.Proofs.Text.Utf8

/-! Strings in quotes. What is written of a string reads as that string and nothing of it ends the quotes
too soon, whatever characters it has. None of those that JSON wants escaped stands there as it is. -/

namespace QueueProbe.Json

open Utf8

def lettered : List Char := ['"', '\\', '\x08', '\x0c', '\n', '\r', '\t']

def escapeUnit (n : Nat) : List Char := ['\\', 'u', '0', '0', Text.hexDigit (n / 16), Text.hexDigit (n % 16)]

/-- The pieces that one character is read as, once it is written. -/
def pieces (c : Char) : List Chunk :=
  if c.toNat < 0x20 ∧ c ∉ lettered then [.unit c.toNat] else (encodeChar c).map .byte

namespace Tree

section Chunks

variable {a b c d x : UInt8} {u : Nat}

theorem chunks_plain (low : 0x20 ≤ b) (quote : b ≠ 0x22) (slash : b ≠ 0x5c) (rest : Bytes) :
    chunks (b :: rest) = (chunks rest).map fun r => (.byte b :: r.1, r.2) := by
  have control : ¬ b < 0x20 := UInt8.not_lt.2 low
  rw [chunks.eq_def]
  split
  · next h => cases h
  · next h => exact absurd (List.cons.inj h).1 quote
  · next h => exact absurd (List.cons.inj h).1 slash
  · next h => exact absurd (List.cons.inj h).1 slash
  · next h =>
    cases h
    simp [control, slash]

theorem chunks_escape (h : escape? b = some x) (rest : Bytes) :
    chunks (0x5c :: b :: rest) = (chunks rest).map fun r => (.byte x :: r.1, r.2) := by
  have letter : b ≠ 0x75 := by
    rintro rfl
    cases h
  rw [chunks]
  · simp only [h]
  · rintro _ _ _ _ _ rfl _
    exact letter rfl

theorem chunks_unit (h : hex4 a b c d = some u) (rest : Bytes) :
    chunks (0x5c :: 0x75 :: a :: b :: c :: d :: rest) = (chunks rest).map fun r => (.unit u :: r.1, r.2) := by
  rw [chunks]
  simp only [h]

end Chunks

theorem hex4_control : ∀ n < 0x20, hex4 0x30 0x30 (byte (Text.hexDigit (n / 16)).toNat)
    (byte (Text.hexDigit (n % 16)).toNat) = some n := by
  decide

end Tree

theorem ascii_hexDigit : ∀ n < 16, 0x20 ≤ (Text.hexDigit n).toNat ∧ (Text.hexDigit n).toNat < 0x80 := by
  decide

theorem ascii_escapeUnit {n : Nat} (h : n < 0x20) {x : Char} (hx : x ∈ escapeUnit n) :
    0x20 ≤ x.toNat ∧ x.toNat < 0x80 := by
  simp only [escapeUnit, List.mem_cons, List.not_mem_nil, or_false] at hx
  rcases hx with rfl | rfl | rfl | rfl | rfl | rfl
  all_goals first | exact ascii_hexDigit _ (by omega) | decide

theorem encodeChar_ascii {c : Char} (h : c.toNat < 0x80) : encodeChar c = [byte c.toNat] := by
  rcases encodeChar_cases c with ⟨-, he⟩ | ⟨lo, -⟩ | ⟨lo, -⟩ | ⟨lo, -⟩
  · exact he
  all_goals omega

theorem written_append (cs ds : List Char) : written (cs ++ ds) = written cs ++ written ds :=
  List.flatMap_append

theorem written_ascii {cs : List Char} (h : ∀ c ∈ cs, c.toNat < 0x80) :
    written cs = cs.map fun c => byte c.toNat := by
  induction cs with
  | nil => rfl
  | cons c cs ih =>
    rw [written_cons, encodeChar_ascii (h c List.mem_cons_self), ih fun x hx => h x (List.mem_cons_of_mem _ hx)]
    rfl

theorem toNat_of_mem_encodeChar {c : Char} {b : UInt8} (h : b ∈ encodeChar c) :
    b.toNat = c.toNat ∨ 0x80 ≤ b.toNat := by
  have range := char_range c
  have number : ∀ n, (byte n).toNat = n % 256 := fun n => by simp [byte]
  rcases encodeChar_cases c with ⟨hi, he⟩ | ⟨lo, hi, he⟩ | ⟨lo, hi, he⟩ | ⟨lo, he⟩ <;> rw [he] at h
  · rw [List.mem_singleton.1 h, number]
    omega
  all_goals
    simp only [List.mem_cons, List.not_mem_nil, or_false] at h
    rcases h with rfl | rfl | rfl | rfl <;> rw [number] <;> omega

/-- Bytes that stand for themselves in a string. -/
def IsPlain (b : UInt8) : Prop := 0x20 ≤ b ∧ b ≠ 0x22 ∧ b ≠ 0x5c

theorem isPlain_of_mem_encodeChar {c : Char} (low : 0x20 ≤ c.toNat) (quote : c ≠ '"') (slash : c ≠ '\\')
    {b : UInt8} (h : b ∈ encodeChar c) : IsPlain b := by
  have quote : c.toNat ≠ 0x22 := fun same => quote (Char.toNat_inj.1 same)
  have slash : c.toNat ≠ 0x5c := fun same => slash (Char.toNat_inj.1 same)
  have number := toNat_of_mem_encodeChar h
  refine ⟨UInt8.le_iff_toNat_le.2 ?_, ?_, ?_⟩
  · show 0x20 ≤ b.toNat
    omega
  · rintro rfl
    simp at number
    omega
  · rintro rfl
    simp at number
    omega

theorem chunks_bytes {bs : Bytes} (h : ∀ b ∈ bs, IsPlain b) (rest : Bytes) :
    Tree.chunks (bs ++ rest) = (Tree.chunks rest).map fun r => (bs.map .byte ++ r.1, r.2) := by
  induction bs with
  | nil => simp
  | cons b bs ih =>
    obtain ⟨low, quote, slash⟩ := h b List.mem_cons_self
    rw [List.cons_append, Tree.chunks_plain low quote slash, ih fun b hb => h b (List.mem_cons_of_mem _ hb)]
    simp [Function.comp_def]

theorem escapeChar_of_not_mem {c : Char} (h : c ∉ lettered) : Value.escapeChar c =
    if c.toNat < 0x20 then escapeUnit c.toNat else [c] := by
  simp only [lettered, List.mem_cons, List.not_mem_nil, or_false, not_or] at h
  obtain ⟨quote, slash, backspace, feed, line, home, tab⟩ := h
  have backspace : ¬ c.toNat = 0x8 := fun h => backspace (Char.toNat_inj.1 h)
  have feed : ¬ c.toNat = 0xc := fun h => feed (Char.toNat_inj.1 h)
  rw [Value.escapeChar, if_neg quote, if_neg slash, if_neg backspace, if_neg feed, if_neg line, if_neg home,
    if_neg tab, escapeUnit]

/-- What is written of a character reads as its pieces. -/
theorem chunks_escapeChar (c : Char) (rest : Bytes) : Tree.chunks (written (Value.escapeChar c) ++ rest) =
    (Tree.chunks rest).map fun r => (pieces c ++ r.1, r.2) := by
  by_cases short : c ∈ lettered
  · rw [pieces, if_neg fun h => h.2 short]
    simp only [lettered, List.mem_cons, List.not_mem_nil, or_false] at short
    rcases short with rfl | rfl | rfl | rfl | rfl | rfl | rfl <;> exact Tree.chunks_escape (by decide) rest
  · rw [escapeChar_of_not_mem short]
    split
    · next control =>
      have text : written (escapeUnit c.toNat) = [0x5c, 0x75, 0x30, 0x30,
          byte (Text.hexDigit (c.toNat / 16)).toNat, byte (Text.hexDigit (c.toNat % 16)).toNat] :=
        written_ascii fun x hx => (ascii_escapeUnit control hx).2
      rw [text, pieces, if_pos ⟨control, short⟩]
      exact Tree.chunks_unit (Tree.hex4_control c.toNat control) rest
    · next above =>
      have quote : c ≠ '"' := fun h => short (h ▸ by decide)
      have slash : c ≠ '\\' := fun h => short (h ▸ by decide)
      rw [pieces, if_neg fun h => above h.1]
      have bytes := chunks_bytes (fun b hb => isPlain_of_mem_encodeChar (not_lt.1 above) quote slash hb) rest
      simpa [written] using bytes

theorem chunks_escaped (cs : List Char) (rest : Bytes) :
    Tree.chunks (written (cs.flatMap Value.escapeChar) ++ 0x22 :: rest) = some (cs.flatMap pieces, rest) := by
  induction cs with
  | nil => rfl
  | cons c cs ih =>
    rw [List.flatMap_cons, written_append, List.append_assoc, chunks_escapeChar, ih]
    rfl

theorem assemble_bytes (bs : Bytes) (rest : List Chunk) :
    Tree.assemble (bs.map .byte ++ rest) = (Tree.assemble rest).map (bs ++ ·) := by
  induction bs with
  | nil => simp
  | cons b bs ih => simp [Tree.assemble, ih, Function.comp_def]

/-- A unit that is no half of a pair is a character. -/
theorem assemble_unit {u : Nat} (h : u < 0xd800) (rest : List Chunk) : Tree.assemble (.unit u :: rest) =
    (Tree.assemble rest).map (encodeChar (Char.ofNat u) ++ ·) := by
  have high : Tree.isHigh u = false := by simp [Tree.isHigh]; omega
  have low : Tree.isLow u = false := by simp [Tree.isLow]; omega
  cases rest with
  | nil => simp [Tree.assemble, high, low]
  | cons k rest => cases k <;> simp [Tree.assemble, high, low]

theorem assemble_pieces (c : Char) (rest : List Chunk) :
    Tree.assemble (pieces c ++ rest) = (Tree.assemble rest).map (encodeChar c ++ ·) := by
  unfold pieces
  split
  · next h => rw [List.singleton_append, assemble_unit (by omega), Char.ofNat_toNat]
  · exact assemble_bytes _ _

theorem textOf_pieces (s : String) : Tree.textOf (s.toList.flatMap pieces) = some s := by
  have bytes : Tree.assemble (s.toList.flatMap pieces) = some (Utf8.encode s) := by
    rw [Utf8.encode]
    induction s.toList with
    | nil => rfl
    | cons c cs ih => rw [List.flatMap_cons, assemble_pieces, ih]; rfl
  rw [Tree.textOf, bytes]
  simp only [decode_encode]
  rfl

theorem written_quote (s : String) :
    written (Value.quote s) = 0x22 :: (written (s.toList.flatMap Value.escapeChar) ++ [0x22]) := by
  rw [Value.quote, written_append, written_append]
  rfl

/-- A string in quotes is read back, up to the quotes and no further. -/
theorem stringAt_quote (s : String) (rest : Bytes) :
    Tree.stringAt (written (s.toList.flatMap Value.escapeChar) ++ 0x22 :: rest) = some (some s, rest) := by
  rw [Tree.stringAt, chunks_escaped, Option.map_some, textOf_pieces]

/-- Text without any of what JSON counts as control characters, line breaks among them: those are the
characters before the blank. -/
def Printable (cs : List Char) : Prop := ∀ c ∈ cs, 0x20 ≤ c.toNat

theorem printable_append {cs ds : List Char} : Printable (cs ++ ds) ↔ Printable cs ∧ Printable ds :=
  List.forall_mem_append

theorem printable_singleton {c : Char} : Printable [c] ↔ 0x20 ≤ c.toNat := List.forall_mem_singleton

theorem printable_escapeChar (c : Char) : Printable (Value.escapeChar c) := by
  intro x h
  by_cases short : c ∈ lettered
  · simp only [lettered, List.mem_cons, List.not_mem_nil, or_false] at short
    rcases short with rfl | rfl | rfl | rfl | rfl | rfl | rfl <;>
      rcases List.mem_pair.1 h with rfl | rfl <;> decide
  · rw [escapeChar_of_not_mem short] at h
    split at h
    · next control => exact (ascii_escapeUnit control h).1
    · next above =>
      rw [List.mem_singleton.1 h]
      exact not_lt.1 above

theorem printable_quote (s : String) : Printable (Value.quote s) := by
  have escaped : Printable (s.toList.flatMap Value.escapeChar) := by
    intro x h
    obtain ⟨c, -, hx⟩ := List.mem_flatMap.1 h
    exact printable_escapeChar c x hx
  have mark := printable_singleton.2 (by decide : 0x20 ≤ '"'.toNat)
  exact printable_append.2 ⟨printable_append.2 ⟨mark, escaped⟩, mark⟩

end QueueProbe.Json
