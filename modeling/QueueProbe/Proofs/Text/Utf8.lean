import Mathlib.Data.List.Infix
import QueueProbe.Codec

/-! UTF-8 is read back exactly. Bytes start with a character as Unicode writes it or with a fault, and
never with both. So what is decoded is all that was encoded and nothing else, and the place of a refusal
is the end of the longest well-formed prefix. -/

namespace QueueProbe.Utf8

/-! Bytes and their numbers. -/

theorem toNat_byte {n : Nat} (h : n < 256) : (byte n).toNat = n := by
  simp [byte, Nat.mod_eq_of_lt h]

theorem byte_of_eq {a : UInt8} {n : Nat} (h : n = a.toNat) : byte n = a := by
  rw [h]
  exact UInt8.ofNat_toNat

theorem inRange_iff {lo hi : Nat} {b : UInt8} : inRange lo hi b = true ↔ lo ≤ b.toNat ∧ b.toNat ≤ hi := by
  simp [inRange]

theorem isTail_iff {b : UInt8} : isTail b = true ↔ 0x80 ≤ b.toNat ∧ b.toNat ≤ 0xbf := inRange_iff

theorem second3_iff {a b : UInt8} : second3 a b = true ↔ 0x80 ≤ b.toNat ∧ b.toNat ≤ 0xbf ∧
    (a.toNat = 0xe0 → 0xa0 ≤ b.toNat) ∧ (a.toNat = 0xed → b.toNat ≤ 0x9f) := by
  unfold second3
  split
  · rw [inRange_iff]; omega
  · split
    · rw [inRange_iff]; omega
    · rw [isTail_iff]; omega

theorem second4_iff {a b : UInt8} : second4 a b = true ↔ 0x80 ≤ b.toNat ∧ b.toNat ≤ 0xbf ∧
    (a.toNat = 0xf0 → 0x90 ≤ b.toNat) ∧ (a.toNat = 0xf4 → b.toNat ≤ 0x8f) := by
  unfold second4
  split
  · rw [inRange_iff]; omega
  · split
    · rw [inRange_iff]; omega
    · rw [isTail_iff]; omega

/-! How characters are written. -/

theorem char_range (c : Char) : c.toNat < 0xd800 ∨ 0xdfff < c.toNat ∧ c.toNat < 0x110000 := c.valid

theorem toNat_ofNat {n : Nat} (h : n < 0xd800 ∨ 0xdfff < n ∧ n < 0x110000) : (Char.ofNat n).toNat = n := by
  unfold Char.ofNat
  rw [dif_pos h]
  rfl

theorem encodeChar_cases (c : Char) :
    (c.toNat < 0x80 ∧ encodeChar c = [byte c.toNat]) ∨
    (0x80 ≤ c.toNat ∧ c.toNat < 0x800 ∧
      encodeChar c = [byte (0xc0 + c.toNat / 0x40), byte (0x80 + c.toNat % 0x40)]) ∨
    (0x800 ≤ c.toNat ∧ c.toNat < 0x10000 ∧ encodeChar c = [byte (0xe0 + c.toNat / 0x1000),
      byte (0x80 + c.toNat / 0x40 % 0x40), byte (0x80 + c.toNat % 0x40)]) ∨
    (0x10000 ≤ c.toNat ∧ encodeChar c = [byte (0xf0 + c.toNat / 0x40000),
      byte (0x80 + c.toNat / 0x1000 % 0x40), byte (0x80 + c.toNat / 0x40 % 0x40),
      byte (0x80 + c.toNat % 0x40)]) := by
  unfold encodeChar
  dsimp only
  split
  · next h => exact Or.inl ⟨h, rfl⟩
  · next h₁ =>
    split
    · next h => exact Or.inr (Or.inl ⟨not_lt.1 h₁, h, rfl⟩)
    · next h₂ =>
      split
      · next h => exact Or.inr (Or.inr (Or.inl ⟨not_lt.1 h₂, h, rfl⟩))
      · next h₃ => exact Or.inr (Or.inr (Or.inr ⟨not_lt.1 h₃, rfl⟩))

theorem encodeChar_eq (c : Char) : encodeChar c = String.utf8EncodeChar c := by
  have range := char_range c
  have number : c.val.toNat = c.toNat := rfl
  have same : ∀ {m n : Nat}, m = n → byte m = UInt8.ofNat n := fun h => congrArg UInt8.ofNat h
  unfold String.utf8EncodeChar
  simp only [number]
  rcases encodeChar_cases c with ⟨hi, he⟩ | ⟨lo, hi, he⟩ | ⟨lo, hi, he⟩ | ⟨lo, he⟩ <;> rw [he]
  · rw [if_pos (by omega)]
    rfl
  · rw [if_neg (by omega), if_pos (by omega)]
    simp only [List.cons.injEq, and_true]
    exact ⟨same (by omega), same (by omega)⟩
  · rw [if_neg (by omega), if_neg (by omega), if_pos (by omega)]
    simp only [List.cons.injEq, and_true]
    exact ⟨same (by omega), same (by omega), same (by omega)⟩
  · rw [if_neg (by omega), if_neg (by omega), if_neg (by omega)]
    simp only [List.cons.injEq, and_true]
    exact ⟨same (by omega), same (by omega), same (by omega), same (by omega)⟩

/-! The numbers that sequences stand for. -/

def value2 (a b : UInt8) : Nat := a.toNat % 0x20 * 0x40 + low b

def value3 (a b c : UInt8) : Nat := a.toNat % 0x10 * 0x1000 + low b * 0x40 + low c

def value4 (a b c d : UInt8) : Nat :=
  a.toNat % 8 * 0x40000 + low b * 0x1000 + low c * 0x40 + low d

section Sequences

variable {a b c d : UInt8}

theorem encodeChar_value1 (lead : a.toNat < 0x80) : encodeChar (Char.ofNat a.toNat) = [a] := by
  have number := toNat_ofNat (n := a.toNat) (by omega)
  rcases encodeChar_cases (Char.ofNat a.toNat) with ⟨-, he⟩ | ⟨lo, -⟩ | ⟨lo, -⟩ | ⟨lo, -⟩
  · rw [he, number, byte_of_eq rfl]
  all_goals omega

theorem encodeChar_value2 (lead : inRange 0xc2 0xdf a = true) (tail : isTail b = true) :
    encodeChar (Char.ofNat (value2 a b)) = [a, b] := by
  rw [inRange_iff] at lead
  rw [isTail_iff] at tail
  have number := toNat_ofNat (n := value2 a b) (by simp only [value2, low]; omega)
  simp only [value2, low] at number ⊢
  rcases encodeChar_cases (Char.ofNat (a.toNat % 0x20 * 0x40 + b.toNat % 0x40)) with
    ⟨hi, -⟩ | ⟨-, -, he⟩ | ⟨lo, -⟩ | ⟨lo, -⟩
  · omega
  · rw [he, number, byte_of_eq (a := a) (by omega), byte_of_eq (a := b) (by omega)]
  all_goals omega

theorem encodeChar_value3 (lead : inRange 0xe0 0xef a = true) (second : second3 a b = true)
    (tail : isTail c = true) : encodeChar (Char.ofNat (value3 a b c)) = [a, b, c] := by
  rw [inRange_iff] at lead
  rw [second3_iff] at second
  rw [isTail_iff] at tail
  have number := toNat_ofNat (n := value3 a b c) (by simp only [value3, low]; omega)
  simp only [value3, low] at number ⊢
  rcases encodeChar_cases
      (Char.ofNat (a.toNat % 0x10 * 0x1000 + b.toNat % 0x40 * 0x40 + c.toNat % 0x40)) with
    ⟨hi, -⟩ | ⟨-, hi, -⟩ | ⟨-, -, he⟩ | ⟨lo, -⟩
  · omega
  · omega
  · rw [he, number, byte_of_eq (a := a) (by omega), byte_of_eq (a := b) (by omega),
      byte_of_eq (a := c) (by omega)]
  · omega

theorem encodeChar_value4 (lead : inRange 0xf0 0xf4 a = true) (second : second4 a b = true)
    (third : isTail c = true) (tail : isTail d = true) :
    encodeChar (Char.ofNat (value4 a b c d)) = [a, b, c, d] := by
  rw [inRange_iff] at lead
  rw [second4_iff] at second
  rw [isTail_iff] at third tail
  have number := toNat_ofNat (n := value4 a b c d) (by simp only [value4, low]; omega)
  simp only [value4, low] at number ⊢
  rcases encodeChar_cases (Char.ofNat (a.toNat % 8 * 0x40000 + b.toNat % 0x40 * 0x1000 +
      c.toNat % 0x40 * 0x40 + d.toNat % 0x40)) with ⟨hi, -⟩ | ⟨-, hi, -⟩ | ⟨-, hi, -⟩ | ⟨-, he⟩
  · omega
  · omega
  · omega
  · rw [he, number, byte_of_eq (a := a) (by omega), byte_of_eq (a := b) (by omega),
      byte_of_eq (a := c) (by omega), byte_of_eq (a := d) (by omega)]

end Sequences

/-- How many continuation bytes a lead byte asks for. -/
def follow (a : UInt8) : Nat :=
  if inRange 0xc2 0xdf a then 1 else if inRange 0xe0 0xef a then 2 else if inRange 0xf0 0xf4 a then 3 else 0

/-- What no character starts with. -/
inductive Ill : Bytes → Prop where
  /-- A continuation byte with nothing to continue. -/
  | stray {a : UInt8} (rest : Bytes) (h : inRange 0x80 0xbf a = true) : Ill (a :: rest)
  /-- Two, three or four bytes for what fits in fewer. -/
  | overlong2 {a : UInt8} (rest : Bytes) (h : inRange 0xc0 0xc1 a = true) : Ill (a :: rest)
  | overlong3 {b : UInt8} (rest : Bytes) (h : inRange 0x80 0x9f b = true) : Ill (0xe0 :: b :: rest)
  | overlong4 {b : UInt8} (rest : Bytes) (h : inRange 0x80 0x8f b = true) : Ill (0xf0 :: b :: rest)
  | surrogate {b : UInt8} (rest : Bytes) (h : inRange 0xa0 0xbf b = true) : Ill (0xed :: b :: rest)
  /-- Numbers above the last character. -/
  | beyond {b : UInt8} (rest : Bytes) (h : inRange 0x90 0xbf b = true) : Ill (0xf4 :: b :: rest)
  | wayBeyond {a : UInt8} (rest : Bytes) (h : inRange 0xf5 0xff a = true) : Ill (a :: rest)
  /-- A continuation byte that the lead asks for is not there, or something else is. -/
  | truncated {a : UInt8} {rest : Bytes} (i : Nat) (asked : i < follow a)
      (missing : ∀ b, rest[i]? = some b → isTail b = false) : Ill (a :: rest)

section Starts

variable {a b c : UInt8} {rest : Bytes}

theorem follow_two (lead : inRange 0xc2 0xdf a = true) : follow a = 1 := if_pos lead

theorem follow_three (lead : inRange 0xe0 0xef a = true) : follow a = 2 := by
  have other : ¬ inRange 0xc2 0xdf a = true := by
    rw [inRange_iff] at lead ⊢
    omega
  rw [follow, if_neg other, if_pos lead]

theorem follow_four (lead : inRange 0xf0 0xf4 a = true) : follow a = 3 := by
  have other₂ : ¬ inRange 0xc2 0xdf a = true := by
    rw [inRange_iff] at lead ⊢
    omega
  have other₃ : ¬ inRange 0xe0 0xef a = true := by
    rw [inRange_iff] at lead ⊢
    omega
  rw [follow, if_neg other₂, if_neg other₃, if_pos lead]

theorem ill_second3 (lead : inRange 0xe0 0xef a = true) (bad : second3 a b = false) :
    Ill (a :: b :: rest) := by
  by_cases tail : isTail b = true
  · rw [Bool.eq_false_iff, Ne, second3_iff] at bad
    rw [isTail_iff] at tail
    by_cases first : a.toNat = 0xe0
    · obtain rfl : a = 0xe0 := UInt8.toNat_inj.1 first
      exact .overlong3 rest (inRange_iff.2 (by omega))
    · obtain rfl : a = 0xed := UInt8.toNat_inj.1 (show a.toNat = 0xed by omega)
      exact .surrogate rest (inRange_iff.2 (by omega))
  · exact .truncated 0 (by simp [follow_three lead]) (by simpa using tail)

theorem ill_second4 (lead : inRange 0xf0 0xf4 a = true) (bad : second4 a b = false) :
    Ill (a :: b :: rest) := by
  by_cases tail : isTail b = true
  · rw [Bool.eq_false_iff, Ne, second4_iff] at bad
    rw [isTail_iff] at tail
    by_cases first : a.toNat = 0xf0
    · obtain rfl : a = 0xf0 := UInt8.toNat_inj.1 first
      exact .overlong4 rest (inRange_iff.2 (by omega))
    · obtain rfl : a = 0xf4 := UInt8.toNat_inj.1 (show a.toNat = 0xf4 by omega)
      exact .beyond rest (inRange_iff.2 (by omega))
  · exact .truncated 0 (by simp [follow_four lead]) (by simpa using tail)

/-- Of bytes a character is read that was written there, or they start with a fault. -/
theorem pieceAt_cases (a : UInt8) (rest : Bytes) :
    (∃ c tail more, rest = tail ++ more ∧ encodeChar c = a :: tail ∧
      pieceAt a rest = .char c (tail.length + 1)) ∨
    (∃ n, pieceAt a rest = .bad n) ∧ Ill (a :: rest) := by
  unfold pieceAt
  split
  · next lead => exact Or.inl ⟨_, [], rest, rfl, encodeChar_value1 lead, rfl⟩
  split
  · next lead =>
    split
    · next b more =>
      split
      · next tail => exact Or.inl ⟨_, [b], more, rfl, encodeChar_value2 lead tail, rfl⟩
      · next tail =>
        exact Or.inr ⟨⟨_, rfl⟩, .truncated 0 (by simp [follow_two lead]) (by simpa using tail)⟩
    · exact Or.inr ⟨⟨_, rfl⟩, .truncated 0 (by simp [follow_two lead]) (by simp)⟩
  split
  · next lead =>
    split
    · next b c more =>
      split
      · next bad => exact Or.inr ⟨⟨_, rfl⟩, ill_second3 lead (by simpa using bad)⟩
      · next second =>
        split
        · next tail =>
          exact Or.inl ⟨_, [b, c], more, rfl, encodeChar_value3 lead (by simpa using second) tail, rfl⟩
        · next tail =>
          exact Or.inr ⟨⟨_, rfl⟩, .truncated 1 (by simp [follow_three lead]) (by simpa using tail)⟩
    · next b =>
      split
      · exact Or.inr ⟨⟨_, rfl⟩, .truncated 1 (by simp [follow_three lead]) (by simp)⟩
      · next bad => exact Or.inr ⟨⟨_, rfl⟩, ill_second3 lead (by simpa using bad)⟩
    · exact Or.inr ⟨⟨_, rfl⟩, .truncated 0 (by simp [follow_three lead]) (by simp)⟩
  split
  · next lead =>
    split
    · next b c d more =>
      split
      · next bad => exact Or.inr ⟨⟨_, rfl⟩, ill_second4 lead (by simpa using bad)⟩
      · next second =>
        split
        · next third =>
          exact Or.inr ⟨⟨_, rfl⟩, .truncated 1 (by simp [follow_four lead]) (by simpa using third)⟩
        · next third =>
          split
          · next tail =>
            exact Or.inl ⟨_, [b, c, d], more, rfl,
              encodeChar_value4 lead (by simpa using second) (by simpa using third) tail, rfl⟩
          · next tail =>
            exact Or.inr ⟨⟨_, rfl⟩, .truncated 2 (by simp [follow_four lead]) (by simpa using tail)⟩
    · next b c =>
      split
      · next bad => exact Or.inr ⟨⟨_, rfl⟩, ill_second4 lead (by simpa using bad)⟩
      · refine Or.inr ⟨?_, .truncated 2 (by simp [follow_four lead]) (by simp)⟩
        split <;> exact ⟨_, rfl⟩
    · next b =>
      split
      · exact Or.inr ⟨⟨_, rfl⟩, .truncated 1 (by simp [follow_four lead]) (by simp)⟩
      · next bad => exact Or.inr ⟨⟨_, rfl⟩, ill_second4 lead (by simpa using bad)⟩
    · exact Or.inr ⟨⟨_, rfl⟩, .truncated 0 (by simp [follow_four lead]) (by simp)⟩
  · next h₁ h₂ h₃ h₄ =>
    -- no lead at all
    rw [inRange_iff] at h₂ h₃ h₄
    have := a.toNat_lt
    refine Or.inr ⟨⟨1, rfl⟩, ?_⟩
    rcases Nat.lt_or_ge a.toNat 0xc0 with h | h
    · exact .stray rest (inRange_iff.2 (by omega))
    · rcases Nat.lt_or_ge a.toNat 0xc2 with h | h
      · exact .overlong2 rest (inRange_iff.2 (by omega))
      · exact .wayBeyond rest (inRange_iff.2 (by omega))

/-- The sequences that characters are written in, each in the only one that stands for its number. -/
theorem encodeChar_shapes (c : Char) :
    (∃ a, encodeChar c = [a] ∧ a.toNat < 0x80 ∧ c = Char.ofNat a.toNat) ∨
    (∃ a b, encodeChar c = [a, b] ∧ inRange 0xc2 0xdf a = true ∧ isTail b = true ∧
      c = Char.ofNat (value2 a b)) ∨
    (∃ a b d, encodeChar c = [a, b, d] ∧ inRange 0xe0 0xef a = true ∧ second3 a b = true ∧
      isTail d = true ∧ c = Char.ofNat (value3 a b d)) ∨
    ∃ a b d e, encodeChar c = [a, b, d, e] ∧ inRange 0xf0 0xf4 a = true ∧ second4 a b = true ∧
      isTail d = true ∧ isTail e = true ∧ c = Char.ofNat (value4 a b d e) := by
  have range := char_range c
  have read : ∀ {n : Nat}, n = c.toNat → c = Char.ofNat n := fun h => h ▸ (Char.ofNat_toNat c).symm
  rcases encodeChar_cases c with ⟨hi, he⟩ | ⟨lo, hi, he⟩ | ⟨lo, hi, he⟩ | ⟨lo, he⟩
  · have ha := toNat_byte (n := c.toNat) (by omega)
    exact Or.inl ⟨_, he, by omega, read ha⟩
  · have ha := toNat_byte (n := 0xc0 + c.toNat / 0x40) (by omega)
    have hb := toNat_byte (n := 0x80 + c.toNat % 0x40) (by omega)
    refine Or.inr (Or.inl ⟨_, _, he, inRange_iff.2 (by omega), isTail_iff.2 (by omega), read ?_⟩)
    simp only [value2, low, ha, hb]
    omega
  · have ha := toNat_byte (n := 0xe0 + c.toNat / 0x1000) (by omega)
    have hb := toNat_byte (n := 0x80 + c.toNat / 0x40 % 0x40) (by omega)
    have hd := toNat_byte (n := 0x80 + c.toNat % 0x40) (by omega)
    refine Or.inr (Or.inr (Or.inl ⟨_, _, _, he, inRange_iff.2 (by omega), second3_iff.2 (by omega),
      isTail_iff.2 (by omega), read ?_⟩))
    simp only [value3, low, ha, hb, hd]
    omega
  · have ha := toNat_byte (n := 0xf0 + c.toNat / 0x40000) (by omega)
    have hb := toNat_byte (n := 0x80 + c.toNat / 0x1000 % 0x40) (by omega)
    have hd := toNat_byte (n := 0x80 + c.toNat / 0x40 % 0x40) (by omega)
    have he' := toNat_byte (n := 0x80 + c.toNat % 0x40) (by omega)
    refine Or.inr (Or.inr (Or.inr ⟨_, _, _, _, he, inRange_iff.2 (by omega), second4_iff.2 (by omega),
      isTail_iff.2 (by omega), isTail_iff.2 (by omega), read ?_⟩))
    simp only [value4, low, ha, hb, hd, he']
    omega

theorem encodeChar_lead {d : Char} {tail : Bytes} (he : encodeChar d = a :: tail) :
    (a.toNat < 0x80 ∨ 0xc2 ≤ a.toNat ∧ a.toNat ≤ 0xf4) ∧ tail.length = follow a ∧
    (∀ b ∈ tail, isTail b = true) ∧
    ∀ b more, tail = b :: more → (a.toNat = 0xe0 → 0xa0 ≤ b.toNat) ∧ (a.toNat = 0xed → b.toNat ≤ 0x9f) ∧
      (a.toNat = 0xf0 → 0x90 ≤ b.toNat) ∧ (a.toNat = 0xf4 → b.toNat ≤ 0x8f) := by
  rcases encodeChar_shapes d with ⟨a', h, lead, -⟩ | ⟨a', b, h, lead, tail, -⟩ |
    ⟨a', b, c, h, lead, second, third, -⟩ | ⟨a', b, c, e, h, lead, second, third, fourth, -⟩ <;>
    cases h.symm.trans he
  · have alone : follow a = 0 := by
      simp only [follow, inRange]
      grind
    exact ⟨Or.inl lead, alone.symm, by simp, by simp⟩
  · have range := inRange_iff.1 lead
    refine ⟨by omega, (follow_two lead).symm, by simpa using tail, fun b' more hb => ?_⟩
    omega
  · have range := inRange_iff.1 lead
    obtain ⟨lo, hi, first⟩ := second3_iff.1 second
    refine ⟨by omega, (follow_three lead).symm, ?_, fun b' more hb => ?_⟩
    · simpa using ⟨isTail_iff.2 ⟨lo, hi⟩, third⟩
    · obtain rfl := (List.cons.inj hb).1
      exact ⟨first.1, first.2, by omega, by omega⟩
  · have range := inRange_iff.1 lead
    obtain ⟨lo, hi, first⟩ := second4_iff.1 second
    refine ⟨by omega, (follow_four lead).symm, ?_, fun b' more hb => ?_⟩
    · simpa using ⟨isTail_iff.2 ⟨lo, hi⟩, third, fourth⟩
    · obtain rfl := (List.cons.inj hb).1
      exact ⟨by omega, by omega, first.1, first.2⟩

theorem Ill.not_encodeChar {bs : Bytes} (ill : Ill bs) (d : Char) (rest : Bytes) :
    bs ≠ encodeChar d ++ rest := by
  intro hbs
  obtain ⟨a, tail, he⟩ : ∃ a tail, encodeChar d = a :: tail := by
    rcases encodeChar_cases d with ⟨-, he⟩ | ⟨-, -, he⟩ | ⟨-, -, he⟩ | ⟨-, he⟩ <;> exact ⟨_, _, he⟩
  obtain ⟨lead, length, tails, first⟩ := encodeChar_lead he
  rw [he, List.cons_append] at hbs
  -- the second byte of what asks for more is the one that was found
  have second : ∀ {b : UInt8} {more : Bytes}, 0 < follow a → b :: more = tail ++ rest →
      ∃ tail', tail = b :: tail' := by
    intro b more asked hm
    cases tail with
    | nil => simp [← length] at asked
    | cons b' tail' => exact ⟨tail', by rw [(List.cons.inj hm).1]⟩
  cases ill with
  | stray more h | overlong2 more h | wayBeyond more h =>
    obtain rfl := (List.cons.inj hbs).1
    rw [inRange_iff] at h
    omega
  | overlong3 more h | overlong4 more h | surrogate more h | beyond more h =>
    obtain ⟨rfl, hm⟩ := List.cons.inj hbs
    obtain ⟨tail', ht⟩ := second (by decide) hm
    have range := first _ _ ht
    rw [inRange_iff] at h
    simp at range
    omega
  | truncated i asked missing =>
    obtain ⟨rfl, rfl⟩ := List.cons.inj hbs
    have inside : i < tail.length := length ▸ asked
    rw [List.getElem?_append_left inside, List.getElem?_eq_getElem inside] at missing
    have bad := missing _ rfl
    rw [tails _ (List.getElem_mem inside)] at bad
    cases bad

end Starts

/-! Texts. -/

def written (cs : List Char) : Bytes := cs.flatMap encodeChar

@[simp] theorem written_cons (c : Char) (cs : List Char) : written (c :: cs) = encodeChar c ++ written cs := rfl

theorem encode_eq (s : String) : encode s = s.toByteArray.data.toList := by
  rw [← String.utf8Encode_toList, List.utf8Encode, List.toList_data_toByteArray, encode]
  exact List.flatMap_congr fun c _ => encodeChar_eq c

theorem encode_injective {s t : String} (h : encode s = encode t) : s = t := by
  rw [encode_eq, encode_eq] at h
  exact String.toByteArray_inj.1 (ByteArray.ext (Array.ext' h))

theorem encodeChar_injective {c d : Char} (h : encodeChar c = encodeChar d) : c = d := by
  have same : encode (String.ofList [c]) = encode (String.ofList [d]) := by simp [encode, h]
  simpa using congrArg String.toList (encode_injective same)

theorem scan_encodeChar (c : Char) (rest : Bytes) :
    scan (encodeChar c ++ rest) = .char c (encodeChar c).length :: scan rest := by
  cases he : encodeChar c with
  | nil => exact absurd he (by rw [encodeChar_eq]; exact String.utf8EncodeChar_ne_nil)
  | cons a tail =>
    rcases pieceAt_cases a (tail ++ rest) with ⟨d, tail', more, hm, hd, hp⟩ | ⟨-, ill⟩
    · -- one lead byte asks for one number of continuation bytes
      have length := (encodeChar_lead he).2.1.trans (encodeChar_lead hd).2.1.symm
      obtain ⟨rfl, rfl⟩ := List.append_inj hm length
      obtain rfl := encodeChar_injective (he.trans hd.symm)
      rw [List.cons_append, scan, hp]
      simp [Piece.width]
    · exact absurd (by rw [he, List.cons_append]) (ill.not_encodeChar c rest)

theorem scan_written (cs : List Char) (rest : Bytes) :
    charsOf (scan (written cs ++ rest)) = match charsOf (scan rest) with
      | .ok more => .ok (cs ++ more)
      | .error k => .error ((written cs).length + k) := by
  induction cs with
  | nil => cases h : charsOf (scan rest) <;> simp [written, h]
  | cons c cs ih =>
    rw [written_cons, List.append_assoc, scan_encodeChar, charsOf, ih]
    cases charsOf (scan rest) <;> simp [Nat.add_assoc]

theorem scan_ill {rest : Bytes} (ill : Ill rest) : charsOf (scan rest) = .error 0 := by
  cases rest with
  | nil => cases ill
  | cons a rest =>
    rcases pieceAt_cases a rest with ⟨c, tail, more, rfl, he, -⟩ | ⟨⟨n, hp⟩, -⟩
    · exact absurd (by rw [he, List.cons_append]) (ill.not_encodeChar c more)
    · rw [scan]
      simp only [hp, charsOf]

/-- Bytes are characters up to their end, or up to a fault. -/
theorem parts (bs : Bytes) : ∃ cs rest, bs = written cs ++ rest ∧ (rest = [] ∨ Ill rest) := by
  induction hn : bs.length using Nat.strong_induction_on generalizing bs with
  | _ n ih =>
    cases bs with
    | nil => exact ⟨[], [], rfl, Or.inl rfl⟩
    | cons a rest =>
      rcases pieceAt_cases a rest with ⟨c, tail, more, rfl, he, -⟩ | ⟨-, ill⟩
      · obtain ⟨cs, rest, rfl, hr⟩ := ih more.length (by simp at hn; omega) more rfl
        exact ⟨c :: cs, rest, by simp [he], hr⟩
      · exact ⟨[], a :: rest, rfl, Or.inr ill⟩

theorem encode_ofList (cs : List Char) : encode (String.ofList cs) = written cs := by
  rw [encode, String.toList_ofList, written]

theorem decode_encode (s : String) : decode (encode s) = .ok s := by
  have all := scan_written s.toList []
  rw [List.append_nil] at all
  rw [decode, encode, ← written, all]
  simp [scan, charsOf, Except.map]

theorem decode_ill (s : String) {rest : Bytes} (ill : Ill rest) :
    decode (encode s ++ rest) = .error (encode s).length := by
  rw [decode, encode, ← written, scan_written, scan_ill ill]
  rfl

theorem decode_ok_iff {bs : Bytes} {s : String} : decode bs = .ok s ↔ encode s = bs := by
  refine ⟨fun h => ?_, fun h => h ▸ decode_encode s⟩
  obtain ⟨cs, rest, rfl, rfl | ill⟩ := parts bs
  · rw [List.append_nil, ← encode_ofList, decode_encode] at h
    rw [List.append_nil, ← encode_ofList, Except.ok.inj h]
  · rw [← encode_ofList, decode_ill _ ill] at h
    cases h

theorem encode_append {s t : String} {rest : Bytes} (h : encode t = encode s ++ rest) :
    ∃ u, encode u = rest := by
  have read : charsOf (scan (encode t)) = .ok t.toList := by
    have all := scan_written t.toList []
    rw [List.append_nil] at all
    rw [encode, ← written, all]
    simp [scan, charsOf]
  rw [h, encode, ← written, scan_written] at read
  cases more : charsOf (scan rest) with
  | error k => rw [more] at read; cases read
  | ok cs => exact ⟨String.ofList cs, decode_ok_iff.1 (by rw [decode, more]; rfl)⟩

/-- Well-formed bytes are those that the strings of the language may be stored in. -/
theorem isValid_iff {bs : Bytes} : bs.toByteArray.IsValidUTF8 ↔ ∃ s, encode s = bs := by
  constructor
  · rintro ⟨cs, h⟩
    refine ⟨String.ofList cs, ?_⟩
    rw [encode_ofList, written, ← List.toByteArray_inj, h, List.utf8Encode]
    exact congrArg List.toByteArray (List.flatMap_congr fun c _ => encodeChar_eq c)
  · rintro ⟨s, rfl⟩
    have same : (encode s).toByteArray = s.toByteArray :=
      ByteArray.ext (by rw [encode_eq, List.data_toByteArray, Array.toArray_toList])
    rw [same]
    exact s.isValidUTF8

end QueueProbe.Utf8

namespace QueueProbe.Codec

open Utf8

/-- A body is decoded to the text that it encodes, and no other body is decoded. What is refused is named by
the length of its longest well-formed prefix; overlong forms, surrogates, numbers beyond the last character,
stray continuation bytes and truncated sequences are refused where they stand, and nothing else is. Well-formed
is what a string of the language may be stored in, and encoding gives just that. -/
theorem utf8_exact (body : Bytes) :
    (∀ s, utf8Decoder body = .ok s ↔ utf8Encoder s = .ok body) ∧
    (∀ s, utf8Encoder s = .ok s.toByteArray.data.toList) ∧
    ((∀ s, utf8Encoder s ≠ .ok body) → ∃ n,
      utf8Decoder body = .error ("invalid UTF-8 at byte " ++ toString n) ∧ n ≤ body.length ∧
      (body.take n).toByteArray.IsValidUTF8 ∧
      (∀ k, n < k → k ≤ body.length → ¬ (body.take k).toByteArray.IsValidUTF8) ∧ Ill (body.drop n)) ∧
    ∀ s rest, body = encode s ++ rest → Ill rest →
      utf8Decoder body = .error ("invalid UTF-8 at byte " ++ toString (encode s).length) := by
  have encoder : ∀ s, utf8Encoder s = .ok body ↔ encode s = body := by
    intro s
    rw [utf8Encoder, Outcome.ok.injEq]
  have refused : ∀ s rest, body = encode s ++ rest → Ill rest →
      utf8Decoder body = .error ("invalid UTF-8 at byte " ++ toString (encode s).length) := by
    rintro s rest rfl ill
    rw [utf8Decoder, decode_ill s ill]
  refine ⟨fun s => ?_, fun s => ?_, fun unwritten => ?_, refused⟩
  · rw [encoder, ← decode_ok_iff, utf8Decoder]
    cases decode body <;> simp
  · rw [utf8Encoder, encode_eq]
  · obtain ⟨cs, rest, hbody, rfl | ill⟩ := parts body
    · rw [List.append_nil, ← encode_ofList] at hbody
      exact absurd ((encoder _).2 hbody.symm) (unwritten _)
    · rw [← encode_ofList] at hbody
      refine ⟨_, refused _ rest hbody ill, ?_, ?_, fun k longer within valid => ?_, ?_⟩
      · simp [hbody]
      · rw [hbody, List.take_left]
        exact isValid_iff.2 ⟨_, rfl⟩
      · -- what a longer prefix has beyond this one would start with a character
        obtain ⟨t, ht⟩ := isValid_iff.1 valid
        rw [hbody, List.take_append, List.take_of_length_le longer.le] at ht
        obtain ⟨u, hu⟩ := encode_append ht
        rw [hbody, List.length_append] at within
        have beyond : rest.take (k - (encode (String.ofList cs)).length) ≠ [] := by
          rw [← List.length_pos_iff, List.length_take]
          omega
        cases letters : u.toList with
        | nil => exact beyond (by rw [← hu, encode, letters, List.flatMap_nil])
        | cons c more =>
          rw [encode, letters, List.flatMap_cons] at hu
          refine ill.not_encodeChar c
            (written more ++ rest.drop (k - (encode (String.ofList cs)).length)) ?_
          rw [← List.append_assoc, written, hu, List.take_append_drop]
      · rwa [hbody, List.drop_left]

end QueueProbe.Codec
