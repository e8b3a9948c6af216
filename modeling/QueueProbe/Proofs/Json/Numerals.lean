import QueueProbe.Json.Number
import QueueProbe.Proofs.Json.Strings

/-! Whole numbers in text. The digits written of a number are read up to the last of them and have its
value, so a numeral stands for the number it was written for, to the bounds of 64 bits. -/

namespace QueueProbe.Json

open Utf8

def figures (n : Nat) : List Nat := (Nat.toDigits 10 n).map fun c => c.toNat - 0x30

/-- Bytes that no numeral goes on with. -/
def Ends (rest : Bytes) : Prop :=
  ∀ b ∈ rest.head?, Tree.isDigit b = false ∧ b ≠ 0x2e ∧ b ≠ 0x65 ∧ b ≠ 0x45

theorem ends_cons {b : UInt8} (h : Tree.isDigit b = false ∧ b ≠ 0x2e ∧ b ≠ 0x65 ∧ b ≠ 0x45) (rest : Bytes) :
    Ends (b :: rest) := by
  intro x hx
  cases hx
  exact h

theorem ends_nil : Ends [] := by
  intro x hx
  cases hx

theorem digitChar_figure : ∀ d < 10, (Nat.digitChar d).toNat - 0x30 = d := by
  decide

theorem figures_eq (n : Nat) : figures n = if n < 10 then [n] else figures (n / 10) ++ [n % 10] := by
  rw [figures, Nat.toDigits_eq_if (by decide)]
  split
  · next small => simp [digitChar_figure n small]
  · simp [figures, digitChar_figure (n % 10) (Nat.mod_lt n (by decide))]

theorem digitsValue_figures (n : Nat) : Numeral.digitsValue (figures n) = n := by
  induction n using Nat.strongRecOn with
  | ind n ih =>
    rw [figures_eq]
    split
    · simp [Numeral.digitsValue]
    · have rest := ih (n / 10) (by omega)
      rw [Numeral.digitsValue] at rest ⊢
      rw [List.foldl_append, rest, List.foldl_cons, List.foldl_nil]
      omega

theorem head_figures {n : Nat} (h : 0 < n) : (figures n).head? ≠ some 0 := by
  induction n using Nat.strongRecOn with
  | ind n ih =>
    rw [figures_eq]
    split
    · simpa using h.ne'
    · next large =>
      have rest := ih (n / 10) (by omega) (by omega)
      cases front : figures (n / 10) with
      | nil => rw [figures, List.map_eq_nil_iff] at front; exact absurd front Nat.toDigits_ne_nil
      | cons d ds => rwa [front] at rest

theorem digit_of_mem_toDigits {n : Nat} {c : Char} (h : c ∈ Nat.toDigits 10 n) :
    0x30 ≤ c.toNat ∧ c.toNat ≤ 0x39 :=
  Char.isDigit_iff_toNat.1 (Nat.isDigit_of_mem_toDigits (by decide) (by decide) h)

theorem figure_lt {n d : Nat} (h : d ∈ figures n) : d < 10 := by
  obtain ⟨c, hc, rfl⟩ := List.mem_map.1 h
  have digit := digit_of_mem_toDigits hc
  omega

theorem written_toDigits (n : Nat) :
    written (Nat.toDigits 10 n) = (figures n).map fun d => byte (0x30 + d) := by
  have ascii : ∀ c ∈ Nat.toDigits 10 n, c.toNat < 0x80 := by
    intro c hc
    have digit := digit_of_mem_toDigits hc
    omega
  rw [written_ascii ascii, figures, List.map_map]
  refine List.map_congr_left fun c hc => ?_
  rw [Function.comp_apply, Nat.add_sub_cancel' (digit_of_mem_toDigits hc).1]

theorem isDigit_figure : ∀ d < 10, Tree.isDigit (byte (0x30 + d)) = true := by
  decide

theorem digit_figure : ∀ d < 10, Tree.digit (byte (0x30 + d)) = d := by
  decide

section Reading

variable {rest : Bytes} (ends : Ends rest)
include ends

theorem digitsAt_toDigits (n : Nat) :
    Tree.digitsAt (written (Nat.toDigits 10 n) ++ rest) = (figures n, rest) := by
  have all : ∀ b ∈ written (Nat.toDigits 10 n), Tree.isDigit b = true := by
    intro b hb
    rw [written_toDigits] at hb
    obtain ⟨d, hd, rfl⟩ := List.mem_map.1 hb
    exact isDigit_figure d (figure_lt hd)
  have none : rest.takeWhile Tree.isDigit = [] ∧ rest.dropWhile Tree.isDigit = rest := by
    cases rest with
    | nil => exact ⟨rfl, rfl⟩
    | cons b bs => simp [(ends b rfl).1]
  have digits : (written (Nat.toDigits 10 n)).map Tree.digit = figures n := by
    rw [written_toDigits, List.map_map]
    exact (List.map_congr_left fun d hd => digit_figure d (figure_lt hd)).trans (List.map_id _)
  rw [Tree.digitsAt, List.takeWhile_append_of_pos all, List.dropWhile_append_of_pos all, none.1, none.2,
    List.append_nil, digits]

theorem wholeAt_toDigits (n : Nat) :
    Tree.wholeAt (written (Nat.toDigits 10 n) ++ rest) = some (figures n, rest) := by
  have some : Tree.digitsAt1 (written (Nat.toDigits 10 n) ++ rest) = some (figures n, rest) := by
    rw [Tree.digitsAt1, digitsAt_toDigits ends]
    split
    · next h => simp [figures, Nat.toDigits_ne_nil] at h
    · rfl
  rw [Tree.wholeAt, some]
  split
  · next d ds rest h =>
    simp only [Option.some.injEq, Prod.mk.injEq] at h
    obtain rfl | pos := Nat.eq_zero_or_pos n
    · simp [figures_eq] at h
    · exact absurd (by rw [h.1]; rfl) (head_figures pos)
  · rfl

/-- A numeral of digits only is read to its last digit. -/
theorem numeralAt_toDigits (minus : Bool) (n : Nat) :
    Tree.numeralAt minus (written (Nat.toDigits 10 n) ++ rest) = some (⟨minus, figures n, [], none⟩, rest) := by
  have fraction : Tree.fractionAt rest = some ([], rest) := by
    rw [Tree.fractionAt]
    rintro bs rfl
    exact (ends 0x2e rfl).2.1 rfl
  have exponent : Tree.exponentAt rest = some (none, rest) := by
    cases rest with
    | nil => rfl
    | cons b bs => simp [Tree.exponentAt, (ends b rfl).2.2]
  simp only [Tree.numeralAt, wholeAt_toDigits ends, fraction, exponent, Option.bind_eq_bind, Option.bind_some]
  rfl

end Reading

theorem le_digits (ds : List Nat) (start : Nat) : start ≤ ds.foldl (fun n d => n * 10 + d) start := by
  induction ds generalizing start with
  | nil => exact Nat.le_refl start
  | cons d ds ih => exact Nat.le_trans (by omega) (ih (start * 10 + d))

theorem readDigits_of_lt (ds : List Nat) (start : Nat)
    (h : ds.foldl (fun n d => n * 10 + d) start < Numeral.wordLimit) :
    Numeral.readDigits start ds = (ds.foldl (fun n d => n * 10 + d) start, 0) := by
  induction ds generalizing start with
  | nil => rfl
  | cons d ds ih =>
    rw [List.foldl_cons] at h ⊢
    rw [Numeral.readDigits, if_pos (Nat.lt_of_le_of_lt (le_digits ds _) h), ih _ h]

theorem readDigits_figures {n : Nat} (h : n < Numeral.wordLimit) :
    Numeral.readDigits 0 (figures n) = (n, 0) := by
  have value := digitsValue_figures n
  rw [Numeral.digitsValue] at value
  rw [readDigits_of_lt (figures n) 0 (by rwa [value]), value]

theorem value?_natural {n : Nat} (h : n < Numeral.wordLimit) :
    Numeral.value? ⟨false, figures n, [], none⟩ = some (.natural n) := by
  simp [Numeral.value?, readDigits_figures h]

theorem value?_negative {n : Nat} (pos : 0 < n) (h : n ≤ 0x8000000000000000) :
    Numeral.value? ⟨true, figures n, [], none⟩ = some (.negative (-(n : Int))) := by
  have bound : n < Numeral.wordLimit := Nat.lt_of_le_of_lt h (by decide)
  have within : ¬ (n = 0 ∨ 0x8000000000000000 < n) := by omega
  simp only [Numeral.value?, readDigits_figures bound]
  rw [if_neg within]
  rfl

end QueueProbe.Json
