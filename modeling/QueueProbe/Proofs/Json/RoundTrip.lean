import QueueProbe.Proofs.Json.Texts

/-! What the codec writes it reads back. A shape is faithful if every value of its type is written as a
text that is read as a tree of which the shape makes that value again. Lists and optional values of a
faithful shape are faithful, so nested types follow from what they are made of. -/

namespace QueueProbe.Json

variable {α : Type} {s : Shape α}

def Shape.Faithful (s : Shape α) : Prop := ∀ a, ∃ t, Reads (s.write a) t ∧ s.read t = some a

theorem Shape.Faithful.decode_encode (h : s.Faithful) (a : α) : decode s (encode s a) = .ok a := by
  obtain ⟨t, reads, back⟩ := h a
  have parsed : Tree.parse (encode s a) = some t := reads.parse
  rw [decode, parsed]
  simp only [back]

theorem Shape.Faithful.decoder_encoder (h : s.Faithful) (kind : String) (wording : Fault → String) (a : α) :
    ∃ body, encoder s a = .ok body ∧ decoder kind s wording body = .ok a := by
  refine ⟨encode s a, rfl, ?_⟩
  rw [decoder, h.decode_encode]

theorem Shape.faithful_string : Shape.string.Faithful := fun a => ⟨_, reads_string a, rfl⟩

theorem Shape.Faithful.list (h : s.Faithful) : s.list.Faithful := by
  intro as
  suffices all : ∃ ts, List.Forall₂ Reads (as.map s.write) ts ∧ ts.mapM s.read = some as by
    obtain ⟨ts, reads, back⟩ := all
    exact ⟨_, reads_array reads, back⟩
  induction as with
  | nil => exact ⟨[], .nil, rfl⟩
  | cons a as ih =>
    obtain ⟨t, reads, back⟩ := h a
    obtain ⟨ts, more, all⟩ := ih
    exact ⟨t :: ts, .cons reads more, by simp [back, all]⟩

/-- A shape that makes nothing of null is told from what is missing. -/
theorem Shape.Faithful.optional (h : s.Faithful) (missing : s.read .null = none) : s.optional.Faithful := by
  intro a
  cases a with
  | none => exact ⟨_, reads_null, rfl⟩
  | some a =>
    obtain ⟨t, reads, back⟩ := h a
    refine ⟨t, reads, ?_⟩
    cases t with
    | null => rw [missing] at back; cases back
    | _ => simp [Shape.optional, back]

theorem read_ofInt {n least greatest : Int} (lo : least ≤ n) (hi : n ≤ greatest)
    (signed : -0x8000000000000000 ≤ least) (word : greatest < 0x10000000000000000) :
    ∃ t, Reads (.ofInt n) t ∧ (Shape.integer least greatest).read t = some n := by
  by_cases below : n < 0
  · obtain ⟨k, rfl⟩ : ∃ k : Nat, n = -(k : Int) := ⟨n.natAbs, by omega⟩
    have pos : 0 < k := by omega
    refine ⟨.number ⟨true, figures k, [], none⟩, ?_, ?_⟩
    · rw [Value.ofInt, if_pos below]
      exact reads_negative pos
    · simp only [Shape.integer, value?_negative pos (by omega), Option.bind_some, Number.toInt?]
      rw [if_pos lo]
  · obtain ⟨k, rfl⟩ : ∃ k : Nat, n = k := ⟨n.toNat, by omega⟩
    have bound : k < Numeral.wordLimit := by
      unfold Numeral.wordLimit
      omega
    refine ⟨.number ⟨false, figures k, [], none⟩, ?_, ?_⟩
    · rw [Value.ofInt, if_neg below]
      exact reads_natural k
    · simp only [Shape.integer, value?_natural bound, Option.bind_some, Number.toInt?]
      rw [if_pos hi]

theorem Item.faithful : Item.shape.Faithful := by
  intro i
  have least : -0x8000000000000000 ≤ i.qty.toInt := Int64.le_toInt i.qty
  have greatest : i.qty.toInt < 0x8000000000000000 := Int64.toInt_lt i.qty
  obtain ⟨t, reads, back⟩ : ∃ t, Reads (.ofInt i.qty.toInt) t ∧ Shape.int64.read t = some i.qty.toInt :=
    read_ofInt least (by omega) (by decide) (by decide)
  have qty : Item.readQty t = some i.qty := by
    rw [Item.readQty, back, Option.map_some, Int64.ofInt_toInt]
  have members : List.Forall₂ Member [("id", .string i.id), ("qty", .ofInt i.qty.toInt)]
      [(some "id", .string (some i.id)), (some "qty", t)] :=
    .cons ⟨rfl, reads_string i.id⟩ (.cons ⟨rfl, reads⟩ .nil)
  refine ⟨_, reads_object members, ?_⟩
  simp [Item.shape, Item.read, Item.named, Item.valuesOf, Shape.string, qty]

/-- The codec returns what it was given: any text, any item, and lists of items and items that may be
missing. -/
theorem codec_round_trip (kind : String) (wording : Fault → String) :
    (∀ a, ∃ body, encoder Shape.string a = .ok body ∧ decoder kind Shape.string wording body = .ok a) ∧
    (∀ a, ∃ body, encoder Item.shape a = .ok body ∧ decoder kind Item.shape wording body = .ok a) ∧
    (∀ a, ∃ body, encoder Item.shape.list a = .ok body ∧
      decoder kind Item.shape.list wording body = .ok a) ∧
    (∀ a, ∃ body, encoder Item.shape.optional a = .ok body ∧
      decoder kind Item.shape.optional wording body = .ok a) := by
  have item := Item.faithful
  exact ⟨Shape.faithful_string.decoder_encoder kind wording, item.decoder_encoder kind wording,
    item.list.decoder_encoder kind wording, (item.optional rfl).decoder_encoder kind wording⟩

end QueueProbe.Json
