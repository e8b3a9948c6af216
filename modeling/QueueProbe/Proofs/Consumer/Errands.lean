import QueueProbe.Proofs.Consumer.Tenancy

/-! One delivery at a time. A worker takes a delivery, makes up its mind about it and settles it so
before it takes the next one. Where no two workers work together, the deliveries taken are therefore
those settled, in the same order, and the one in hand. -/

namespace QueueProbe

variable {K V : Type}

namespace Clerk

/-- What it has taken and not handled yet. -/
def held (k : Clerk K V) : List (Seat K V × Delivery) :=
  match k.phase with
  | .holding d => [(k.toSeat, d)]
  | _ => []

/-- What it has handled and not settled yet. -/
def due (k : Clerk K V) : List (Verdict K V) :=
  match k.phase with
  | .settling d r => [⟨k.toSeat, d, r⟩]
  | _ => []

end Clerk

def Verdict.taking (v : Verdict K V) : Seat K V × Delivery := (v.seat, v.delivery)

/-- The worker at one of the seats. -/
def onDuty (p : Seat K V → Bool) (crew : List (Clerk K V)) : Option (Clerk K V) :=
  crew.find? fun k => p k.toSeat

/-- No two workers work at these seats at once. -/
def Solitary (p : Seat K V → Bool) : Prop :=
  ∀ {log : List (Mark K V)} {s : Scene K V}, Tenancy log s → ∀ k ∈ s.crew, ∀ k' ∈ s.crew,
    p k.toSeat = true → p k'.toSeat = true → k = k'

theorem solitary_isOf (n : Nat) : Solitary (Seat.isOf (K := K) (V := V) n) := by
  intro log s h k hk k' hk' hn hn'
  exact h.alone hk hk' ((of_decide_eq_true hn).trans (of_decide_eq_true hn').symm)

theorem solitary_hasTag (t : ConsumerTag) : Solitary (Seat.hasTag (K := K) (V := V) t) := by
  intro log s h k hk k' hk' ht ht'
  exact List.inj_on_of_nodup_map h.distinct hk hk' ((of_decide_eq_true ht).trans (of_decide_eq_true ht').symm)

section OnDuty

variable {p : Seat K V → Bool} {log : List (Mark K V)} {s : Scene K V} {k : Clerk K V}

theorem onDuty_iff (single : Solitary p) (h : Tenancy log s) :
    onDuty p s.crew = some k ↔ k ∈ s.crew ∧ p k.toSeat = true := by
  constructor
  · intro hk
    exact ⟨List.mem_of_find?_eq_some hk, List.find?_some (p := fun k : Clerk K V => p k.toSeat) hk⟩
  · rintro ⟨hk, hp⟩
    cases hj : onDuty p s.crew with
    | none => exact absurd hp (List.find?_eq_none.1 hj k hk)
    | some j =>
      have hpj := List.find?_some (p := fun k : Clerk K V => p k.toSeat) hj
      rw [single h j (List.mem_of_find?_eq_some hj) k hk hpj hp]

theorem mem_setPhase (h : Tenancy log s) (hk : k ∈ s.crew) (ph : Phase) {j : Clerk K V} :
    j ∈ (s.setPhase k.tag ph).crew ↔ j = { k with phase := ph } ∨ (j ∈ s.crew ∧ j.tag ≠ k.tag) := by
  simp only [Scene.setPhase, List.mem_map]
  constructor
  · rintro ⟨i, hi, rfl⟩
    by_cases ht : i.tag = k.tag
    · rw [List.inj_on_of_nodup_map h.distinct hi hk ht]
      exact Or.inl (if_pos rfl)
    · rw [if_neg ht]
      exact Or.inr ⟨hi, ht⟩
  · rintro (rfl | ⟨hj, ht⟩)
    · exact ⟨k, hk, if_pos rfl⟩
    · exact ⟨j, hj, if_neg ht⟩

/-- Of one tag or another, two workers at these seats would still be the same one. -/
theorem Solitary.apart (single : Solitary p) (h : Tenancy log s) (hk : k ∈ s.crew) (hp : p k.toSeat = true)
    {j : Clerk K V} (hj : j ∈ s.crew) (ht : j.tag ≠ k.tag) : p j.toSeat = false := by
  by_contra hpj
  rw [single h j hj k hk (by simpa using hpj) hp] at ht
  exact ht rfl

theorem onDuty_setPhase (single : Solitary p) (h : Tenancy log s) (hk : k ∈ s.crew) (ph : Phase) :
    onDuty p (s.setPhase k.tag ph).crew =
      if p k.toSeat = true then some { k with phase := ph } else onDuty p s.crew := by
  refine Option.ext fun j => ?_
  rw [onDuty_iff single (h.setPhase k.tag ph), mem_setPhase h hk]
  split
  · next hp =>
    rw [Option.some.injEq]
    constructor
    · rintro ⟨rfl | ⟨hj, ht⟩, hpj⟩
      · rfl
      · rw [single.apart h hk hp hj ht] at hpj
        cases hpj
    · rintro rfl
      exact ⟨Or.inl rfl, hp⟩
  · next hp =>
    rw [onDuty_iff single h]
    constructor
    · rintro ⟨rfl | ⟨hj, -⟩, hpj⟩
      · exact absurd hpj hp
      · exact ⟨hj, hpj⟩
    · rintro ⟨hj, hpj⟩
      refine ⟨Or.inr ⟨hj, fun ht => hp ?_⟩, hpj⟩
      rwa [← List.inj_on_of_nodup_map h.distinct hj hk ht]

theorem onDuty_dismiss (single : Solitary p) (h : Tenancy log s) (hk : k ∈ s.crew) :
    onDuty p (s.dismiss k.tag).crew = if p k.toSeat = true then none else onDuty p s.crew := by
  have hmem : ∀ j, j ∈ (s.dismiss k.tag).crew ↔ j ∈ s.crew ∧ j.tag ≠ k.tag := by
    intro j
    simp [Scene.dismiss]
  refine Option.ext fun j => ?_
  rw [onDuty_iff single (h.dismiss k.tag), hmem]
  split
  · next hp =>
    constructor
    · rintro ⟨⟨hj, ht⟩, hpj⟩
      rw [single.apart h hk hp hj ht] at hpj
      cases hpj
    · rintro ⟨⟩
  · next hp =>
    rw [onDuty_iff single h]
    constructor
    · rintro ⟨⟨hj, -⟩, hpj⟩
      exact ⟨hj, hpj⟩
    · rintro ⟨hj, hpj⟩
      refine ⟨⟨hj, fun ht => hp ?_⟩, hpj⟩
      rwa [← List.inj_on_of_nodup_map h.distinct hj hk ht]

end OnDuty

def heldAt (p : Seat K V → Bool) (crew : List (Clerk K V)) : List (Seat K V × Delivery) :=
  (onDuty p crew).toList.flatMap Clerk.held

def dueAt (p : Seat K V → Bool) (crew : List (Clerk K V)) : List (Verdict K V) :=
  (onDuty p crew).toList.flatMap Clerk.due

structure Handed (p : Seat K V → Bool) (log : List (Mark K V)) (crew : List (Clerk K V)) : Prop where
  taken : takings p log = (verdicts p log).map Verdict.taking ++ heldAt p crew
  judged : verdicts p log = (calls p log).map (·.1) ++ dueAt p crew

namespace Handed

variable {p : Seat K V → Bool} {log new : List (Mark K V)} {s s' : Scene K V} {k : Clerk K V}
  {crew crew' : List (Clerk K V)}

theorem aside (h : Handed p log crew) (taken : takings p new = []) (judged : verdicts p new = [])
    (called : calls p new = []) (held : heldAt p crew' = heldAt p crew) (due : dueAt p crew' = dueAt p crew) :
    Handed p (log ++ new) crew' := by
  constructor
  · rw [takings_append, verdicts_append, taken, judged, held, List.append_nil, List.append_nil]
    exact h.taken
  · rw [verdicts_append, calls_append, judged, called, due, List.append_nil, List.append_nil]
    exact h.judged

theorem turn (h : Handed p log crew) (before : onDuty p crew = some k) {o : Option (Clerk K V)}
    (after : onDuty p crew' = o)
    (taken : k.held ++ takings p new = (verdicts p new).map Verdict.taking ++ o.toList.flatMap Clerk.held)
    (judged : k.due ++ verdicts p new = (calls p new).map (·.1) ++ o.toList.flatMap Clerk.due) :
    Handed p (log ++ new) crew' := by
  have ht := h.taken
  have hj := h.judged
  simp only [heldAt, dueAt, before, Option.toList_some, List.flatMap_cons, List.flatMap_nil,
    List.append_nil] at ht hj
  constructor
  · rw [takings_append, verdicts_append, ht, heldAt, after, List.map_append, List.append_assoc, taken,
      List.append_assoc]
  · rw [verdicts_append, calls_append, dueAt, after, List.map_append, List.append_assoc, ← judged,
      ← List.append_assoc, ← hj]

theorem move (h : Handed p log s.crew) (single : Solitary p) (tenancy : Tenancy log s) (hk : k ∈ s.crew)
    {o : Option (Clerk K V)} (after : onDuty p crew' = if p k.toSeat = true then o else onDuty p s.crew)
    (taken : p k.toSeat = true →
      k.held ++ takings p new = (verdicts p new).map Verdict.taking ++ o.toList.flatMap Clerk.held)
    (judged : p k.toSeat = true →
      k.due ++ verdicts p new = (calls p new).map (·.1) ++ o.toList.flatMap Clerk.due)
    (other : p k.toSeat = false → takings p new = [] ∧ verdicts p new = [] ∧ calls p new = []) :
    Handed p (log ++ new) crew' := by
  cases hp : p k.toSeat with
  | true =>
    rw [hp, if_pos rfl] at after
    exact h.turn ((onDuty_iff single tenancy).2 ⟨hk, hp⟩) after (taken hp) (judged hp)
  | false =>
    rw [hp, if_neg Bool.false_ne_true] at after
    obtain ⟨ht, hv, hc⟩ := other hp
    exact h.aside ht hv hc (by rw [heldAt, heldAt, after]) (by rw [dueAt, dueAt, after])

theorem joined (h : Handed p log crew) (s : Seat K V) (prefetch : Nat) :
    Handed p (log ++ [.joined s prefetch]) (crew ++ [⟨s, .idle⟩]) := by
  have idle : ∀ {α : Type} (f : Clerk K V → List α), f ⟨s, .idle⟩ = [] →
      (onDuty p (crew ++ [⟨s, .idle⟩])).toList.flatMap f = (onDuty p crew).toList.flatMap f := by
    intro α f hf
    simp only [onDuty, List.find?_append]
    cases crew.find? fun k => p k.toSeat with
    | some j => rfl
    | none =>
      simp only [Option.none_or, List.find?_cons, List.find?_nil]
      cases p s <;> simp [hf]
  exact h.aside rfl rfl rfl (idle Clerk.held rfl) (idle Clerk.due rfl)

theorem step [DecidableEq K] (single : Solitary p) (tenancy : Tenancy log s) (e : Effect s new s')
    (h : Handed p log s.crew) : Handed p (log ++ new) s'.crew := by
  cases e with
  | joined f x => exact h.joined _ _
  | took k d b found free delivered =>
    refine h.move single tenancy found (onDuty_setPhase single tenancy found _) ?_ ?_ ?_ <;> intro hp <;>
      simp [takings, verdicts, calls, List.filterMap_cons, Mark.taking?, Mark.verdict?, Mark.call?,
        Clerk.held, Clerk.due, free, hp]
  | filed k d key m found held good =>
    have after := onDuty_setPhase single tenancy found (.settling d none)
    have same : (((s.keep k.how.consumer key m).tally k.how.consumer (·.handled none)).setPhase k.tag
        (.settling d none)).crew = (s.setPhase k.tag (.settling d none)).crew :=
      congrArg (List.map _) (s.crew_keep _ key m)
    rw [same]
    refine h.move single tenancy found after ?_ ?_ ?_ <;> intro hp <;>
      simp [takings, verdicts, calls, List.filterMap_cons, Mark.taking?, Mark.verdict?, Mark.call?,
        Clerk.held, Clerk.due, Verdict.taking, held, hp]
  | refused k d why found held bad =>
    refine h.move single tenancy found (onDuty_setPhase single tenancy found _) ?_ ?_ ?_ <;> intro hp <;>
      simp [takings, verdicts, calls, List.filterMap_cons, Mark.taking?, Mark.verdict?, Mark.call?,
        Clerk.held, Clerk.due, Verdict.taking, held, hp]
  | settled k d r u found due | failed k d r why found due =>
    refine h.move single tenancy found (onDuty_setPhase single tenancy found _) ?_ ?_ ?_ <;> intro hp <;>
      simp [takings, verdicts, calls, List.filterMap_cons, Mark.taking?, Mark.verdict?, Mark.call?,
        Clerk.held, Clerk.due, due, hp]
  | crashed k d r cause found due =>
    refine h.move single tenancy found (onDuty_dismiss single tenancy found) ?_ ?_ ?_ <;> intro hp <;>
      simp [takings, verdicts, calls, List.filterMap_cons, Mark.taking?, Mark.verdict?, Mark.call?,
        Clerk.held, Clerk.due, due, hp]
  | departed k found free gone =>
    refine h.move single tenancy found (onDuty_dismiss single tenancy found) ?_ ?_ ?_ <;> intro hp <;>
      simp [takings, verdicts, calls, Clerk.held, Clerk.due, free]
  | _ => exact h.aside rfl rfl rfl rfl rfl

end Handed

end QueueProbe
