import Mathlib.Tactic.Abel
import QueueProbe.Proofs.Publishing.Crew

/-! How a crew shares a batch out. Who claims which message, and what becomes of it, is kept account of
without regard to the bench that the messages are sent on: of each send only the answer matters. In
the end every message was claimed once, and the verdict is that on the first one refused. -/

namespace QueueProbe

variable {K V : Type}

theorem forall₂_set {α β : Type} {R : α → β → Prop} {xs : List α} {ys : List β} {i : Nat} {x : α}
    (h : List.Forall₂ R xs ys) (hx : xs[i]? = some x) :
    ∃ y, ys[i]? = some y ∧ R x y ∧ ∀ x' y', R x' y' → List.Forall₂ R (xs.set i x') (ys.set i y') := by
  induction h generalizing i with
  | nil => simp at hx
  | @cons a b xs ys hab h ih =>
    cases i with
    | zero =>
      obtain rfl : a = x := by simpa using hx
      exact ⟨b, rfl, hab, fun _ _ hy => .cons hy h⟩
    | succ i =>
      obtain ⟨y, hy, hr, hset⟩ := ih (by simpa using hx)
      exact ⟨y, by simpa using hy, hr, fun _ _ hy => .cons hab (hset _ _ hy)⟩

theorem Hand.grip_eq_nil {m : Member} (h : Crew.isAtWork m = false) : m.hand.grip = [] := by
  unfold Crew.isAtWork at h
  cases hh : m.hand <;> simp_all [Hand.grip]

namespace Crew

variable {c : Crew} {m m' : Member} {i index n n' : Nat} {log new more : List Nat}

open Bench in
/-- Of the messages a member took on, whatever it encoded is in the log and the others are in its
hands; so the account stays right. -/
theorem account_set (found : c.members[i]? = some m) (account : (log : Multiset Nat) + c.held = Multiset.range n)
    (hrange : List.range n' = List.range n ++ more) (hgrip : new ++ m'.hand.grip = m.hand.grip ++ more) :
    ((log ++ new : List Nat) : Multiset Nat) + (c.setMember i m').held = Multiset.range n' := by
  have hset := sum_map_set (fun m => (m.hand.grip : Multiset Nat)) found m'
  have hg : (new : Multiset Nat) + m'.hand.grip = m.hand.grip + more := by
    rw [Multiset.coe_add, hgrip, Multiset.coe_add]
  have hr : Multiset.range n' = Multiset.range n + more := by
    rw [Multiset.range, hrange, ← Multiset.coe_add]
    rfl
  refine add_right_cancel (b := (m.hand.grip : Multiset Nat)) ?_
  calc ((log ++ new : List Nat) : Multiset Nat) + (c.setMember i m').held + m.hand.grip
      = log + new + ((c.setMember i m').held + m.hand.grip) := by rw [← Multiset.coe_add, add_assoc]
    _ = log + new + (c.held + m'.hand.grip) := by rw [held, setMember, hset, held]
    _ = log + c.held + (new + m'.hand.grip) := by abel
    _ = Multiset.range n' + m.hand.grip := by rw [account, hg, hr]; abel

theorem order_set (one : c.members.length = 1) (found : c.members[i]? = some m)
    (order : log ++ c.members.flatMap (·.hand.grip) = List.range n)
    (hrange : List.range n' = List.range n ++ more) (hgrip : new ++ m'.hand.grip = m.hand.grip ++ more) :
    (log ++ new) ++ (c.setMember i m').members.flatMap (·.hand.grip) = List.range n' := by
  obtain ⟨a, ha⟩ := List.length_eq_one_iff.1 one
  rw [ha] at found order
  obtain ⟨rfl, rfl⟩ : i = 0 ∧ a = m := by cases i <;> simp_all
  simp only [setMember, ha, List.set_cons_zero, List.flatMap_singleton] at order ⊢
  rw [List.append_assoc, hgrip, ← List.append_assoc, order, hrange]

theorem holding_lt (account : (log : Multiset Nat) + c.held = Multiset.range n)
    (found : c.members[i]? = some m) (holds : m.hand = .holding index) : index < n := by
  obtain ⟨xs, ys, hs⟩ := List.append_of_mem (List.mem_of_getElem? found)
  have hm : index ∈ c.held := by simp [held, hs, holds, Hand.grip]
  have hr : index ∈ Multiset.range n := by
    rw [← account]
    exact Multiset.mem_add.2 (Or.inr hm)
  exact Multiset.mem_range.1 hr

section Rest

variable (rests : c.firstAtWork = none)
include rests

theorem not_isAtWork : ∀ m ∈ c.members, isAtWork m = false := by
  intro m hm
  simpa using List.findIdx?_eq_none_iff.1 rests m hm

theorem held_eq_zero : c.held = 0 := by
  refine List.sum_eq_zero fun B hB => ?_
  obtain ⟨m, hm, rfl⟩ := List.mem_map.1 hB
  rw [Hand.grip_eq_nil (not_isAtWork rests m hm), Multiset.coe_nil]

theorem grips_eq_nil : c.members.flatMap (·.hand.grip) = [] :=
  List.flatMap_eq_nil_iff.2 fun m hm => Hand.grip_eq_nil (not_isAtWork rests m hm)

end Rest
end Crew

namespace Bench

/-- How far a crew of so many workers has come with a batch, once it encoded the messages of `log`;
`refused` says what a message is refused for. -/
structure Claiming (batch : List (Message V)) (refused : Message V → Option QueueError) (workers : Nat)
    (c : Crew) (log : List Nat) : Prop where
  size : c.members.length = workers
  spent : ∀ m ∈ c.members, m.hand = .done → batch.length ≤ c.next
  upright : ∀ m ∈ c.members, ∀ why, m.hand ≠ .fallen why
  /-- Every message claimed so far is encoded or in somebody's hands. -/
  accounted : (log : Multiset Nat) + c.held = Multiset.range (min c.next batch.length)
  ordered : workers = 1 → log ++ c.members.flatMap (·.hand.grip) = List.range (min c.next batch.length)
  tallied : ∃ shares : List (Multiset Nat), shares.sum = log ∧
    List.Forall₂ (fun m B => m.tally.Covers (fun i => batch[i]?.bind refused) B) c.members shares

theorem Move.bench {p : Publisher V} {q : String} {batch : List (Message V)} {s s' : Crew × Bench K V}
    {i : Nat} {new : List Nat} (h : Move p q batch s i new s') : (new = [] ∧ s'.2 = s.2) ∨
      ∃ index message, new = [index] ∧ batch[index]? = some message ∧
        s'.2 = (s.2.sendMessage p q message).2 := by
  cases h with
  | sends m index message w found held entry sent => exact Or.inr ⟨index, message, rfl, entry, by rw [sent]⟩
  | fails m index message e w found held entry sent =>
    exact Or.inr ⟨index, message, rfl, entry, by rw [sent]⟩
  | falls m index message why w found held entry sent =>
    exact Or.inr ⟨index, message, rfl, entry, by rw [sent]⟩
  | _ => exact Or.inl ⟨rfl, rfl⟩

namespace Claiming

variable {p : Publisher V} {q : String} {batch : List (Message V)} {refused : Message V → Option QueueError}
  {c : Crew} {s s' : Crew × Bench K V} {i next index workers : Nat} {log : List Nat} {m : Member}

theorem start : Claiming batch refused workers (Crew.ofSize workers) [] where
  size := List.length_replicate
  spent m hm := by simp [(List.mem_replicate.1 hm).2]
  upright m hm why := by simp [(List.mem_replicate.1 hm).2]
  accounted := by simp [Crew.ofSize, Crew.held, Hand.grip]
  ordered _ := by simp [Crew.ofSize, Hand.grip]
  tallied := by
    refine ⟨List.replicate workers 0, by simp, ?_⟩
    induction workers with
    | zero => exact .nil
    | succ n ih => exact .cons .empty ih

/-- One member moves on: it has encoded `new`, and `more` was claimed. -/
theorem replace (h : Claiming batch refused workers c log) (m' : Member) (new more : List Nat)
    (found : c.members[i]? = some m) (hnext : c.next ≤ next)
    (hdone : m'.hand = .done → batch.length ≤ next)
    (hup : ∀ why, m'.hand ≠ .fallen why)
    (hrange : List.range (min next batch.length) = List.range (min c.next batch.length) ++ more)
    (hgrip : new ++ m'.hand.grip = m.hand.grip ++ more)
    (hcovers : ∀ B, m.tally.Covers (fun i => batch[i]?.bind refused) B →
      m'.tally.Covers (fun i => batch[i]?.bind refused) (B + new)) :
    Claiming batch refused workers { c.setMember i m' with next } (log ++ new) where
  size := (List.length_set ..).trans h.size
  spent k hk hd := by
    rcases List.mem_or_eq_of_mem_set hk with hk | rfl
    · exact (h.spent k hk hd).trans hnext
    · exact hdone hd
  upright k hk := by
    rcases List.mem_or_eq_of_mem_set hk with hk | rfl
    · exact h.upright k hk
    · exact hup
  accounted := Crew.account_set found h.accounted hrange hgrip
  ordered hone := Crew.order_set (h.size.trans hone) found (h.ordered hone) hrange hgrip
  tallied := by
    obtain ⟨shares, hsum, hall⟩ := h.tallied
    obtain ⟨B, hB, hcov, hset⟩ := forall₂_set hall found
    refine ⟨shares.set i (B + new), ?_, hset _ _ (hcovers B hcov)⟩
    have hs := sum_map_set id hB (B + new)
    simp only [List.map_id, id, hsum] at hs
    refine add_right_cancel (b := B) ?_
    rw [hs, ← Multiset.coe_add]
    abel

theorem holding_lt (h : Claiming batch refused workers c log) (found : c.members[i]? = some m)
    (held : m.hand = .holding index) : index < batch.length :=
  (Crew.holding_lt h.accounted found held).trans_le (Nat.min_le_right _ _)

/-- A move takes the crew on if what it sends is answered as `refused` says. -/
theorem step (h : Claiming batch refused workers s.1 log)
    (answers : ∀ message ∈ batch, (s.2.sendMessage p q message).1 =
      match refused message with | none => .ok () | some e => .error e) {new : List Nat}
    (hmove : Move p q batch s i new s') : Claiming batch refused workers s'.1 (log ++ new) := by
  cases hmove with
  | rests idle => simpa using h
  | claims m found free more =>
    refine h.replace { m with hand := .holding s.1.next } [] [s.1.next] found (Nat.le_succ _)
      (by simp) (by simp) ?_ (by simp [Hand.grip, free]) (by simp)
    rw [Nat.min_eq_left more, Nat.min_eq_left (Nat.le_of_lt more), List.range_succ]
  | stops m found free spent =>
    refine h.replace { m with hand := .done } [] [] found (Nat.le_succ _)
      (fun _ => spent.trans (Nat.le_succ _)) (by simp) ?_ (by simp [Hand.grip, free]) (by simp)
    rw [Nat.min_eq_right spent, Nat.min_eq_right (spent.trans (Nat.le_succ _)), List.append_nil]
  | loses m index found held beyond => exact absurd (h.holding_lt found held) (Nat.not_lt.2 beyond)
  | sends m index message w' found held entry sent =>
    have hs := answers message (List.mem_of_getElem? entry)
    have hv : refused message = none := by
      cases hr : refused message <;> simp_all
    refine h.replace { hand := .free, tally := m.tally.success } [index] [] found le_rfl (by simp)
      (by simp) (by simp) (by simp [Hand.grip, held]) (fun B hB => ?_)
    rw [Multiset.coe_singleton, add_comm, Multiset.singleton_add]
    exact hB.success (by simpa [entry] using hv)
  | fails m index message e w' found held entry sent =>
    have hs := answers message (List.mem_of_getElem? entry)
    have hv : refused message = some e := by
      cases hr : refused message <;> simp_all
    refine h.replace { hand := .free, tally := m.tally.failure index e } [index] [] found le_rfl (by simp)
      (by simp) (by simp) (by simp [Hand.grip, held]) (fun B hB => ?_)
    rw [Multiset.coe_singleton, add_comm, Multiset.singleton_add]
    exact hB.failure (by simpa [entry] using hv)
  | falls m index message why w' found held entry sent =>
    have hs := answers message (List.mem_of_getElem? entry)
    cases hr : refused message <;> simp [sent, hr] at hs

section Rest

variable (h : Claiming batch refused workers c log) (rests : c.firstAtWork = none)
include h rests

theorem done : ∀ m ∈ c.members, m.hand = .done := by
  intro m hm
  have hw := Crew.not_isAtWork rests m hm
  cases hh : m.hand with
  | done => rfl
  | fallen why => exact absurd hh (h.upright m hm why)
  | free => simp [Crew.isAtWork, hh] at hw
  | holding index => simp [Crew.isAtWork, hh] at hw

theorem falls_eq : c.falls = [] := by
  refine List.filterMap_eq_nil_iff.2 fun m hm => ?_
  simp [h.done rests m hm]

theorem log_perm (hw : 0 < workers) : log.Perm (List.range batch.length) := by
  obtain ⟨m, hm⟩ := List.exists_mem_of_length_pos (h.size.symm ▸ hw)
  have hover := h.spent m hm (h.done rests m hm)
  have ha := h.accounted
  rw [Crew.held_eq_zero rests, add_zero, Nat.min_eq_right hover] at ha
  exact Multiset.coe_eq_coe.1 ha

theorem log_eq (hw : workers = 1) : log = List.range batch.length := by
  obtain ⟨m, hm⟩ := List.exists_mem_of_length_pos (h.size.symm ▸ hw ▸ Nat.one_pos)
  have hover := h.spent m hm (h.done rests m hm)
  have ho := h.ordered hw
  rwa [Crew.grips_eq_nil rests, List.append_nil, Nat.min_eq_right hover] at ho

/-- The verdict on the batch is that on its first failure. -/
theorem verdict (hw : 0 < workers) : (publishVerdict q batch.length workers c).1 =
    match batch.findSome? refused with
    | none => .ok batch.length
    | some e => .error e := by
  obtain ⟨shares, hsum, hall⟩ := h.tallied
  have hcov : c.tally.Covers (fun i => batch[i]?.bind refused) (0 + shares.sum) :=
    .foldl hall .empty
  rw [zero_add, hsum, Multiset.coe_eq_coe.2 (h.log_perm rests hw)] at hcov
  obtain ⟨hfirst, hsent⟩ := hcov.batch
  rw [← hfirst, publishVerdict, h.falls_eq rests]
  cases ht : c.tally with
  | mk sent first =>
    rw [ht] at hsent
    cases first with
    | none => simp [← hsent rfl]
    | some failure => rfl

end Rest
end Claiming
end Bench
end QueueProbe
