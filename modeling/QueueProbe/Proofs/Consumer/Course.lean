import Mathlib.Algebra.BigOperators.Group.List.Basic
import Mathlib.Algebra.GroupWithZero.Nat
import Mathlib.Data.List.Perm.Basic
import QueueProbe.Proofs.Broker.Lanes

/-! The course of letters through a queue with one consumer. The letter in front is next: a good one
is kept, a bad one goes to the back until it was delivered `life` times and is then lost. Letters
may be posted at any time. Good letters are kept in the order they were sent, and bad ones lost in
that order: one that was sent earlier was delivered as often as one sent later, and once more if it
stands behind it. -/

namespace QueueProbe

structure Course where
  sent : List Letter := []
  /-- The next first; the one in the consumer's hands counts as the next. -/
  line : List Item := []
  kept : List Letter := []
  lost : List Letter := []
  delivered : Nat := 0
  rejected : Nat := 0
deriving DecidableEq, Repr

namespace Course

def post (c : Course) (l : Letter) : Course :=
  { c with sent := c.sent ++ [l], line := c.line ++ [⟨c.sent.length, l, 0⟩] }

variable (good : Letter → Bool) (life : Nat)

def next (c : Course) : Course :=
  match c.line with
  | [] => c
  | x :: rest =>
    if good x.letter then
      { c with line := rest, kept := c.kept ++ [x.letter], delivered := c.delivered + 1 }
    else if x.count + 1 < life then
      { c with
        line := rest ++ [{ x with count := x.count + 1 }]
        delivered := c.delivered + 1
        rejected := c.rejected + 1 }
    else { c with line := rest, lost := c.lost ++ [x.letter], delivered := c.delivered + 1 }

def stamp (x : Item) : Nat × Letter := (x.place, x.letter)

/-- How two letters in line stand to each other, the first in front of the second. -/
def InFront (x y : Item) : Prop :=
  (x.place < y.place ∧ y.count ≤ x.count) ∨ (y.place < x.place ∧ x.count < y.count)

/-- The deliveries still to come. -/
def due (x : Item) : Nat := if good x.letter then 1 else life - x.count

def left (c : Course) : Nat := (c.line.map (due good life)).sum

def bads (c : Course) : List Item := c.line.filter fun x => !good x.letter

structure Fair (c : Course) : Prop where
  order : c.line.Pairwise InFront
  alive : ∀ x ∈ c.line, x.count < life
  placed : ∀ x ∈ c.line, x.place < c.sent.length
  keeping : c.sent.filter good = c.kept ++ (c.line.filter fun x => good x.letter).map (·.letter)
  /-- The bad letters in line, in the order they were sent, follow those that are lost. -/
  losing : ∃ rest : List (Nat × Letter), rest.Pairwise (·.1 < ·.1) ∧
    rest.Perm ((c.bads good).map stamp) ∧
    c.sent.filter (fun l => !good l) = c.lost ++ rest.map (·.2)
  returned : c.rejected = ((c.bads good).map (·.count)).sum + c.lost.length * (life - 1)
  owed : c.delivered + c.left good life =
    c.sent.countP good + c.sent.countP (fun l => !good l) * life

namespace Fair

variable {good : Letter → Bool} {life : Nat} {c : Course}

theorem start : Fair good life {} := by
  constructor <;> simp [bads, left]

theorem post (h : Fair good life c) (hlife : 0 < life) (l : Letter) : Fair good life (c.post l) where
  order := by
    refine List.pairwise_append.2 ⟨h.order, List.pairwise_singleton _ _, fun x hx y hy => ?_⟩
    rw [List.mem_singleton.1 hy]
    exact Or.inl ⟨h.placed x hx, Nat.zero_le _⟩
  alive x hx := by
    rcases List.mem_append.1 hx with hx | hx
    · exact h.alive x hx
    · rw [List.mem_singleton.1 hx]; exact hlife
  placed x hx := by
    have hlen : (c.post l).sent.length = c.sent.length + 1 := by simp [Course.post]
    rw [hlen]
    rcases List.mem_append.1 hx with hx | hx
    · exact Nat.lt_succ_of_lt (h.placed x hx)
    · rw [List.mem_singleton.1 hx]; exact Nat.lt_succ_self _
  keeping := by
    simp only [Course.post, List.filter_append, h.keeping, List.map_append, List.append_assoc]
    by_cases hl : good l <;> simp [hl]
  losing := by
    obtain ⟨rest, hr, hp, hs⟩ := h.losing
    by_cases hl : good l
    · exact ⟨rest, hr, by simpa [Course.post, bads, hl] using hp, by simpa [Course.post, hl] using hs⟩
    · refine ⟨rest ++ [(c.sent.length, l)], ?_, ?_, ?_⟩
      · refine List.pairwise_append.2 ⟨hr, List.pairwise_singleton _ _, fun a ha b hb => ?_⟩
        rw [List.mem_singleton.1 hb]
        obtain ⟨x, hx, rfl⟩ := List.mem_map.1 (hp.subset ha)
        exact h.placed x (List.mem_filter.1 hx).1
      · simpa [Course.post, bads, hl, stamp] using hp.append_right [(c.sent.length, l)]
      · simp [Course.post, hl, hs]
  returned := by
    by_cases hl : good l <;> simpa [Course.post, bads, hl] using h.returned
  owed := by
    have ho := h.owed
    have hleft : (c.post l).left good life = c.left good life + if good l then 1 else life := by
      simp [Course.post, left, due]
    have hd : (c.post l).delivered = c.delivered := rfl
    have hs : (c.post l).sent = c.sent ++ [l] := rfl
    rw [hleft, hd, hs, List.countP_append, List.countP_append, Nat.add_mul]
    by_cases hl : good l
    · simp only [List.countP_singleton, hl, if_true, Bool.not_true, Bool.false_eq_true, if_false]
      omega
    · simp only [List.countP_singleton, hl, if_false, Bool.not_false, if_true, Bool.false_eq_true]
      omega

theorem head_of_first {a : Nat × Letter} {others rest : List (Nat × Letter)}
    (hr : rest.Pairwise (·.1 < ·.1)) (hp : rest.Perm (a :: others)) (ha : ∀ b ∈ others, a.1 < b.1) :
    ∃ tail, rest = a :: tail ∧ tail.Perm others := by
  cases rest with
  | nil => simp at hp
  | cons b tail =>
    rw [List.pairwise_cons] at hr
    rcases List.mem_cons.1 (hp.subset List.mem_cons_self) with rfl | hb
    · exact ⟨tail, rfl, hp.cons_inv⟩
    · have hab := ha b hb
      rcases List.mem_cons.1 (hp.symm.subset List.mem_cons_self) with rfl | hat
      · exact absurd hab (Nat.lt_irrefl _)
      · exact absurd hab (Nat.lt_asymm (hr.1 a hat))

variable {x : Item} {rest : List Item}

theorem next_kept (h : Fair good life c) (hl : c.line = x :: rest) (hx : good x.letter = true) :
    Fair good life { c with
      line := rest, kept := c.kept ++ [x.letter], delivered := c.delivered + 1 } where
  order := (List.pairwise_cons.1 (hl ▸ h.order)).2
  alive y hy := h.alive y (hl ▸ List.mem_cons_of_mem x hy)
  placed y hy := h.placed y (hl ▸ List.mem_cons_of_mem x hy)
  keeping := by
    have hk := h.keeping
    rw [hl] at hk
    simpa [hx] using hk
  losing := by simpa [bads, hl, hx] using h.losing
  returned := by simpa [bads, hl, hx] using h.returned
  owed := by
    have ho := h.owed
    simp only [left, hl, List.map_cons, List.sum_cons, due, hx, if_true] at ho
    simp only [left]
    omega

/-- A bad letter goes to the back, once more delivered. Who was sent later and stands there already was
not delivered more often. -/
theorem next_back (h : Fair good life c) (hl : c.line = x :: rest) (hx : good x.letter = false)
    (hc : x.count + 1 < life) : Fair good life { c with
      line := rest ++ [{ x with count := x.count + 1 }]
      delivered := c.delivered + 1
      rejected := c.rejected + 1 } where
  order := by
    have ho := List.pairwise_cons.1 (hl ▸ h.order)
    refine List.pairwise_append.2 ⟨ho.2, List.pairwise_singleton _ _, fun y hy z hz => ?_⟩
    rw [List.mem_singleton.1 hz]
    rcases ho.1 y hy with ⟨hp, hn⟩ | ⟨hp, hn⟩
    · exact Or.inr ⟨hp, Nat.lt_succ_of_le hn⟩
    · exact Or.inl ⟨hp, hn⟩
  alive y hy := by
    rcases List.mem_append.1 hy with hy | hy
    · exact h.alive y (hl ▸ List.mem_cons_of_mem x hy)
    · rw [List.mem_singleton.1 hy]; exact hc
  placed y hy := by
    rcases List.mem_append.1 hy with hy | hy
    · exact h.placed y (hl ▸ List.mem_cons_of_mem x hy)
    · rw [List.mem_singleton.1 hy]; exact h.placed x (hl ▸ List.mem_cons_self)
  keeping := by
    have hk := h.keeping
    rw [hl] at hk
    simpa [hx] using hk
  losing := by
    obtain ⟨alive, hr, hp, hs⟩ := h.losing
    refine ⟨alive, hr, hp.trans ?_, hs⟩
    simp only [bads, hl, List.filter_append, List.filter_cons, hx, Bool.not_false, if_true,
      List.filter_nil, List.map_append, List.map_cons, List.map_nil, stamp]
    exact (List.perm_append_singleton _ _).symm
  returned := by
    have hr := h.returned
    simp only [bads, hl, List.filter_cons, hx, Bool.not_false, if_true, List.map_cons,
      List.sum_cons] at hr
    simp only [bads, List.filter_append, List.filter_cons, hx, Bool.not_false, if_true,
      List.filter_nil, List.map_append, List.map_cons, List.map_nil, List.sum_append,
      List.sum_cons, List.sum_nil]
    omega
  owed := by
    have ho := h.owed
    simp only [left, hl, List.map_cons, List.sum_cons, due, hx] at ho
    simp only [left, due, List.map_append, List.map_cons, List.map_nil, List.sum_append,
      List.sum_cons, List.sum_nil, hx]
    simp only [Bool.false_eq_true, if_false] at ho ⊢
    omega

/-- A bad letter that was delivered often enough is lost. None that was sent earlier is in line: it
would stand behind and have been delivered more often. -/
theorem next_lost (h : Fair good life c) (hl : c.line = x :: rest) (hx : good x.letter = false)
    (hc : ¬x.count + 1 < life) : Fair good life { c with
      line := rest, lost := c.lost ++ [x.letter], delivered := c.delivered + 1 } where
  order := (List.pairwise_cons.1 (hl ▸ h.order)).2
  alive y hy := h.alive y (hl ▸ List.mem_cons_of_mem x hy)
  placed y hy := h.placed y (hl ▸ List.mem_cons_of_mem x hy)
  keeping := by
    have hk := h.keeping
    rw [hl] at hk
    simpa [hx] using hk
  losing := by
    obtain ⟨alive, hr, hp, hs⟩ := h.losing
    simp only [bads, hl, List.filter_cons, hx, Bool.not_false, if_true, List.map_cons] at hp
    have hfirst : ∀ b ∈ (rest.filter fun y => !good y.letter).map stamp, (stamp x).1 < b.1 := by
      intro b hb
      obtain ⟨y, hy, rfl⟩ := List.mem_map.1 hb
      have hy := (List.mem_filter.1 hy).1
      rcases (List.pairwise_cons.1 (hl ▸ h.order)).1 y hy with ⟨hp, -⟩ | ⟨-, hn⟩
      · exact hp
      · have := h.alive y (hl ▸ List.mem_cons_of_mem x hy)
        omega
    obtain ⟨tail, rfl, ht⟩ := head_of_first hr hp hfirst
    exact ⟨tail, (List.pairwise_cons.1 hr).2, ht, by simp [hs, stamp]⟩
  returned := by
    have hr := h.returned
    have ha := h.alive x (hl ▸ List.mem_cons_self)
    simp only [bads, hl, List.filter_cons, hx, Bool.not_false, if_true, List.map_cons,
      List.sum_cons] at hr
    simp only [bads, List.length_append, List.length_singleton, Nat.succ_mul]
    omega
  owed := by
    have ho := h.owed
    have ha := h.alive x (hl ▸ List.mem_cons_self)
    simp only [left, hl, List.map_cons, List.sum_cons, due, hx] at ho
    simp only [Bool.false_eq_true, if_false] at ho
    simp only [left]
    omega

theorem mem_sent (h : Fair good life c) {x : Item} (hx : x ∈ c.line) : x.letter ∈ c.sent := by
  cases hg : good x.letter with
  | true =>
    have hk : x.letter ∈ c.sent.filter good := by
      rw [h.keeping]
      exact List.mem_append_right _ (List.mem_map_of_mem (List.mem_filter.2 ⟨hx, hg⟩))
    exact (List.mem_filter.1 hk).1
  | false =>
    obtain ⟨rest, -, hp, hs⟩ := h.losing
    have hr : stamp x ∈ rest :=
      hp.symm.subset (List.mem_map_of_mem (List.mem_filter.2 ⟨hx, by simp [hg]⟩))
    have hl : x.letter ∈ c.sent.filter fun l => !good l := by
      rw [hs]
      exact List.mem_append_right _ (List.mem_map.2 ⟨_, hr, rfl⟩)
    exact (List.mem_filter.1 hl).1

theorem next (h : Fair good life c) : Fair good life (c.next good life) := by
  unfold Course.next
  cases hl : c.line with
  | nil => exact h
  | cons x rest =>
    dsimp only
    cases hx : good x.letter with
    | true => simpa only [if_true] using h.next_kept hl hx
    | false =>
      by_cases hc : x.count + 1 < life
      · simpa only [Bool.false_eq_true, if_false, hc, if_true] using h.next_back hl hx hc
      · simpa only [Bool.false_eq_true, if_false, hc] using h.next_lost hl hx hc

/-- Every step brings the end nearer by one delivery. -/
theorem left_next (h : Fair good life c) (hn : c.line ≠ []) :
    (c.next good life).left good life + 1 = c.left good life := by
  have h₁ := h.owed
  have h₂ := h.next.owed
  have hd : (c.next good life).delivered = c.delivered + 1 := by
    unfold Course.next
    cases hl : c.line with
    | nil => exact absurd hl hn
    | cons x rest => dsimp only; split <;> [rfl; split <;> rfl]
  have hs : (c.next good life).sent = c.sent := by
    unfold Course.next
    split <;> [rfl; split <;> [rfl; split <;> rfl]]
  rw [hs] at h₂
  omega

end Fair
end Course
end QueueProbe
