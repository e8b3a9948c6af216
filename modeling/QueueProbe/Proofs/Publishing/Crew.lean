import QueueProbe.Proofs.Publishing.Sending
import QueueProbe.Proofs.Publishing.Tally

/-! A crew at work. All that a move can do is said once, in `Move`. Every move of a member at work
takes one off the crew's `toil`, so the crew is done after as many moves as `runCrew` allows. -/

namespace QueueProbe

variable {K V : Type}

/-- The messages a member has in hand. -/
def Hand.grip : Hand → List Nat
  | .holding index => [index]
  | .free | .done | .fallen _ => []

/-- The moves a member has to make with what it is at, and one to find that nothing is left. -/
def Hand.effort : Hand → Nat
  | .free => 1
  | .holding _ => 2
  | .done | .fallen _ => 0

namespace Crew

def held (c : Crew) : Multiset Nat := (c.members.map fun m => (m.hand.grip : Multiset Nat)).sum

/-- How many moves are left to make on a batch of `n` messages. -/
def toil (n : Nat) (c : Crew) : Nat := 2 * (n - c.next) + (c.members.map fun m => m.hand.effort).sum

end Crew

namespace Bench

/-- The messages that the next move of member `i` encodes: the one it holds, if it holds one. -/
def encodes (batch : List (Message V)) (c : Crew) (i : Nat) : List Nat :=
  ((c.members[i]?.map fun m => m.hand.grip).getD []).filter (· < batch.length)

/-- All that a move of member `i` can do, and the messages it encodes. -/
inductive Move (p : Publisher V) (q : String) (batch : List (Message V)) (s : Crew × Bench K V) (i : Nat) :
    List Nat → Crew × Bench K V → Prop where
  | rests (idle : ∀ m, s.1.members[i]? = some m → Crew.isAtWork m = false) : Move p q batch s i [] s
  | claims (m : Member) (found : s.1.members[i]? = some m) (free : m.hand = .free)
      (more : s.1.next < batch.length) : Move p q batch s i []
        ({ s.1.setMember i { m with hand := .holding s.1.next } with next := s.1.next + 1 }, s.2)
  | stops (m : Member) (found : s.1.members[i]? = some m) (free : m.hand = .free)
      (spent : batch.length ≤ s.1.next) : Move p q batch s i []
        ({ s.1.setMember i { m with hand := .done } with next := s.1.next + 1 }, s.2)
  | loses (m : Member) (index : Nat) (found : s.1.members[i]? = some m) (held : m.hand = .holding index)
      (beyond : batch.length ≤ index) : Move p q batch s i [] (s.1.setMember i { m with hand := .done }, s.2)
  | sends (m : Member) (index : Nat) (message : Message V) (w : Bench K V)
      (found : s.1.members[i]? = some m) (held : m.hand = .holding index)
      (entry : batch[index]? = some message) (sent : s.2.sendMessage p q message = (.ok (), w)) :
      Move p q batch s i [index] (s.1.setMember i { hand := .free, tally := m.tally.success }, w)
  | fails (m : Member) (index : Nat) (message : Message V) (e : QueueError) (w : Bench K V)
      (found : s.1.members[i]? = some m) (held : m.hand = .holding index)
      (entry : batch[index]? = some message) (sent : s.2.sendMessage p q message = (.error e, w)) :
      Move p q batch s i [index] (s.1.setMember i { hand := .free, tally := m.tally.failure index e }, w)
  | falls (m : Member) (index : Nat) (message : Message V) (why : Panic) (w : Bench K V)
      (found : s.1.members[i]? = some m) (held : m.hand = .holding index)
      (entry : batch[index]? = some message) (sent : s.2.sendMessage p q message = (.panic why, w)) :
      Move p q batch s i [index] (s.1.setMember i { m with hand := .fallen why }, w)

theorem crewStep_move (p : Publisher V) (q : String) (batch : List (Message V)) (s : Crew × Bench K V)
    (i : Nat) : Move p q batch s i (encodes batch s.1 i) (crewStep p q batch s i) := by
  unfold crewStep encodes
  cases hm : s.1.members[i]? with
  | none => exact .rests fun m h => by simp [hm] at h
  | some m =>
    have hrests : Crew.isAtWork m = false → Move p q batch s i [] s := fun hw =>
      .rests fun m' h => by rw [hm] at h; cases h; exact hw
    simp only [Option.map_some, Option.getD_some]
    cases hh : m.hand with
    | done => exact hrests (by simp [Crew.isAtWork, hh])
    | fallen why => exact hrests (by simp [Crew.isAtWork, hh])
    | free =>
      by_cases hn : s.1.next < batch.length
      · simpa [Hand.grip, hn] using Move.claims m hm hh hn
      · simpa [Hand.grip, hn] using Move.stops m hm hh (Nat.le_of_not_lt hn)
    | holding index =>
      cases hb : batch[index]? with
      | none =>
        have hlen := List.getElem?_eq_none_iff.1 hb
        have hf : [index].filter (· < batch.length) = [] := by simpa using hlen
        simp only [Hand.grip, hf, hb]
        exact .loses m index hm hh hlen
      | some message =>
        have hf : [index].filter (· < batch.length) = [index] := by
          simpa using (List.getElem?_eq_some_iff.1 hb).1
        simp only [Hand.grip, hf, hb]
        rcases hs : s.2.sendMessage p q message with ⟨_ | e | why, w⟩
        · exact .sends m index message w hm hh hb hs
        · exact .fails m index message e w hm hh hb hs
        · exact .falls m index message why w hm hh hb hs

theorem sum_map_set {α M : Type} [AddCommMonoid M] (f : α → M) {xs : List α} {i : Nat} {a : α}
    (h : xs[i]? = some a) (b : α) : ((xs.set i b).map f).sum + f a = (xs.map f).sum + f b := by
  induction xs generalizing i with
  | nil => simp at h
  | cons x xs ih =>
    cases i with
    | zero =>
      obtain rfl : x = a := by simpa using h
      simp only [List.set_cons_zero, List.map_cons, List.sum_cons]
      rw [add_right_comm, add_comm (f b), add_right_comm, add_comm (f x)]
    | succ i =>
      have hi := ih (by simpa using h)
      simp only [List.set_cons_succ, List.map_cons, List.sum_cons, add_assoc, hi]

variable {p : Publisher V} {q : String} {batch : List (Message V)} {s s' : Crew × Bench K V} {i : Nat}
  {log : List Nat}

/-- A move of a member at work leaves less to do, and no other move changes that. -/
theorem toil_move (h : Move p q batch s i log s') : s'.1.toil batch.length ≤ s.1.toil batch.length ∧
    (∀ m, s.1.members[i]? = some m → Crew.isAtWork m = true →
      s'.1.toil batch.length + 1 ≤ s.1.toil batch.length) := by
  have hset : ∀ {m m' : Member} {next : Nat}, s.1.members[i]? = some m →
      2 * (batch.length - next) + m'.hand.effort + 1 ≤ 2 * (batch.length - s.1.next) + m.hand.effort →
      ({ s.1.setMember i m' with next } : Crew).toil batch.length + 1 ≤ s.1.toil batch.length := by
    intro m m' next hm hle
    have hsum := sum_map_set (fun m => m.hand.effort) hm m'
    simp only [Crew.toil, Crew.setMember] at hsum ⊢
    omega
  suffices s' = s ∧ (∀ m, s.1.members[i]? = some m → Crew.isAtWork m = false) ∨
      s'.1.toil batch.length + 1 ≤ s.1.toil batch.length by
    rcases this with ⟨rfl, hi⟩ | hlt
    · exact ⟨le_rfl, fun m hm hw => by simp [hi m hm] at hw⟩
    · exact ⟨by omega, fun _ _ _ => hlt⟩
  cases h with
  | rests idle => exact Or.inl ⟨rfl, idle⟩
  | claims m found free more => exact Or.inr (hset found (by simp [free, Hand.effort]; omega))
  | stops m found free spent => exact Or.inr (hset found (by simp [free, Hand.effort]; omega))
  | loses m index found held beyond => exact Or.inr (hset found (by simp [held, Hand.effort]))
  | sends m index message w found held => exact Or.inr (hset found (by simp [held, Hand.effort]))
  | fails m index message e w found held => exact Or.inr (hset found (by simp [held, Hand.effort]))
  | falls m index message why w found held => exact Or.inr (hset found (by simp [held, Hand.effort]))

/-- The messages encoded by some moves, in the order in which they are. -/
def encodings (p : Publisher V) (q : String) (batch : List (Message V)) :
    List Nat → Crew × Bench K V → List Nat
  | [], _ => []
  | i :: moves, s => encodes batch s.1 i ++ encodings p q batch moves (crewStep p q batch s i)

def finishing (p : Publisher V) (q : String) (batch : List (Message V)) : Nat → Crew × Bench K V → List Nat
  | 0, _ => []
  | fuel + 1, s =>
    match s.1.firstAtWork with
    | some i => i :: finishing p q batch fuel (crewStep p q batch s i)
    | none => []

def moves (p : Publisher V) (q : String) (batch : List (Message V)) (workers : Nat) (schedule : List Nat)
    (w : Bench K V) : List Nat :=
  schedule ++ finishing p q batch (2 * batch.length + workers)
    (schedule.foldl (crewStep p q batch) (Crew.ofSize workers, w))

theorem finishCrew_eq (p : Publisher V) (q : String) (batch : List (Message V)) (fuel : Nat)
    (s : Crew × Bench K V) :
    finishCrew p q batch fuel s = (finishing p q batch fuel s).foldl (crewStep p q batch) s := by
  induction fuel generalizing s with
  | zero => rfl
  | succ fuel ih =>
    unfold finishCrew finishing
    cases s.1.firstAtWork with
    | none => rfl
    | some i => exact ih _

theorem runCrew_eq (p : Publisher V) (q : String) (batch : List (Message V)) (workers : Nat)
    (schedule : List Nat) (w : Bench K V) : runCrew p q batch workers schedule w =
      (moves p q batch workers schedule w).foldl (crewStep p q batch) (Crew.ofSize workers, w) := by
  rw [runCrew, finishCrew_eq, moves, List.foldl_append]

/-- What every move keeps, a crew that starts with it has in the end. -/
theorem runCrew_keeps {Holds : Crew × Bench K V → List Nat → Prop} {workers : Nat} {w : Bench K V}
    (start : Holds (Crew.ofSize workers, w) [])
    (step : ∀ {s log i new s'}, Holds s log → Move p q batch s i new s' → Holds s' (log ++ new))
    (schedule : List Nat) : Holds (runCrew p q batch workers schedule w)
      (encodings p q batch (moves p q batch workers schedule w) (Crew.ofSize workers, w)) := by
  have run : ∀ is s log, Holds s log →
      Holds (is.foldl (crewStep p q batch) s) (log ++ encodings p q batch is s) := by
    intro is
    induction is with
    | nil =>
      intro s log h
      simpa [encodings] using h
    | cons i is ih =>
      intro s log h
      have hi := ih _ _ (step h (crewStep_move p q batch s i))
      rwa [List.append_assoc] at hi
  rw [runCrew_eq]
  exact run _ _ _ start

theorem toil_ofSize (n workers : Nat) : (Crew.ofSize workers).toil n = 2 * n + workers := by
  simp [Crew.toil, Crew.ofSize, Hand.effort]

theorem toil_moves (is : List Nat) :
    (is.foldl (crewStep p q batch) s).1.toil batch.length ≤ s.1.toil batch.length := by
  induction is generalizing s with
  | nil => exact le_rfl
  | cons i is ih => exact ih.trans (toil_move (crewStep_move p q batch s i)).1

theorem firstAtWork_eq_none {c : Crew} {n : Nat} (h : c.toil n = 0) : c.firstAtWork = none := by
  refine List.findIdx?_eq_none_iff.2 fun m hm => ?_
  have hsum : (c.members.map fun m => m.hand.effort).sum = 0 := by
    unfold Crew.toil at h
    omega
  have he : m.hand.effort = 0 := List.sum_eq_zero_iff_forall_eq_nat.1 hsum _ (List.mem_map_of_mem hm)
  unfold Crew.isAtWork
  cases hh : m.hand <;> simp_all [Hand.effort]

theorem finishCrew_rests {fuel : Nat} (h : s.1.toil batch.length ≤ fuel) :
    (finishCrew p q batch fuel s).1.firstAtWork = none := by
  induction fuel generalizing s with
  | zero => exact firstAtWork_eq_none (Nat.le_zero.1 h)
  | succ fuel ih =>
    unfold finishCrew
    cases hf : s.1.firstAtWork with
    | none => exact hf
    | some i =>
      obtain ⟨hi, hw, -⟩ := List.findIdx?_eq_some_iff_getElem.1 hf
      have hlt := (toil_move (crewStep_move p q batch s i)).2 _ (List.getElem?_eq_getElem hi) hw
      exact ih (by omega)

/-- However a schedule goes, in the end nobody is at work. -/
theorem runCrew_rests (p : Publisher V) (q : String) (batch : List (Message V)) (workers : Nat)
    (schedule : List Nat) (w : Bench K V) :
    (runCrew p q batch workers schedule w).1.firstAtWork = none := by
  refine finishCrew_rests ?_
  rw [← toil_ofSize]
  exact toil_moves schedule

theorem Move.size (h : Move p q batch s i log s') : s'.1.members.length = s.1.members.length := by
  cases h <;> simp [Crew.setMember]

theorem runCrew_size (p : Publisher V) (q : String) (batch : List (Message V)) (workers : Nat)
    (schedule : List Nat) (w : Bench K V) :
    (runCrew p q batch workers schedule w).1.members.length = workers := by
  have run : ∀ (is : List Nat) (s : Crew × Bench K V),
      (is.foldl (crewStep p q batch) s).1.members.length = s.1.members.length := by
    intro is
    induction is with
    | nil => exact fun s => rfl
    | cons i is ih => exact fun s => (ih _).trans (crewStep_move p q batch s i).size
  rw [runCrew_eq, run]
  exact List.length_replicate

end Bench
end QueueProbe
