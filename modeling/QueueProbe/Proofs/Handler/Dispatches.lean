import QueueProbe.Proofs.Broker.Conservation
import QueueProbe.Proofs.Handler.Custody

/-! Dispatches. The bench remembers every send that was accepted; nothing else adds to them, and the
record has the same. -/

namespace QueueProbe

variable {K V : Type}

namespace Broker

theorem sentTo_events {a : Act} (b : Broker) (h : ∀ c q l, a ≠ .send c q l) (q : String) :
    sentTo q (b.events a) = 0 := by
  cases a with
  | send c q l => exact absurd rfl (h c q l)
  | deliver t =>
    simp only [events]
    split <;> rfl
  | ack c n =>
    simp only [events]
    split
    · cases b.unacked? n <;> rfl
    · rfl
  | reject c n r =>
    simp only [events]
    split
    · cases b.unacked? n <;> rfl
    · rfl
  | close c =>
    simp only [events]
    split
    · rfl
    · exact sentTo_restored q _
  | _ => rfl

end Broker

namespace Bench

/-- The letters that channels accepted for queue `q`. -/
def accepted (w : Bench K V) (q : String) : Multiset Letter :=
  (w.dispatches.filter (·.queue = q)).map fun x => (⟨x.body, x.properties⟩ : Letter)

variable {w : Bench K V} {log : List (Entry K V)}

/-- A send that is accepted is both recorded and remembered, any other is neither. -/
theorem send_dispatches (w : Bench K V) (c : ChannelId) (q : String) (l : Letter) :
    (w.heard c .send (.send c q l) = [.told (.sent q l)] ∧
      (w.send c q l.body l.properties).2.dispatches = w.dispatches ++ [⟨c, q, l.body, l.properties⟩]) ∨
    (w.heard c .send (.send c q l) = [] ∧ (w.send c q l.body l.properties).2.dispatches = w.dispatches) := by
  unfold send heard through
  cases w.faults.get? (c, .send) with
  | some f => cases f <;> exact Or.inr ⟨rfl, rfl⟩
  | none =>
    simp only [Broker.events]
    rcases w.broker.send_cases c q l with ⟨-, -, h⟩ | ⟨e, h⟩
    · rw [h]; exact Or.inl ⟨rfl, rfl⟩
    · rw [h]; exact Or.inr ⟨rfl, rfl⟩

theorem accepted_send (w : Bench K V) (c : ChannelId) (r : String) (l : Letter) (q : String) :
    (w.send c r l.body l.properties).2.accepted q =
      w.accepted q + Broker.sentTo q (eventsIn (w.heard c .send (.send c r l))) := by
  unfold accepted
  rcases w.send_dispatches c r l with ⟨hr, hd⟩ | ⟨hr, hd⟩
  · have he : eventsIn (w.heard c .send (.send c r l)) = [.sent r l] := by rw [hr]; rfl
    rw [hd, he, Broker.sentTo_singleton, List.filter_append, List.map_append, ← Multiset.coe_add]
    by_cases hq : r = q
    · simp [Broker.Event.sentTo, hq]
    · simp [Broker.Event.sentTo, hq]
  · rw [hd, hr]
    exact (add_zero _).symm

theorem dispatches_through {α : Type} (w : Bench K V) (c : ChannelId) (call : Call)
    (run : Broker → Broker.Answer α) : (w.through c call run).2.dispatches = w.dispatches := by
  unfold through
  split <;> rfl

theorem dispatches_subscribe (w : Bench K V) (c : ChannelId) (q : String) (prefetch : Nat) (duty : Duty K V)
    (credits : Option Nat) : (w.subscribe c q prefetch duty credits).2.dispatches = w.dispatches := by
  have h := dispatches_through w c .subscribe fun b => b.subscribe c q prefetch w.unstarted
  unfold subscribe
  split
  · next hs => rw [hs] at h; exact h
  · exact h

theorem sentTo_heard (w : Bench K V) (c : ChannelId) (call : Call) {a : Broker.Act}
    (ha : ∀ c q l, a ≠ .send c q l) (q : String) : Broker.sentTo q (eventsIn (w.heard c call a)) = 0 := by
  unfold heard
  split
  · rfl
  · rw [eventsIn_told]
    exact w.broker.sentTo_events ha q

theorem sentTo_worked (w : Bench K V) (t : ConsumerTag) (q : String) :
    Broker.sentTo q (eventsIn (w.worked t)) = 0 := by
  unfold worked
  split
  · rfl
  · split
    · rw [eventsIn_told]
      exact w.broker.sentTo_events (by simp) q
    · split
      · unfold handled
        split <;> rfl
      · rfl
    · rfl
    · exact sentTo_heard w _ _ (by simp) q
    · exact sentTo_heard w _ _ (by simp) q

theorem dispatches_keep [DecidableEq K] (w : Bench K V) (n : Nat) (k : K) (m : Message V) :
    (w.keep n k m).dispatches = w.dispatches := by
  unfold keep
  split <;> rfl

variable [DecidableEq K] [Debug K]

theorem dispatches_file (w : Bench K V) (t : ConsumerTag) (f : Filing K V) (d : Delivery) :
    (w.file t f d).dispatches = w.dispatches := by
  unfold file
  split
  · exact dispatches_keep _ _ _ _
  · split <;> rfl

omit [DecidableEq K] [Debug K] in
theorem settle_cases (w : Bench K V) (k : Worker K V) (d : Delivery) (r : Option Bool) :
    ∃ w', (w' = (w.ack k.channel d.tag).2 ∨ ∃ q, w' = (w.reject k.channel d.tag q).2) ∧
      (w.settle k d r = w'.dismiss k.tag ∨
        (∃ n f m, w.settle k d r = ((w'.count n f).note m).setPhase k.tag .idle) ∨
        w.settle k d r = w'.setPhase k.tag .idle) := by
  unfold settle
  cases r with
  | none =>
    refine ⟨_, Or.inl rfl, ?_⟩
    dsimp only
    split
    · exact Or.inl rfl
    · exact Or.inr (Or.inl ⟨_, _, _, rfl⟩)
    · exact Or.inr (Or.inr rfl)
  | some q =>
    refine ⟨_, Or.inr ⟨q, rfl⟩, ?_⟩
    dsimp only
    split
    · exact Or.inl rfl
    · exact Or.inr (Or.inl ⟨_, _, _, rfl⟩)
    · exact Or.inr (Or.inr rfl)

omit [DecidableEq K] [Debug K] in
theorem dispatches_settle (w : Bench K V) (k : Worker K V) (d : Delivery) (r : Option Bool) :
    (w.settle k d r).dispatches = w.dispatches := by
  obtain ⟨w', hw, hs⟩ := w.settle_cases k d r
  have answered : w'.dispatches = w.dispatches := by
    rcases hw with rfl | ⟨q, rfl⟩ <;> exact dispatches_through w _ _ _
  rcases hs with hs | ⟨c, f, m, hs⟩ | hs <;> rw [hs] <;> exact answered

theorem dispatches_advance (clerks : w.view.Staffed) (t : ConsumerTag) :
    ((w.advance t).getD w).dispatches = w.dispatches := by
  unfold advance
  cases hk : w.worker? t with
  | none => rfl
  | some k =>
    dsimp only
    cases hp : k.phase with
    | idle =>
      dsimp only
      split
      · unfold take
        cases w.broker.deliver t <;> rfl
      · simp only [Option.getD_some, depart]
        split <;> rfl
    | holding d =>
      obtain ⟨f, -, duty⟩ := clerks _ (mem_crew (List.mem_of_find?_eq_some hk))
      have duty : k.duty = .filing f := duty
      dsimp only
      split
      · simp only [Option.getD_some, handle, duty]
        exact dispatches_file _ _ _ _
      · rfl
    | settling d r => exact dispatches_settle w k d r

theorem accepted_perform (clerks : w.view.Staffed) (d : Deed K V) (q : String) :
    (w.perform d).accepted q = w.accepted q + Broker.sentTo q (eventsIn (w.entries d)) := by
  -- all but a send
  have kept : (w.perform d).dispatches = w.dispatches → Broker.sentTo q (eventsIn (w.entries d)) = 0 →
      (w.perform d).accepted q = w.accepted q + Broker.sentTo q (eventsIn (w.entries d)) := by
    intro hd hs
    rw [accepted, hd, hs, add_zero, accepted]
  cases d with
  | send c r l => exact w.accepted_send c r l q
  | declare r => exact kept rfl rfl
  | declareAnonymous => exact kept rfl rfl
  | openChannel =>
    refine kept ?_ rfl
    simp only [perform, Bench.openChannel]
    split <;> rfl
  | connect up late => exact kept rfl rfl
  | fault c call f => exact kept rfl rfl
  | crowd shortage => exact kept rfl rfl
  | build p =>
    refine kept ?_ rfl
    simp only [perform, build]
    split
    · rfl
    · simp only [newConsumer]
      split <;> rfl
  | subscribe n credits =>
    refine kept ?_ rfl
    simp only [perform]
    split
    · rfl
    · split
      · rfl
      · exact dispatches_subscribe w _ _ _ _ _
  | leave c t => exact kept (dispatches_through w _ _ _) rfl
  | close c =>
    refine kept rfl ?_
    rw [entries, eventsIn_told]
    exact w.broker.sentTo_events (by simp) q
  | work t =>
    refine kept (dispatches_advance clerks t) ?_
    exact sentTo_worked w t q
  | grant c n =>
    refine kept ?_ rfl
    simp only [perform, grant]
    split <;> rfl
  | note m => exact kept rfl rfl
  | active n change => exact kept rfl rfl
  | state n change => exact kept rfl rfl

end Bench
end QueueProbe
