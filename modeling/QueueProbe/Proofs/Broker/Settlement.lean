import QueueProbe.Proofs.Broker.Tags

/-! Settlement. What is settled is settled for good: no delivery is acked twice, and the dead letters
of a queue are the bodies given up, in the order in which they were. -/

namespace QueueProbe.Broker

/-- The entry that the event takes off the broker for good. -/
def Event.settled? : Event → Option Unacked
  | .acked u | .rejected u _ => some u
  | .sent _ _ | .delivered _ _ | .restored _ => none

/-- The body that the event adds to the dead letters of queue `q`. -/
def Event.lostFrom (q : String) : Event → Option Envelope
  | .rejected u false => if u.queue = q then some u.envelope else none
  | _ => none

/-- The delivery of queue `q` that the event acks, by its tag. -/
def Event.ackOf (q : String) : Event → Option (Nat × Letter)
  | .acked u => if u.queue = q then some (u.tag, u.envelope.letter) else none
  | _ => none

def lostFrom (q : String) (es : List Event) : List Envelope := es.filterMap (Event.lostFrom q)

theorem lostFrom_append (q : String) (es fs : List Event) :
    lostFrom q (es ++ fs) = lostFrom q es ++ lostFrom q fs :=
  List.filterMap_append

variable {b b' : Broker} {es new : List Event}

theorem Run.acks_nodup (h : Run es b) (q : String) : (es.filterMap (Event.ackOf q)).Nodup := by
  have once := h.tagged.once
  rw [List.Nodup, List.pairwise_map, finished, List.pairwise_filterMap] at once
  rw [List.Nodup, List.pairwise_filterMap]
  refine once.imp fun {e e'} hne x hx y hy hxy => ?_
  have ended : ∀ {e : Event} {x : Nat × Letter}, e.ackOf q = some x → ∃ c, e.finish = some (x.1, c) := by
    intro e x hx
    cases e with
    | acked u =>
      obtain ⟨-, hx⟩ := Option.ite_none_right_eq_some.1 hx
      obtain rfl := Option.some.inj hx
      exact ⟨u.channel, rfl⟩
    | _ => cases hx
  obtain ⟨c, hc⟩ := ended hx
  obtain ⟨c', hc'⟩ := ended hy
  have hn : x.1 = y.1 := congrArg Prod.fst hxy
  exact hne _ hc _ hc' hn

theorem deadOf_change (h : Sound b) (c : Change b es b') (q : String) :
    b'.deadOf q = b.deadOf q ++ lostFrom q es := by
  cases c with
  | declared r n new => simp [deadOf_declared new, lostFrom]
  | sent c r l usable known => simp [lostFrom, Event.lostFrom]
  | delivered s x e rest found up room queue front => simp [lostFrom, Event.lostFrom]
  | acked u usable found => simp [lostFrom, Event.lostFrom]
  | rejected u k usable found =>
    rw [deadOf_refused (b := b.settled u) (h.housed u (List.mem_of_find?_eq_some found)), deadOf_settled]
    congr 1
    cases k with
    | true => simp [lostFrom, Event.lostFrom]
    | false => by_cases hq : u.queue = q <;> simp [lostFrom, Event.lostFrom, hq, Ne.symm]
  | closed c still => simp [lostFrom, Event.lostFrom]
  | _ => exact (List.append_nil _).symm

theorem Run.deadOf (h : Run es b) (q : String) : b.deadOf q = lostFrom q es := by
  induction h with
  | nil => rfl
  | snoc a run ih => rw [deadOf_change run.sound (Broker.change _ a), ih, lostFrom_append]

end QueueProbe.Broker
