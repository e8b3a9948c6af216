import Mathlib.Algebra.Order.Group.Multiset
import Mathlib.Tactic.Abel
import QueueProbe.Proofs.Broker.Contents

/-! Conservation. What a queue accepted is in one of four places: ready, unacked, dead, or acked and
gone. This holds letter by letter and with multiplicity, after every run. -/

namespace QueueProbe.Broker

def Event.sentTo (q : String) : Event → Option Letter
  | .sent r l => if r = q then some l else none
  | _ => none

def Event.ackedFrom (q : String) : Event → Option Letter
  | .acked u => if u.queue = q then some u.envelope.letter else none
  | _ => none

/-- The letters that queue `q` accepted. -/
def sentTo (q : String) (es : List Event) : Multiset Letter := es.filterMap (Event.sentTo q)

/-- The letters of queue `q` whose deliveries were acked. -/
def ackedFrom (q : String) (es : List Event) : Multiset Letter := es.filterMap (Event.ackedFrom q)

def letters (xs : List Envelope) : Multiset Letter := xs.map Envelope.letter

def readyLetters (b : Broker) (q : String) : Multiset Letter := letters (b.readyOf q)

def unackedLetters (b : Broker) (q : String) : Multiset Letter :=
  letters ((b.unackedOf q).map (·.envelope))

def lostLetters (b : Broker) (q : String) : Multiset Letter := letters (b.deadOf q)

/-- All that the broker has of queue `q`. -/
def held (b : Broker) (q : String) : Multiset Letter :=
  b.readyLetters q + b.unackedLetters q + b.lostLetters q

@[simp] theorem letters_nil : letters [] = 0 := rfl

@[simp] theorem letters_cons (e : Envelope) (xs : List Envelope) :
    letters (e :: xs) = e.letter ::ₘ letters xs := rfl

@[simp] theorem letters_append (xs ys : List Envelope) :
    letters (xs ++ ys) = letters xs + letters ys := by
  simp [letters]

@[simp] theorem sentTo_append (q : String) (es fs : List Event) :
    sentTo q (es ++ fs) = sentTo q es + sentTo q fs := by
  simp [sentTo]

@[simp] theorem ackedFrom_append (q : String) (es fs : List Event) :
    ackedFrom q (es ++ fs) = ackedFrom q es + ackedFrom q fs := by
  simp [ackedFrom]

@[simp] theorem sentTo_singleton (q : String) (e : Event) :
    sentTo q [e] = ((e.sentTo q).map singleton).getD 0 := by
  cases h : e.sentTo q <;> simp [sentTo, h]

@[simp] theorem ackedFrom_singleton (q : String) (e : Event) :
    ackedFrom q [e] = ((e.ackedFrom q).map singleton).getD 0 := by
  cases h : e.ackedFrom q <;> simp [ackedFrom, h]

theorem sentTo_restored (q : String) (us : List Unacked) : sentTo q (us.map .restored) = 0 := by
  simp [sentTo, Event.sentTo]

theorem ackedFrom_restored (q : String) (us : List Unacked) : ackedFrom q (us.map .restored) = 0 := by
  simp [ackedFrom, Event.ackedFrom]

theorem unacked_perm_settled {b : Broker} (h : Sound b) {u : Unacked}
    (found : b.unacked? u.tag = some u) : b.unacked.Perm (u :: (b.settled u).unacked) := by
  obtain ⟨xs, ys, hs⟩ := List.append_of_mem (List.mem_of_find?_eq_some found)
  have hord := h.ordered
  rw [hs] at hord
  obtain ⟨-, hys, hxs⟩ := List.pairwise_append.1 hord
  have hx : xs.filter (fun v => v.tag ≠ u.tag) = xs :=
    List.filter_eq_self.2 fun v hv => by simpa using (hxs v hv u (by simp)).ne
  have hy : ys.filter (fun v => v.tag ≠ u.tag) = ys :=
    List.filter_eq_self.2 fun v hv => by simpa using ((List.pairwise_cons.1 hys).1 v hv).ne'
  have ht : (b.settled u).unacked = xs ++ ys := by
    simp only [settled, onSubscription, hs]
    rw [List.filter_append, List.filter_cons_of_neg (by simp), hx, hy]
  rw [ht, hs]
  exact List.perm_middle

theorem unackedLetters_settled {b : Broker} (h : Sound b) {u : Unacked}
    (found : b.unacked? u.tag = some u) (q : String) :
    b.unackedLetters q =
      (b.settled u).unackedLetters q + if u.queue = q then {u.envelope.letter} else 0 := by
  have hp := (unacked_perm_settled h found).filter (·.queue = q)
  have hm := Multiset.coe_eq_coe.2 ((hp.map (·.envelope)).map Envelope.letter)
  simp only [unackedLetters, letters, unackedOf]
  rw [hm, List.filter_cons]
  by_cases hq : u.queue = q
  · simp only [hq, decide_true, if_true, List.map_cons, ← Multiset.cons_coe,
      ← Multiset.singleton_add]
    exact add_comm _ _
  · simp [hq]

theorem unackedLetters_shut (b : Broker) (c : ChannelId) (q : String) :
    b.unackedLetters q = letters (b.orphans c q) + (b.shut c).unackedLetters q := by
  have hp := (b.unackedOf q).filter_append_perm fun u => u.channel = c
  have hm := Multiset.coe_eq_coe.2 ((hp.map (·.envelope)).map Envelope.letter)
  simp only [unackedLetters, unackedOf_shut, letters, orphans]
  rw [← hm]
  simp [unackedOf, List.filter_filter]

/-- What a change adds to a queue's letters was sent, and what it takes from them was acked. -/
theorem held_change {b b' : Broker} {es : List Event} (h : Sound b) (c : Change b es b') (q : String) :
    b'.held q + ackedFrom q es = b.held q + sentTo q es := by
  cases c with
  | declared r n new =>
    simp only [held, readyLetters, lostLetters, readyOf_declared new, deadOf_declared new]
    rfl
  | sent c r l usable known =>
    have hu : (b.posted r l).unackedLetters q = b.unackedLetters q := rfl
    simp only [held, readyLetters, lostLetters, readyOf_posted known, deadOf_posted, hu, letters_append]
    by_cases hq : q = r
    · subst hq
      simp only [if_true, letters_cons, letters_nil, Envelope.letter, Multiset.cons_zero, add_zero,
        sentTo_singleton, ackedFrom_singleton, Event.sentTo, Event.ackedFrom, Option.map_none,
        Option.map_some, Option.getD_none, Option.getD_some]
      abel
    · simp [Event.sentTo, Event.ackedFrom, hq, Ne.symm hq]
  | delivered s x e rest found up room queue front =>
    have hr : b.readyOf s.queue = e :: rest := by simp [readyOf, queue, front]
    have he : (b.entry s e).envelope.letter = e.letter := rfl
    simp only [held, readyLetters, lostLetters, unackedLetters, readyOf_handedOut, deadOf_handedOut,
      unackedOf_handedOut, List.map_append, letters_append]
    by_cases hq : q = s.queue
    · subst hq
      simp only [hr, if_true, List.drop_succ_cons, List.drop_zero, List.map_cons, List.map_nil,
        letters_cons, letters_nil, he, ← Multiset.singleton_add, sentTo_singleton,
        ackedFrom_singleton, Event.sentTo, Event.ackedFrom, Option.map_none, Option.getD_none]
      abel
    · simp [hq, Ne.symm hq, Event.sentTo, Event.ackedFrom]
  | acked u usable found =>
    have hr : (b.settled u).readyLetters q = b.readyLetters q := rfl
    have hd : (b.settled u).lostLetters q = b.lostLetters q := rfl
    simp only [held, hr, hd, unackedLetters_settled h found q]
    by_cases hq : u.queue = q
    · simp only [hq, if_true, add_zero, sentTo_singleton, ackedFrom_singleton, Event.sentTo,
        Event.ackedFrom, Option.map_none, Option.map_some, Option.getD_none, Option.getD_some]
      abel
    · simp [Event.sentTo, Event.ackedFrom, hq]
  | rejected u k usable found =>
    have housed : (b.settled u).hasQueue u.queue = true := h.housed u (List.mem_of_find?_eq_some found)
    have hu : ((b.settled u).refused u k).unackedLetters q = (b.settled u).unackedLetters q := rfl
    simp only [held, readyLetters, lostLetters, hu, readyOf_refused housed, deadOf_refused housed,
      letters_append, unackedLetters_settled h found q, readyOf_settled, deadOf_settled]
    by_cases hq : u.queue = q
    · subst hq
      cases k <;>
        simp only [and_self, and_false, if_true, if_false, reduceCtorEq, letters_cons, letters_nil,
          Multiset.cons_zero, add_zero, sentTo_singleton, ackedFrom_singleton, Event.sentTo,
          Event.ackedFrom, Option.map_none, Option.getD_none] <;>
        abel
    · simp [Event.sentTo, Event.ackedFrom, hq, Ne.symm hq]
  | closed c still =>
    simp only [held, readyLetters, lostLetters, readyOf_shut h.housed, deadOf_shut, letters_append,
      sentTo_restored, ackedFrom_restored, unackedLetters_shut b c q]
    abel
  | _ => rfl

theorem Run.held {es : List Event} {b : Broker} (h : Run es b) (q : String) :
    sentTo q es = b.held q + ackedFrom q es := by
  induction h with
  | nil => rfl
  | @snoc es b a hrun ih =>
    have hc := held_change hrun.sound (b.change a) q
    calc sentTo q (es ++ b.events a)
        = b.held q + ackedFrom q es + sentTo q (b.events a) := by rw [sentTo_append, ih]
      _ = b.held q + sentTo q (b.events a) + ackedFrom q es := by abel
      _ = (b.act a).held q + ackedFrom q (es ++ b.events a) := by
        rw [← hc, ackedFrom_append]; abel

theorem delivered_change {b b' : Broker} {es : List Event} (c : Change b es b') {s : Subscription}
    {d : Delivery} (h : .delivered s d ∈ es) : ∃ e rest, b.readyOf s.queue = e :: rest ∧
      d = told (b.entry s e) ∧ b'.readyOf s.queue = rest ∧
      b'.unackedOf s.queue = b.unackedOf s.queue ++ [b.entry s e] := by
  cases c with
  | delivered r x e rest found up room queue front =>
    obtain ⟨rfl, rfl⟩ : s = r ∧ d = told (b.entry r e) := by simpa using h
    have hr : b.readyOf s.queue = e :: rest := by simp [readyOf, queue, front]
    exact ⟨e, rest, hr, rfl, by simp [readyOf_handedOut, hr], by simp⟩
  | closed c still => simp at h
  | _ => simp at h

/-- After every run the letters that a queue accepted are those it has ready, those unacked, its dead
letters and those acked, each as often as it was sent. The next act, whatever it is, takes from a
queue only what it acks and adds only what it sends, and what it delivers it leaves unacked. -/
theorem letters_conserved {es : List Event} {b : Broker} (h : Run es b) (q : String) :
    sentTo q es = b.readyLetters q + b.unackedLetters q + b.lostLetters q + ackedFrom q es ∧
    ∀ a, (b.act a).held q + ackedFrom q (b.events a) = b.held q + sentTo q (b.events a) ∧
      ∀ s d, .delivered s d ∈ b.events a → s.queue = q →
        d.letter ∈ b.readyLetters q ∧ d.letter ∈ (b.act a).unackedLetters q := by
  refine ⟨h.held q, fun a => ⟨held_change h.sound (b.change a) q, ?_⟩⟩
  rintro s d hd rfl
  obtain ⟨e, rest, hr, rfl, -, hu⟩ := delivered_change (b.change a) hd
  have he : (told (b.entry s e)).letter = e.letter := rfl
  have hentry : (b.entry s e).envelope.letter = e.letter := rfl
  refine ⟨by simp [readyLetters, hr, he], ?_⟩
  simp [unackedLetters, hu, letters, he, hentry]

/-- One letter is acked, one given up, and one goes back as its channel is closed while it is unacked. -/
theorem letters_conserved_mixed : ∃ es b, Run es b ∧
    sentTo "jobs" es = {⟨[1], {}⟩, ⟨[2], {}⟩, ⟨[3], {}⟩} ∧ b.readyLetters "jobs" = {⟨[3], {}⟩} ∧
    b.unackedLetters "jobs" = 0 ∧ b.lostLetters "jobs" = {⟨[2], {}⟩} ∧
    ackedFrom "jobs" es = {⟨[1], {}⟩} ∧
    sentTo "jobs" es = b.readyLetters "jobs" + b.unackedLetters "jobs" + b.lostLetters "jobs" +
      ackedFrom "jobs" es := by
  have run := Run.nil.snoc .openChannel |>.snoc (.declare "jobs")
    |>.snoc (.send ⟨1⟩ "jobs" ⟨[1], {}⟩) |>.snoc (.send ⟨1⟩ "jobs" ⟨[2], {}⟩)
    |>.snoc (.send ⟨1⟩ "jobs" ⟨[3], {}⟩) |>.snoc (.subscribe ⟨1⟩ "jobs" 2)
    |>.snoc (.deliver (consumerTag 1)) |>.snoc (.deliver (consumerTag 1))
    |>.snoc (.ack ⟨1⟩ 1) |>.snoc (.reject ⟨1⟩ 2 false) |>.snoc (.deliver (consumerTag 1))
    |>.snoc (.close ⟨1⟩)
  exact ⟨_, _, run, rfl, rfl, rfl, rfl, rfl, (letters_conserved run "jobs").1⟩

end QueueProbe.Broker
