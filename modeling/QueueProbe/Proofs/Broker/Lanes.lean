import Mathlib.Data.List.Induction
import QueueProbe.Proofs.Broker.Conservation

/-! Lanes. The broker tells bodies apart by nothing, so two equal ones cannot be followed by looking at
it. The lane of a queue keeps beside it under which number each body was sent and how often it was
really delivered, and moves with the events. What the broker has of the queue is always what the lane
has of it, less the numbers (`Tracks`). -/

namespace QueueProbe

/-- A letter in line: the number it was sent under, and how often it was delivered. -/
structure Item where
  place : Nat
  letter : Letter
  count : Nat
deriving DecidableEq, Repr

namespace Item

def envelope (x : Item) : Envelope := ⟨x.letter.body, x.letter.properties, UInt32.ofNat x.count⟩

/-- The item once it is delivered again. -/
def again (x : Item) : Item := { x with count := x.count + 1 }

/-- What stays the same of an item, as it stands in the list of what was sent. -/
def slot (x : Item) : Letter × Nat := (x.letter, x.place)

@[simp] theorem slot_again (x : Item) : x.again.slot = x.slot := rfl

@[simp] theorem letter_again (x : Item) : x.again.letter = x.letter := rfl

@[simp] theorem letter_envelope (x : Item) : x.envelope.letter = x.letter := rfl

theorem envelope_again (x : Item) :
    { x.envelope with deliveryCount := x.envelope.deliveryCount + 1 } = x.again.envelope := by
  simp [envelope, again, UInt32.ofNat_add]

end Item

namespace Broker

def after (as : List Act) : Broker := as.foldl act {}

/-- What comes of each act. -/
def outcomes (b : Broker) : List Act → List (List Event)
  | [] => []
  | a :: as => b.events a :: outcomes (b.act a) as

def past (as : List Act) : List Event := (outcomes {} as).flatten

theorem outcomes_append (b : Broker) (as as' : List Act) :
    outcomes b (as ++ as') = outcomes b as ++ outcomes (as.foldl act b) as' := by
  induction as generalizing b with
  | nil => rfl
  | cons a as ih => simp only [List.cons_append, outcomes, List.foldl_cons, ih]

theorem after_snoc (as : List Act) (a : Act) : after (as ++ [a]) = (after as).act a :=
  List.foldl_append

theorem past_snoc (as : List Act) (a : Act) : past (as ++ [a]) = past as ++ (after as).events a := by
  simp [past, outcomes_append, outcomes, after]

theorem run_after (as : List Act) : Run (past as) (after as) := by
  induction as using List.reverseRecOn with
  | nil => exact .nil
  | append_singleton as a ih =>
    rw [past_snoc, after_snoc]
    exact ih.snoc a

/-- What queue `q` accepted, in the order in which it did. -/
def accepted (q : String) (es : List Event) : List Letter := es.filterMap (Event.sentTo q)

def Event.deliveryFrom (q : String) : Event → Option Delivery
  | .delivered s d => if s.queue = q then some d else none
  | _ => none

/-- The deliveries from queue `q`, to whomever. -/
def deliveries (q : String) (es : List Event) : List Delivery := es.filterMap (Event.deliveryFrom q)

def Event.endingOf (q : String) : Event → Option Envelope
  | .acked u => if u.queue = q then some u.envelope else none
  | .rejected u k => if u.queue = q ∧ k = false then some u.envelope else none
  | .sent _ _ | .delivered _ _ | .restored _ => none

/-- The bodies of queue `q` that were acked or became dead letters. -/
def endings (q : String) (es : List Event) : List Envelope := es.filterMap (Event.endingOf q)

/-- What a queue has and has had, with its letters told apart. -/
structure Lane where
  sent : List Letter := []
  /-- What is ready, the front first. -/
  line : List Item := []
  /-- What is unacked, under its delivery tag, in the order of the deliveries. -/
  out : List (Nat × Item) := []
  /-- Every delivery made. -/
  taken : List Item := []
  /-- What was acked or became a dead letter. -/
  gone : List Item := []

namespace Lane

/-- What is out under a tag. -/
def held (l : Lane) (n : Nat) : List Item := (l.out.filter (·.1 = n)).map (·.2)

def items (l : Lane) : List Item := l.line ++ l.out.map (·.2) ++ l.gone

def post (l : Lane) (m : Letter) : Lane :=
  { l with sent := l.sent ++ [m], line := l.line ++ [⟨l.sent.length, m, 0⟩] }

/-- The front goes out under tag `n`. -/
def take (l : Lane) (n : Nat) : Lane :=
  let front := (l.line.take 1).map Item.again
  { l with
    line := l.line.drop 1
    out := l.out ++ front.map fun x => (n, x)
    taken := l.taken ++ front }

def finish (l : Lane) (n : Nat) : Lane :=
  { l with out := l.out.filter (·.1 ≠ n), gone := l.gone ++ l.held n }

def putBack (l : Lane) (n : Nat) : Lane :=
  { l with out := l.out.filter (·.1 ≠ n), line := l.line ++ l.held n }

def putFront (l : Lane) (n : Nat) : Lane :=
  { l with out := l.out.filter (·.1 ≠ n), line := l.held n ++ l.line }

def step (q : String) (l : Lane) : Event → Lane
  | .sent r m => if r = q then l.post m else l
  | .delivered s d => if s.queue = q then l.take d.tag else l
  | .acked u => l.finish u.tag
  | .rejected u requeue => if requeue then l.putBack u.tag else l.finish u.tag
  | .restored u => l.putFront u.tag

/-- The lane after all that came of one act. Of the bodies that one act puts back in front the last
goes first. -/
def advance (q : String) (l : Lane) (es : List Event) : Lane := es.foldr (fun e l => l.step q e) l

end Lane

def lane (q : String) (as : List Act) : Lane := (outcomes {} as).foldl (Lane.advance q) {}

theorem lane_snoc (q : String) (as : List Act) (a : Act) :
    lane q (as ++ [a]) = (lane q as).advance q ((after as).events a) := by
  simp [lane, outcomes_append, outcomes, after]

variable {q : String} {b b' : Broker} {es new : List Event} {l : Lane} {u : Unacked}

/-- Parts of a list that rises can be taken out one after the other, the lower part first. -/
theorem filter_append_filter {α : Type} {xs : List (Nat × α)} (rising : xs.Pairwise (·.1 < ·.1)) {n : Nat}
    {p : Nat → Bool} (above : ∀ k, p k = true → n < k) :
    xs.filter (·.1 = n) ++ xs.filter (fun x => p x.1) = xs.filter fun x => x.1 = n || p x.1 := by
  induction xs with
  | nil => rfl
  | cons x xs ih =>
    rw [List.pairwise_cons] at rising
    have ih := ih rising.2
    by_cases hn : x.1 = n
    · subst hn
      have hp : p x.1 = false := by
        by_contra hp
        exact Nat.lt_irrefl _ (above x.1 (by simpa using hp))
      simpa [hp] using ih
    · cases hp : p x.1 with
      | false => simpa [hn, hp] using ih
      | true =>
        have hlow : xs.filter (·.1 = n) = [] := by
          refine List.filter_eq_nil_iff.2 fun y hy he => ?_
          have hxy := rising.1 y hy
          have hnx := above x.1 hp
          have hyn : y.1 = n := by simpa using he
          omega
        rw [hlow, List.nil_append] at ih
        simp [hn, hp, hlow, ih]

theorem Lane.advance_restored (rising : l.out.Pairwise (·.1 < ·.1)) {us : List Unacked}
    (ordered : us.Pairwise (·.tag < ·.tag)) : l.advance q (us.map .restored) = { l with
      out := l.out.filter fun x => x.1 ∉ us.map (·.tag)
      line := (l.out.filter fun x => x.1 ∈ us.map (·.tag)).map (·.2) ++ l.line } := by
  induction us with
  | nil => simp [advance]
  | cons u us ih =>
    rw [List.pairwise_cons] at ordered
    have above : ∀ n, decide (n ∈ us.map (·.tag)) = true → u.tag < n := by
      intro n hn
      obtain ⟨v, hv, rfl⟩ := List.mem_map.1 (of_decide_eq_true hn)
      exact ordered.1 v hv
    have hout : (l.out.filter fun x => x.1 ∉ us.map (·.tag)).filter (·.1 = u.tag) =
        l.out.filter (·.1 = u.tag) := by
      rw [List.filter_filter]
      refine List.filter_congr fun x _ => ?_
      by_cases hx : x.1 = u.tag
      · have hmem : u.tag ∉ us.map (·.tag) := fun hm => Nat.lt_irrefl _ (above _ (decide_eq_true hm))
        simp only [hx, hmem, not_false_eq_true, decide_true, Bool.and_self]
      · simp [hx]
    have hstep : l.advance q ((u :: us).map .restored) =
        (l.advance q (us.map .restored)).step q (.restored u) := rfl
    rw [hstep, ih ordered.2]
    simp only [step, putFront, held, hout, List.filter_filter, ← List.append_assoc, ← List.map_append,
      filter_append_filter rising above]
    simp only [List.map_cons, List.mem_cons, not_or, Bool.decide_or, Bool.decide_and, ne_eq]

/-- The lane `l` is what the broker has of queue `q`, and has had. -/
structure Tracks (q : String) (es : List Event) (b : Broker) (l : Lane) : Prop where
  ready : b.readyOf q = l.line.map Item.envelope
  unacked : (b.unackedOf q).map (fun u => (u.tag, u.envelope)) =
    l.out.map fun x => (x.1, x.2.envelope)
  sent : l.sent = accepted q es
  handed : (deliveries q es).map (fun d => (d.letter, d.count)) =
    l.taken.map fun x => (x.letter, UInt32.ofNat x.count)
  ended : endings q es = l.gone.map Item.envelope

namespace Tracks

theorem empty : Tracks q [] {} {} := ⟨rfl, rfl, rfl, rfl, rfl⟩

theorem frame (h : Tracks q es b l) (ready : b'.readyOf q = b.readyOf q)
    (unacked : b'.unackedOf q = b.unackedOf q) : Tracks q es b' l :=
  ⟨ready.trans h.ready, (congrArg _ unacked).trans h.unacked, h.sent, h.handed, h.ended⟩

theorem aside (h : Tracks q es b l) {e : Event} (sends : e.sentTo q = none)
    (hands : e.deliveryFrom q = none) (ends : e.endingOf q = none) : Tracks q (es ++ [e]) b l := by
  refine ⟨h.ready, h.unacked, ?_, ?_, ?_⟩
  · simpa [accepted, sends] using h.sent
  · simpa [deliveries, hands] using h.handed
  · simpa [endings, ends] using h.ended

theorem tags (h : Tracks q es b l) : (b.unackedOf q).map (·.tag) = l.out.map (·.1) := by
  simpa [Function.comp_def] using congrArg (List.map Prod.fst) h.unacked

theorem rising (h : Tracks q es b l) (sound : Sound b) : l.out.Pairwise (·.1 < ·.1) := by
  have ht : ((b.unackedOf q).map (·.tag)).Pairwise (· < ·) :=
    List.pairwise_map.2 (sound.ordered.filter _)
  rw [h.tags] at ht
  exact List.pairwise_map.1 ht

theorem unacked_filter (h : Tracks q es b l) (p : Nat → Bool) :
    ((b.unackedOf q).filter fun u => p u.tag).map (fun u => (u.tag, u.envelope)) =
      (l.out.filter fun x => p x.1).map fun x => (x.1, x.2.envelope) := by
  have hf := congrArg (List.filter fun x => p x.1) h.unacked
  simpa only [List.filter_map, Function.comp_def] using hf

theorem envelopes_filter (h : Tracks q es b l) (p : Nat → Bool) :
    ((b.unackedOf q).filter fun u => p u.tag).map (·.envelope) =
      ((l.out.filter fun x => p x.1).map (·.2)).map Item.envelope := by
  have hs := congrArg (List.map Prod.snd) (h.unacked_filter p)
  simpa only [List.map_map, Function.comp_def] using hs

/-- What is out under the tag of an entry is that entry's body, if the entry is of this queue. -/
theorem held (h : Tracks q es b l) (sound : Sound b) (hu : u ∈ b.unacked) :
    (l.held u.tag).map Item.envelope = if u.queue = q then [u.envelope] else [] := by
  rw [Lane.held, ← h.envelopes_filter (· = u.tag), sound.unackedOf_tag hu]
  split <;> rfl

theorem posted (h : Tracks q es b l) {r : String} (known : b.hasQueue r = true) (m : Letter) :
    Tracks q (es ++ [.sent r m]) (b.posted r m) (l.step q (.sent r m)) := by
  have hu : (b.posted r m).unackedOf q = b.unackedOf q := rfl
  by_cases hq : r = q
  · subst hq
    refine ⟨?_, ?_, ?_, ?_, ?_⟩
    · simp [readyOf_posted known, h.ready, Lane.step, Lane.post, Item.envelope]
    · simpa [hu, Lane.step, Lane.post] using h.unacked
    · simp [Lane.step, Lane.post, h.sent, accepted, Event.sentTo]
    · simpa [Lane.step, Lane.post, deliveries, Event.deliveryFrom, List.filterMap_cons] using h.handed
    · simpa [Lane.step, Lane.post, Lane.finish, endings, Event.endingOf, List.filterMap_cons] using h.ended
  · rw [Lane.step, if_neg hq]
    have hr : (b.posted r m).readyOf q = b.readyOf q := by simp [readyOf_posted known, Ne.symm hq]
    exact (h.frame hr hu).aside (if_neg hq) rfl rfl

theorem handedOut (h : Tracks q es b l) {s : Subscription} {e : Envelope} {rest : List Envelope}
    (front : b.readyOf s.queue = e :: rest) :
    Tracks q (es ++ [.delivered s (told (b.entry s e))]) (b.handedOut s e)
      (l.step q (.delivered s (told (b.entry s e)))) := by
  by_cases hq : s.queue = q
  · subst hq
    have hline := h.ready.symm.trans front
    cases hl : l.line with
    | nil => simp [hl] at hline
    | cons x xs =>
      rw [hl, List.map_cons, List.cons.injEq] at hline
      obtain ⟨rfl, rfl⟩ := hline
      have hx : (b.entry s x.envelope).envelope = x.again.envelope := x.envelope_again
      refine ⟨?_, ?_, ?_, ?_, ?_⟩
      · simp [readyOf_handedOut, front, Lane.step, Lane.take, hl]
      · simp [h.unacked, Lane.step, Lane.take, hl, told, hx]
      · simpa [Lane.step, Lane.take, accepted, Event.sentTo, List.filterMap_cons] using h.sent
      · have hd : ((told (b.entry s x.envelope)).letter, (told (b.entry s x.envelope)).count) =
            (x.letter, UInt32.ofNat x.again.count) := by
          simp [told, entry, Delivery.letter, Item.envelope, Item.again, UInt32.ofNat_add]
        have hh := h.handed
        simp only [deliveries] at hh
        simpa [Lane.step, Lane.take, hl, deliveries, Event.deliveryFrom, hh] using hd
      · simpa [Lane.step, Lane.take, endings, Event.endingOf, List.filterMap_cons] using h.ended
  · rw [Lane.step, if_neg hq]
    have hr : (b.handedOut s e).readyOf q = b.readyOf q := by simp [readyOf_handedOut, Ne.symm hq]
    have hu : (b.handedOut s e).unackedOf q = b.unackedOf q := by simp [hq]
    exact (h.frame hr hu).aside rfl (if_neg hq) rfl

theorem unacked_settled (h : Tracks q es b l) (u : Unacked) :
    ((b.settled u).unackedOf q).map (fun u => (u.tag, u.envelope)) =
      (l.out.filter (·.1 ≠ u.tag)).map fun x => (x.1, x.2.envelope) := by
  rw [unackedOf_settled]
  exact h.unacked_filter (· ≠ u.tag)

theorem acked (h : Tracks q es b l) (sound : Sound b) (hu : u ∈ b.unacked) :
    Tracks q (es ++ [.acked u]) (b.settled u) (l.step q (.acked u)) := by
  refine ⟨h.ready, h.unacked_settled u, ?_, ?_, ?_⟩
  · simpa [Lane.step, Lane.finish, accepted, Event.sentTo, List.filterMap_cons] using h.sent
  · simpa [Lane.step, Lane.finish, deliveries, Event.deliveryFrom, List.filterMap_cons] using h.handed
  · by_cases hq : u.queue = q <;>
      simp [Lane.step, Lane.finish, endings, Event.endingOf, hq, h.held sound hu, ← h.ended]

theorem rejected (h : Tracks q es b l) (sound : Sound b) (hu : u ∈ b.unacked) (k : Bool) :
    Tracks q (es ++ [.rejected u k]) ((b.settled u).refused u k) (l.step q (.rejected u k)) := by
  have housed : (b.settled u).hasQueue u.queue = true := sound.housed u hu
  have held := h.held sound hu
  have hout : ((b.settled u).refused u k).unackedOf q = (b.settled u).unackedOf q := rfl
  cases k with
  | true =>
    refine ⟨?_, hout ▸ h.unacked_settled u, ?_, ?_, ?_⟩
    · by_cases hq : q = u.queue
      · subst hq
        simp [readyOf_refused housed, Lane.step, Lane.putBack, h.ready, held]
      · simp [readyOf_refused housed, Lane.step, Lane.putBack, hq, Ne.symm hq, h.ready, held]
    · simpa [Lane.step, Lane.putBack, accepted, Event.sentTo, List.filterMap_cons] using h.sent
    · simpa [Lane.step, Lane.putBack, deliveries, Event.deliveryFrom, List.filterMap_cons] using h.handed
    · simpa [Lane.step, Lane.putBack, endings, Event.endingOf, List.filterMap_cons] using h.ended
  | false =>
    refine ⟨?_, hout ▸ h.unacked_settled u, ?_, ?_, ?_⟩
    · simpa [readyOf_refused housed, Lane.step, Lane.finish] using h.ready
    · simpa [Lane.step, Lane.finish, accepted, Event.sentTo, List.filterMap_cons] using h.sent
    · simpa [Lane.step, Lane.finish, deliveries, Event.deliveryFrom, List.filterMap_cons] using h.handed
    · by_cases hq : u.queue = q <;> simp [Lane.step, Lane.finish, endings, Event.endingOf, hq, held, ← h.ended]

theorem shut (h : Tracks q es b l) (sound : Sound b) (c : ChannelId) :
    Tracks q (es ++ (b.unacked.filter (·.channel = c)).map .restored) (b.shut c)
      (l.advance q ((b.unacked.filter (·.channel = c)).map .restored)) := by
  have mine : ∀ u ∈ b.unackedOf q, decide (u.tag ∈ (b.unacked.filter (·.channel = c)).map (·.tag)) =
      decide (u.channel = c) :=
    fun u hu => decide_eq_decide.2 (sound.tag_mem_iff (List.mem_filter.1 hu).1 c)
  have back := h.envelopes_filter fun n => n ∈ (b.unacked.filter (·.channel = c)).map (·.tag)
  have kept := h.unacked_filter fun n => n ∉ (b.unacked.filter (·.channel = c)).map (·.tag)
  have others : (b.unackedOf q).filter (fun u =>
      decide (u.tag ∉ (b.unacked.filter (·.channel = c)).map (·.tag))) = (b.shut c).unackedOf q := by
    rw [unackedOf_shut]
    refine List.filter_congr fun u hu => ?_
    rw [decide_not, mine u hu, ← decide_not]
  rw [List.filter_congr mine] at back
  rw [others] at kept
  rw [Lane.advance_restored (h.rising sound) (sound.ordered.filter _)]
  refine ⟨?_, kept, ?_, ?_, ?_⟩
  · rw [readyOf_shut sound.housed, orphans_eq, h.ready, back, List.map_append]
  · simpa [accepted, List.filterMap_map, Function.comp_def, Event.sentTo] using h.sent
  · simpa [deliveries, List.filterMap_map, Function.comp_def, Event.deliveryFrom] using h.handed
  · simpa [endings, List.filterMap_map, Function.comp_def, Event.endingOf] using h.ended

theorem change (h : Tracks q es b l) (sound : Sound b) (c : Change b new b') :
    Tracks q (es ++ new) b' (l.advance q new) := by
  cases c with
  | declared r n fresh =>
    rw [List.append_nil]
    exact h.frame (readyOf_declared fresh _ q) rfl
  | sent c r m usable known => exact h.posted known m
  | delivered s x e rest found up room queue front =>
    have hr : b.readyOf s.queue = e :: rest := by simp [readyOf, queue, front]
    exact h.handedOut hr
  | acked u usable found => exact h.acked sound (List.mem_of_find?_eq_some found)
  | rejected u k usable found => exact h.rejected sound (List.mem_of_find?_eq_some found) k
  | closed c still => exact h.shut sound c
  | _ => rw [List.append_nil]; exact h.frame rfl rfl

end Tracks

theorem tracks (q : String) (as : List Act) : Tracks q (past as) (after as) (lane q as) := by
  induction as using List.reverseRecOn with
  | nil => exact .empty
  | append_singleton as a ih =>
    rw [past_snoc, after_snoc, lane_snoc]
    exact ih.change (run_after as).sound (Broker.change _ a)

end Broker
end QueueProbe
