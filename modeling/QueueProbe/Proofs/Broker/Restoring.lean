import Mathlib.Data.List.Infix
import QueueProbe.Proofs.Broker.SendOrder

/-! What closing a channel restores. As long as the unacked bodies of a queue are all on one channel and
none goes to the back, those bodies by delivery tag and then the line are what the queue still owes, in
the order in which it was sent. A close takes all of the unacked bodies or none, so it only moves the
border between the two. -/

namespace QueueProbe.Broker

namespace Lane

/-- What was sent and neither acked nor given up, in the order in which it was sent. -/
def owed (l : Lane) : List (Letter × Nat) := l.sent.zipIdx.filter fun s => s.2 ∉ l.gone.map (·.place)

/-- What is out, by delivery tag, and then what is in line. -/
def standing (l : Lane) : List Item := l.out.map (·.2) ++ l.line

def Straight (l : Lane) : Prop := l.standing.map Item.slot = l.owed

variable {l : Lane} {q : String}

theorem standing_take (l : Lane) (n : Nat) : (l.take n).standing.map Item.slot = l.standing.map Item.slot := by
  cases hl : l.line with
  | nil => simp [standing, Lane.take, hl]
  | cons x rest => simp [standing, Lane.take, hl]

theorem Straight.take (h : Straight l) (n : Nat) : Straight (l.take n) :=
  (l.standing_take n).trans h

theorem Straight.post (h : Straight l) (orderly : Orderly l) (m : Letter) : Straight (l.post m) := by
  have hnew : ∀ x ∈ l.gone, x.place ≠ l.sent.length := by
    intro x hx hp
    have hat := orderly.sent_at (List.mem_append_right _ hx)
    rw [hp, List.getElem?_eq_none le_rfl] at hat
    cases hat
  have howed : (l.post m).owed = l.owed ++ [(m, l.sent.length)] := by
    simpa [owed, Lane.post, List.zipIdx_append] using hnew
  have hstanding : (l.post m).standing.map Item.slot =
      l.standing.map Item.slot ++ [(m, l.sent.length)] := by
    simp [standing, Lane.post, Item.slot]
  rw [Straight, howed, hstanding, h]

theorem Straight.finish (h : Straight l) (orderly : Orderly l) (n : Nat) : Straight (l.finish n) := by
  have hnodup : ((l.line ++ l.out.map (·.2)).map (·.place)).Nodup :=
    orderly.places_nodup.sublist ((List.sublist_append_left _ _).map _)
  rw [List.map_append, List.map_map, List.nodup_append] at hnodup
  obtain ⟨-, hout, hline⟩ := hnodup
  have howed : (l.finish n).owed = l.owed.filter fun s => s.2 ∉ (l.held n).map (·.place) := by
    simp only [owed, Lane.finish, List.filter_filter, List.map_append, List.mem_append, not_or,
      Bool.decide_and, Bool.and_comm]
  have taken : l.out.filter (fun x => x.2.place ∉ (l.held n).map (·.place)) =
      l.out.filter (·.1 ≠ n) := by
    refine List.filter_congr fun x hx => decide_eq_decide.2 (not_congr ⟨fun hm => ?_, fun hn => ?_⟩)
    · obtain ⟨y, hy, hp⟩ := List.mem_map.1 hm
      obtain ⟨z, hz, rfl⟩ := List.mem_map.1 hy
      obtain ⟨hz, hn⟩ := List.mem_filter.1 hz
      rw [← List.inj_on_of_nodup_map hout hz hx hp]
      exact of_decide_eq_true hn
    · exact List.mem_map_of_mem (List.mem_map_of_mem (List.mem_filter.2 ⟨hx, decide_eq_true hn⟩))
  have untouched : l.line.filter (fun x => x.place ∉ (l.held n).map (·.place)) = l.line := by
    refine List.filter_eq_self.2 fun x hx => decide_eq_true fun hm => ?_
    obtain ⟨y, hy, hp⟩ := List.mem_map.1 hm
    obtain ⟨z, hz, rfl⟩ := List.mem_map.1 hy
    exact hline _ (List.mem_map_of_mem hx) _ (List.mem_map_of_mem (List.mem_filter.1 hz).1) hp.symm
  have hstanding : (l.finish n).standing =
      l.standing.filter fun x => x.place ∉ (l.held n).map (·.place) := by
    rw [standing, standing, List.filter_append, untouched, List.filter_map]
    exact congrArg (fun xs => xs.map Prod.snd ++ l.line) taken.symm
  rw [Straight, howed, hstanding, ← h, List.filter_map]
  rfl

theorem putBack_absent {n : Nat} (h : l.held n = []) : l.putBack n = l := by
  have hout : l.out.filter (·.1 ≠ n) = l.out := by
    refine List.filter_eq_self.2 fun x hx => decide_eq_true fun hn => ?_
    have hx : x.2 ∈ l.held n := List.mem_map_of_mem (List.mem_filter.2 ⟨hx, decide_eq_true hn⟩)
    rw [h] at hx
    cases hx
  rw [putBack, hout, h, List.append_nil]

/-- If one act puts back in front all that is out, or nothing, then all stands where it stood. -/
theorem Straight.advance (h : Straight l) (rising : l.out.Pairwise (·.1 < ·.1)) {us : List Unacked}
    (ordered : us.Pairwise (·.tag < ·.tag))
    (whole : (∀ x ∈ l.out, x.1 ∈ us.map (·.tag)) ∨ ∀ x ∈ l.out, x.1 ∉ us.map (·.tag)) :
    Straight (l.advance q (us.map .restored)) := by
  rw [advance_restored rising ordered]
  rcases whole with all | apart
  · have hin : (l.out.filter fun x => x.1 ∈ us.map (·.tag)) = l.out :=
      List.filter_eq_self.2 fun x hx => decide_eq_true (all x hx)
    have hout : (l.out.filter fun x => x.1 ∉ us.map (·.tag)) = [] :=
      List.filter_eq_nil_iff.2 fun x hx hn => of_decide_eq_true hn (all x hx)
    rw [hin, hout]
    exact h
  · have hin : (l.out.filter fun x => x.1 ∈ us.map (·.tag)) = [] :=
      List.filter_eq_nil_iff.2 fun x hx hn => apart x hx (of_decide_eq_true hn)
    have hout : (l.out.filter fun x => x.1 ∉ us.map (·.tag)) = l.out :=
      List.filter_eq_self.2 fun x hx => decide_eq_true (apart x hx)
    rw [hin, hout]
    exact h

end Lane

variable {q : String} {b b' : Broker} {es new : List Event} {l : Lane}

/-- The unacked bodies of a queue are all on one channel. -/
def OwnedByOne (b : Broker) (q : String) : Prop :=
  ∀ u ∈ b.unackedOf q, ∀ v ∈ b.unackedOf q, u.channel = v.channel

instance (b : Broker) (q : String) : Decidable (b.OwnedByOne q) :=
  inferInstanceAs (Decidable (∀ u ∈ b.unackedOf q, ∀ v ∈ b.unackedOf q, u.channel = v.channel))

/-- The queue to whose back the event puts a body. -/
def Event.putBackTo : Event → Option String
  | .rejected u true => some u.queue
  | _ => none

/-- The entries of a queue are all put back as a channel closes, or none is. -/
theorem straight_closed (h : l.Straight) (tracks : Tracks q es b l) (sound : Sound b) (owned : b.OwnedByOne q)
    (c : ChannelId) : (l.advance q ((b.unacked.filter (·.channel = c)).map .restored)).Straight := by
  refine h.advance (tracks.rising sound) (sound.ordered.filter _) ?_
  have entry : ∀ x ∈ l.out, ∃ u ∈ b.unackedOf q, u ∈ b.unacked ∧ u.tag = x.1 := by
    intro x hx
    have ht : x.1 ∈ (b.unackedOf q).map (·.tag) := tracks.tags ▸ List.mem_map_of_mem hx
    obtain ⟨u, hu, hn⟩ := List.mem_map.1 ht
    exact ⟨u, hu, (List.mem_filter.1 hu).1, hn⟩
  by_cases mine : ∃ u ∈ b.unackedOf q, u.channel = c
  · obtain ⟨v, hv, rfl⟩ := mine
    refine Or.inl fun x hx => ?_
    obtain ⟨u, hu, hmem, hn⟩ := entry x hx
    exact hn ▸ (sound.tag_mem_iff hmem _).2 (owned u hu v hv)
  · refine Or.inr fun x hx ht => ?_
    obtain ⟨u, hu, hmem, hn⟩ := entry x hx
    rw [← hn] at ht
    exact mine ⟨u, hu, (sound.tag_mem_iff hmem c).1 ht⟩

theorem straight_change (h : l.Straight) (tracks : Tracks q es b l) (orderly : l.Orderly) (sound : Sound b)
    (owned : b.OwnedByOne q) (kept : ∀ e ∈ new, e.putBackTo ≠ some q)
    (c : Change b new b') : (l.advance q new).Straight := by
  cases c with
  | sent c r m usable known =>
    have hstep : l.advance q [.sent r m] = if r = q then l.post m else l := rfl
    rw [hstep]
    split
    · exact h.post orderly m
    · exact h
  | delivered s x e rest found up room queue front =>
    have hstep : l.advance q [.delivered s (told (b.entry s e))] =
        if s.queue = q then l.take (b.lastTag + 1) else l := rfl
    rw [hstep]
    split
    · exact h.take _
    · exact h
  | acked u usable found => exact h.finish orderly u.tag
  | rejected u k usable found =>
    cases k with
    | false => exact h.finish orderly u.tag
    | true =>
      have hq : u.queue ≠ q := fun hq => kept _ (List.mem_singleton.2 rfl) (congrArg Option.some hq)
      have hheld := tracks.held sound (List.mem_of_find?_eq_some found)
      rw [if_neg hq, List.map_eq_nil_iff] at hheld
      have hstep : l.advance q [.rejected u true] = l.putBack u.tag := rfl
      rw [hstep, Lane.putBack_absent hheld]
      exact h
  | closed c still => exact straight_closed h tracks sound owned c
  | _ => exact h

theorem straight {as : List Act} (kept : ∀ e ∈ past as, e.putBackTo ≠ some q)
    (owned : ∀ as', as' <+: as → (after as').OwnedByOne q) : (lane q as).Straight := by
  induction as using List.reverseRecOn with
  | nil => rfl
  | append_singleton as a ih =>
    rw [past_snoc] at kept
    have before := ih (fun e he => kept e (List.mem_append_left _ he))
      fun as' hp => owned as' (hp.trans (List.prefix_append _ _))
    rw [lane_snoc]
    exact straight_change before (tracks q as) (orderly q as) (run_after as).sound
      (owned as (List.prefix_append _ _)) (fun e he => kept e (List.mem_append_right _ he))
      (Broker.change _ a)

theorem closeChannel_owner (sound : Sound b) (attached : Attached b) {c : ChannelId}
    (owner : ∀ u ∈ b.unackedOf q, u.channel = c) : (b.closeChannel c).unackedOf q = [] ∧
      (b.closeChannel c).readyOf q = (b.unackedOf q).map (·.envelope) ++ b.readyOf q := by
  unfold closeChannel
  cases hc : b.isClosed c with
  | true =>
    have hnone : b.unackedOf q = [] := by
      refine List.eq_nil_iff_forall_not_mem.2 fun u hu => ?_
      have hopen := attached.unacked u (List.mem_filter.1 hu).1
      rw [owner u hu, hc] at hopen
      cases hopen
    simp [hnone]
  | false =>
    have hall : (b.unackedOf q).filter (·.channel = c) = b.unackedOf q :=
      List.filter_eq_self.2 fun u hu => decide_eq_true (owner u hu)
    have hnone : (b.unackedOf q).filter (·.channel ≠ c) = [] :=
      List.filter_eq_nil_iff.2 fun u hu hn => of_decide_eq_true hn (owner u hu)
    refine ⟨(unackedOf_shut b c q).trans hnone, ?_⟩
    have hready := readyOf_shut sound.housed c q
    rw [orphans_eq, hall] at hready
    exact hready

/-- If at every moment the unacked bodies of a queue were all on one channel and none was put to the
back, then those bodies by delivery tag and after them the ready ones are what the queue accepted, less
what was acked or became a dead letter, in the order in which it was sent. A close of that channel, or
of any if nothing is unacked, makes all of it ready in that order. -/
theorem closing_restores_order {as : List Act} (kept : ∀ e ∈ past as, e.putBackTo ≠ some q)
    (owned : ∀ as', as' <+: as → (after as').OwnedByOne q) :
    let b := after as
    let gone := (lane q as).gone
    let owed := ((accepted q (past as)).zipIdx.filter fun s => s.2 ∉ gone.map (·.place)).map Prod.fst
    (endings q (past as) = gone.map Item.envelope ∧
      ∀ x ∈ gone, (accepted q (past as))[x.place]? = some x.letter) ∧
    (b.unackedOf q).Pairwise (·.tag < ·.tag) ∧
    (b.unackedOf q).map (·.envelope.letter) ++ (b.readyOf q).map Envelope.letter = owed ∧
    ∀ c, (∀ u ∈ b.unackedOf q, u.channel = c) → (b.closeChannel c).unackedOf q = [] ∧
      ((b.closeChannel c).readyOf q).map Envelope.letter = owed := by
  have tracks := tracks q as
  have orderly := orderly q as
  have sound := (run_after as).sound
  have letters : ((after as).unackedOf q).map (·.envelope.letter) ++
      ((after as).readyOf q).map Envelope.letter = (lane q as).owed.map Prod.fst := by
    have hout := congrArg (List.map fun p => p.2.letter) tracks.unacked
    rw [← straight kept owned, tracks.ready]
    simpa [Lane.standing, Function.comp_def, Item.slot] using hout
  have owed : (lane q as).owed =
      (accepted q (past as)).zipIdx.filter fun s => s.2 ∉ (lane q as).gone.map (·.place) := by
    rw [Lane.owed, tracks.sent]
  rw [owed] at letters
  refine ⟨⟨tracks.ended, fun x hx => ?_⟩, sound.ordered.filter _, letters, fun c owner => ?_⟩
  · rw [← tracks.sent]
    exact orderly.sent_at (List.mem_append_right _ hx)
  · obtain ⟨hnone, hready⟩ := closeChannel_owner sound (run_after as).attached owner
    refine ⟨hnone, ?_⟩
    rw [hready, ← letters, List.map_append, List.map_map]
    rfl

/-- Of four letters the second is acked and the first, on the next channel, given up; the others are
unacked or ready, and the letter of another queue does not come between. -/
theorem closing_restores_order_twice : ∃ as : List Act,
    (∀ e ∈ past as, e.putBackTo ≠ some "jobs") ∧
    (∀ as', as' <+: as → (after as').OwnedByOne "jobs") ∧
    (after as).unackedOf "jobs" ≠ [] ∧ (∀ u ∈ (after as).unackedOf "jobs", u.channel = ⟨2⟩) ∧
    (((after as).closeChannel ⟨2⟩).readyOf "jobs").map Envelope.letter = [⟨[3], {}⟩, ⟨[4], {}⟩] := by
  let as : List Act := [.openChannel, .openChannel, .declare "jobs", .declare "rest",
    .send ⟨1⟩ "jobs" ⟨[1], {}⟩, .send ⟨1⟩ "jobs" ⟨[2], {}⟩, .send ⟨1⟩ "rest" ⟨[9], {}⟩,
    .send ⟨1⟩ "jobs" ⟨[3], {}⟩, .subscribe ⟨1⟩ "jobs" 3, .subscribe ⟨1⟩ "rest" 1,
    .deliver (consumerTag 1), .deliver (consumerTag 2), .deliver (consumerTag 1),
    .deliver (consumerTag 1), .ack ⟨1⟩ 3, .close ⟨1⟩, .subscribe ⟨2⟩ "jobs" 2,
    .deliver (consumerTag 3), .send ⟨2⟩ "jobs" ⟨[4], {}⟩, .deliver (consumerTag 3), .reject ⟨2⟩ 5 false]
  have kept : ∀ e ∈ past as, e.putBackTo ≠ some "jobs" := by decide +kernel
  have owned : ∀ as', as' <+: as → (after as').OwnedByOne "jobs" := by
    intro as' hp
    have hall : ∀ as' ∈ as.inits, (after as').OwnedByOne "jobs" := by decide +kernel
    exact hall as' ((List.mem_inits _ _).2 hp)
  have owner : ∀ u ∈ (after as).unackedOf "jobs", u.channel = ⟨2⟩ := by decide +kernel
  obtain ⟨-, -, -, close⟩ := closing_restores_order kept owned
  exact ⟨as, kept, owned, by decide +kernel, owner, (close ⟨2⟩ owner).2.trans (by decide +kernel)⟩

end QueueProbe.Broker
