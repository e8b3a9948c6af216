import QueueProbe.Bench.Handling
import QueueProbe.Proofs.Publishing.Schedule

/-! Publishing amid other work. Between the moves of a crew the workers of the bench may make steps. If
each send is accepted whatever they are at, the crew gets through its batch as if it were alone; and
what holds of the bench after each send and each step holds in the end. -/

namespace QueueProbe

variable {K V : Type}

/-- The letter that a message is sent as; nothing if it cannot be encoded. -/
def Publisher.letter? (p : Publisher V) (m : Message V) : Option Letter :=
  match p.encoder m.content with
  | .ok body => some ⟨body, m.properties⟩
  | .error _ | .panic _ => none

namespace Bench

variable [DecidableEq K] [Debug K]

/-- A member of the crew makes its next move, or a worker of the bench makes a step. -/
def mingle (p : Publisher V) (q : String) (batch : List (Message V)) (s : Crew × Bench K V) :
    Option Nat → Crew × Bench K V
  | some i => crewStep p q batch s i
  | none => (s.1, s.2.step.getD s.2)

/-- Publishes a batch while workers are at work: moves and steps as `turns` says, and then in turn the
moves that are left. -/
def publishAmid (w : Bench K V) (p : Publisher V) (q : String) (batch : List (Message V))
    (turns : List (Option Nat)) : Outcome QueueError Nat × Bench K V :=
  if batch.isEmpty then (.ok 0, w)
  else
    let workers := min p.parallelism batch.length
    let w := { w with journal := w.opening q batch.length workers }
    let s := finishCrew p q batch (2 * batch.length + w.crewSize workers)
      (turns.foldl (mingle p q batch) (Crew.ofSize (w.crewSize workers), w))
    let v := publishAnswer q batch.length workers (w.short workers) s.1
    (v.1, { s.2 with journal := s.2.journal ++ v.2 })

def handlerPublishValuesAmid (w : Bench K V) (n : Nat) (values : List V) (turns : List (Option Nat)) :
    Outcome QueueError Nat × Bench K V :=
  match w.handlers[n]? with
  | none => (.error unknownHandler, w)
  | some h =>
    match h.takeOpen "publish" with
    | .error e => (.error e, w)
    | .ok _ => w.publishAmid h.publisher h.queue (values.map fun v => ⟨v, {}⟩) turns

/-- With no steps in between this is publishing as the schedule says. -/
theorem publishAmid_alone (w : Bench K V) (p : Publisher V) (q : String) (batch : List (Message V))
    (schedule : List Nat) : w.publishAmid p q batch (schedule.map some) = w.publish p q batch schedule := by
  unfold publishAmid publish publishWith runCrew
  simp only [List.foldl_map]
  rfl

theorem handlerPublishValuesAmid_alone (w : Bench K V) (n : Nat) (values : List V) (schedule : List Nat) :
    w.handlerPublishValuesAmid n values (schedule.map some) = w.handlerPublishValues n values schedule := by
  simp only [handlerPublishValuesAmid, publishAmid_alone]
  rfl

/-- What is kept by everything that can come between: `Holds ls w` is kept by notes, by the steps of
workers, and by sending any letter that is `fit`, which is accepted and added to `ls`. -/
structure Accepting (Holds : List Letter → Bench K V → Prop) (fit : Letter → Prop) (c : ChannelId)
    (q : String) : Prop where
  journal : ∀ ls w journal, Holds ls w → Holds ls { w with journal }
  send : ∀ ls w l, Holds ls w → fit l → (w.send c q l.body l.properties).1 = .ok () ∧
    Holds (ls ++ [l]) (w.send c q l.body l.properties).2
  work : ∀ ls w, Holds ls w → Holds ls (w.step.getD w)

/-- How far a crew has come whose sends are all accepted. -/
structure Amid (Holds : List Letter → Bench K V → Prop) (p : Publisher V) (batch : List (Message V))
    (workers : Nat) (s : Crew × Bench K V) (log : List Nat) : Prop
    extends Claiming batch (fun _ => none) workers s.1 log where
  holds : Holds (log.filterMap fun i => batch[i]?.bind p.letter?) s.2

variable {Holds : List Letter → Bench K V → Prop} {fit : Letter → Prop} {p : Publisher V} {q : String}
  {batch : List (Message V)} {workers : Nat} {s : Crew × Bench K V} {log : List Nat} {ls : List Letter}
  {w : Bench K V}

theorem Accepting.run {c : ChannelId} (ok : Accepting Holds fit c q) (h : Holds ls w) (fuel : Nat) :
    Holds ls (w.run fuel) := by
  induction fuel generalizing w with
  | zero => exact h
  | succ fuel ih =>
    have hstep := ok.work ls w h
    unfold Bench.run
    cases hs : w.step with
    | none => exact h
    | some w' =>
      rw [hs] at hstep
      exact ih hstep

theorem Accepting.sendMessage (ok : Accepting Holds fit p.channel q) (h : Holds ls w) {m : Message V}
    {l : Letter} (encodes : p.letter? m = some l) (hl : fit l) :
    (w.sendMessage p q m).1 = .ok () ∧ Holds (ls ++ [l]) (w.sendMessage p q m).2 := by
  unfold Publisher.letter? at encodes
  unfold Bench.sendMessage
  cases he : p.encoder m.content with
  | error e => simp [he] at encodes
  | panic why => simp [he] at encodes
  | ok body =>
    obtain rfl : ⟨body, m.properties⟩ = l := by simpa [he] using encodes
    have hnote := ok.journal ls w
      (w.journal ++ [.trace ("publishing " ++ toString body.length ++ " bytes to " ++ q)]) h
    obtain ⟨hsent, hholds⟩ := ok.send ls _ ⟨body, m.properties⟩ hnote hl
    exact ⟨congrArg (Outcome.mapError QueueError.ofBroker) hsent, hholds⟩

namespace Amid

theorem turn (h : Amid Holds p batch workers s log) (ok : Accepting Holds fit p.channel q)
    (sendable : ∀ m ∈ batch, ∃ l, p.letter? m = some l ∧ fit l) (t : Option Nat) :
    ∃ new, Amid Holds p batch workers (mingle p q batch s t) (log ++ new) := by
  cases t with
  | none => exact ⟨[], by rw [List.append_nil]; exact ⟨h.toClaiming, ok.work _ _ h.holds⟩⟩
  | some i =>
    have hmove := crewStep_move p q batch s i
    have answers : ∀ m ∈ batch, (s.2.sendMessage p q m).1 = .ok () := by
      intro m hm
      obtain ⟨l, hl, hfit⟩ := sendable m hm
      exact (ok.sendMessage h.holds hl hfit).1
    refine ⟨encodes batch s.1 i, h.toClaiming.step answers hmove, ?_⟩
    rcases hmove.bench with ⟨hnew, hb⟩ | ⟨index, m, hnew, entry, hb⟩
    · rw [hnew, List.append_nil]
      exact hb ▸ h.holds
    · obtain ⟨l, hl, hfit⟩ := sendable m (List.mem_of_getElem? entry)
      have hsent := (ok.sendMessage (q := q) h.holds hl hfit).2
      rw [hnew, List.filterMap_append]
      simpa [mingle, entry, hl, hb] using hsent

theorem turns (h : Amid Holds p batch workers s log) (ok : Accepting Holds fit p.channel q)
    (sendable : ∀ m ∈ batch, ∃ l, p.letter? m = some l ∧ fit l) (ts : List (Option Nat)) :
    ∃ more, Amid Holds p batch workers (ts.foldl (mingle p q batch) s) (log ++ more) := by
  induction ts generalizing s log with
  | nil => exact ⟨[], by simpa using h⟩
  | cons t ts ih =>
    obtain ⟨new, h'⟩ := h.turn ok sendable t
    obtain ⟨more, h'⟩ := ih h'
    exact ⟨new ++ more, by simpa using h'⟩

theorem finish (h : Amid Holds p batch workers s log) (ok : Accepting Holds fit p.channel q)
    (sendable : ∀ m ∈ batch, ∃ l, p.letter? m = some l ∧ fit l) (fuel : Nat) :
    ∃ more, Amid Holds p batch workers (finishCrew p q batch fuel s) (log ++ more) := by
  obtain ⟨more, h'⟩ := h.turns (q := q) ok sendable ((finishing p q batch fuel s).map some)
  rw [List.foldl_map] at h'
  exact ⟨more, by rw [finishCrew_eq]; exact h'⟩

end Amid

theorem toil_turns (ts : List (Option Nat)) :
    (ts.foldl (mingle p q batch) s).1.toil batch.length ≤ s.1.toil batch.length := by
  induction ts generalizing s with
  | nil => exact le_rfl
  | cons t ts ih =>
    refine ih.trans ?_
    cases t with
    | none => exact le_rfl
    | some i => exact (toil_move (crewStep_move p q batch s i)).1

/-- Whatever comes between, a batch that can be sent is sent whole, each message once. -/
theorem publishAmid_accepted (ok : Accepting Holds fit p.channel q) (hp : 1 ≤ p.parallelism)
    (sendable : ∀ m ∈ batch, ∃ l, p.letter? m = some l ∧ fit l) (h : Holds [] w) (ample : w.shortage = none)
    (ts : List (Option Nat)) : ∃ ls w', w.publishAmid p q batch ts = (.ok batch.length, w') ∧
      Holds ls w' ∧ ls.Perm (batch.filterMap p.letter?) := by
  unfold publishAmid
  cases hb : batch.isEmpty with
  | true =>
    obtain rfl := List.isEmpty_iff.1 hb
    exact ⟨[], w, rfl, h, .refl _⟩
  | false =>
    have hlen : 0 < batch.length := List.length_pos_iff.2 (by simpa using hb)
    have hw : 0 < min p.parallelism batch.length := Nat.lt_min.2 ⟨hp, hlen⟩
    let workers := min p.parallelism batch.length
    let noted := { w with journal := w.opening q batch.length workers }
    let amid := ts.foldl (mingle p q batch) (Crew.ofSize workers, noted)
    let s := finishCrew p q batch (2 * batch.length + workers) amid
    have hshort : noted.short workers = none := short_ample ample workers
    have hstart : Amid Holds p batch workers (Crew.ofSize workers, noted) [] :=
      ⟨.start, ok.journal _ _ _ h⟩
    obtain ⟨log, hlog⟩ := hstart.turns ok sendable ts
    obtain ⟨more, hend⟩ := hlog.finish ok sendable (2 * batch.length + workers)
    have rests : s.1.firstAtWork = none :=
      finishCrew_rests ((toil_turns ts).trans (toil_ofSize batch.length workers).le)
    have hperm := (hend.log_perm rests hw).filterMap fun i => batch[i]?.bind p.letter?
    rw [filterMap_range] at hperm
    refine ⟨_, { s.2 with journal := s.2.journal ++ (publishVerdict q batch.length workers s.1).2 }, ?_,
      ok.journal _ _ _ hend.holds, hperm⟩
    have hverdict : (publishVerdict q batch.length workers s.1).1 = .ok batch.length := by
      rw [hend.verdict rests hw, List.findSome?_eq_none_iff.2 fun _ _ => rfl]
    dsimp only
    rw [hshort, crewSize_eq hshort]
    exact Prod.ext hverdict rfl

end Bench
end QueueProbe
