import QueueProbe.Proofs.Publishing.Claiming

/-! Publishing does not depend on the schedule. Whoever claims which message, and in whatever order
they are encoded and sent, each is encoded once, those that can go out go out once, and the answer
is their number or the failure that is first in the batch. If only some of the workers can be
started all this is done as well, but the answer is another. -/

namespace QueueProbe

variable {K V : Type}

namespace Bench

theorem sendMessage_mailed {w : Bench K V} {p : Publisher V} {q : String} {batch : List (Message V)}
    {index : Nat} {message : Message V} (log : List Nat) (entry : batch[index]? = some message)
    (calm : w.faults.get? (p.channel, .send) ≠ some .crash) (journal : List Note) : ∃ journal',
    (w.mailed p.channel q (log.filterMap fun i => batch[i]?.bind (w.outgoing p q)) journal).sendMessage p q
        message = (w.sendAnswer p q message,
      w.mailed p.channel q ((log ++ [index]).filterMap fun i => batch[i]?.bind (w.outgoing p q)) journal') := by
  obtain ⟨journal', heq⟩ := sendMessage_eq (w := w.mailed p.channel q
    (log.filterMap fun i => batch[i]?.bind (w.outgoing p q)) journal) (q := q) (m := message) calm
  refine ⟨journal', heq.trans ?_⟩
  rw [sendAnswer_mailed, outgoing_mailed, mailed_mailed, List.filterMap_append]
  congr 2
  cases ho : w.outgoing p q message <;> simp [entry, ho]

/-- How far a crew of so many workers has come with a batch on a bench that was `w`, once it encoded
the messages of `log`. -/
structure Underway (w : Bench K V) (p : Publisher V) (q : String) (batch : List (Message V))
    (workers : Nat) (s : Crew × Bench K V) (log : List Nat) : Prop
    extends Claiming batch (w.refusal p q) workers s.1 log where
  mailed : ∃ journal,
    s.2 = w.mailed p.channel q (log.filterMap fun i => batch[i]?.bind (w.outgoing p q)) journal

namespace Underway

variable {w : Bench K V} {p : Publisher V} {q : String} {batch : List (Message V)}
  {s s' : Crew × Bench K V} {index workers : Nat} {log : List Nat} {message : Message V}

theorem start (journal : List Note) :
    Underway w p q batch workers (Crew.ofSize workers, { w with journal }) [] where
  toClaiming := .start
  mailed := ⟨journal, by simp [mailed_nil]⟩

theorem sendMessage_eq (h : Underway w p q batch workers s log) (entry : batch[index]? = some message)
    (sane : ∀ why, p.encoder message.content ≠ .panic why)
    (calm : w.faults.get? (p.channel, .send) ≠ some .crash) : ∃ journal, s.2.sendMessage p q message =
      (match w.refusal p q message with | none => .ok () | some e => .error e,
        w.mailed p.channel q ((log ++ [index]).filterMap fun i => batch[i]?.bind (w.outgoing p q)) journal) := by
  obtain ⟨journal, hs⟩ := h.mailed
  obtain ⟨journal', heq⟩ := sendMessage_mailed log entry calm journal
  rw [hs]
  exact ⟨journal', heq.trans (congrArg (·, _) (sendAnswer_sane sane))⟩

theorem step (h : Underway w p q batch workers s log)
    (sane : ∀ m ∈ batch, ∀ why, p.encoder m.content ≠ .panic why)
    (calm : w.faults.get? (p.channel, .send) ≠ some .crash) {i : Nat} {new : List Nat}
    (hmove : Move p q batch s i new s') : Underway w p q batch workers s' (log ++ new) := by
  have answers : ∀ message ∈ batch, (s.2.sendMessage p q message).1 =
      match w.refusal p q message with | none => .ok () | some e => .error e := by
    intro message hm
    obtain ⟨index, hi⟩ := List.mem_iff_getElem?.1 hm
    obtain ⟨journal, hs⟩ := h.sendMessage_eq hi (sane message hm) calm
    exact congrArg Prod.fst hs
  refine ⟨h.toClaiming.step answers hmove, ?_⟩
  rcases hmove.bench with ⟨rfl, hb⟩ | ⟨index, message, rfl, entry, hb⟩
  · rw [List.append_nil, hb]
    exact h.mailed
  · obtain ⟨journal, hs⟩ := h.sendMessage_eq entry (sane message (List.mem_of_getElem? entry)) calm
    exact ⟨journal, hb.trans (congrArg Prod.snd hs)⟩

end Underway

/-- The notes of a bench that starts to publish. -/
def opening (w : Bench K V) (q : String) (batch workers : Nat) : List Note :=
  w.journal ++ [.debug ("publishing " ++ toString batch ++ " messages to " ++ q ++ " with " ++
    toString workers ++ " workers")]

/-- The messages that are encoded as a batch is published, in the order in which they are. -/
def encoded (w : Bench K V) (p : Publisher V) (q : String) (batch : List (Message V))
    (parallelism : Nat) (schedule : List Nat) : List Nat :=
  let workers := min parallelism batch.length
  let w := { w with journal := w.opening q batch.length workers }
  encodings p q batch (moves p q batch (w.crewSize workers) schedule w) (Crew.ofSize (w.crewSize workers), w)

theorem underway_runCrew {w : Bench K V} {p : Publisher V} {q : String} {batch : List (Message V)}
    (sane : ∀ m ∈ batch, ∀ why, p.encoder m.content ≠ .panic why)
    (calm : w.faults.get? (p.channel, .send) ≠ some .crash) (workers : Nat) (schedule : List Nat)
    (journal : List Note) :
    Underway w p q batch workers (runCrew p q batch workers schedule { w with journal })
      (encodings p q batch (moves p q batch workers schedule { w with journal })
        (Crew.ofSize workers, { w with journal })) :=
  runCrew_keeps (Underway.start journal) (fun h hmove => h.step sane calm hmove) schedule

theorem encodings_ofSize_zero (p : Publisher V) (q : String) (batch : List (Message V)) (is : List Nat)
    (w : Bench K V) : encodings p q batch is (Crew.ofSize 0, w) = [] := by
  induction is with
  | nil => rfl
  | cons i is ih => simpa [encodings, encodes, crewStep, Crew.ofSize] using ih

theorem short_le_one {w : Bench K V} {workers : Nat} (h : workers ≤ 1) : w.short workers = none := by
  obtain rfl | rfl : workers = 0 ∨ workers = 1 := by omega
  all_goals cases hs : w.shortage <;> simp [short, lack, hs]

theorem short_ample {w : Bench K V} (ample : w.shortage = none) (workers : Nat) : w.short workers = none := by
  rw [short, lack, ample, Option.filter_none]

theorem crewSize_eq {w : Bench K V} {workers : Nat} (h : w.short workers = none) : w.crewSize workers = workers := by
  rw [crewSize, h]

theorem crewSize_le (w : Bench K V) (workers : Nat) : w.crewSize workers ≤ workers := by
  unfold crewSize
  split
  · exact le_rfl
  · next lack h =>
    obtain ⟨-, few⟩ := Option.filter_eq_some_iff.1 h
    have hle : (if workers = 1 then 0 else workers) ≤ workers := by split <;> omega
    exact (of_decide_eq_true few).le.trans hle

theorem publishAnswer_short {c : Crew} (upright : c.falls = []) (q : String) (batch workers : Nat)
    (lack : Shortage) : (publishAnswer q batch workers (some lack) c).1 =
      .error (.transport ("cannot start publisher thread: " ++ lack.why)) := by
  rw [publishAnswer, upright]
  rfl

/-- A crew through with its batch is asked about it if it is complete. -/
theorem Claiming.answer {w : Bench K V} {q : String} {batch : List (Message V)}
    {refused : Message V → Option QueueError} {workers : Nat} {c : Crew} {log : List Nat}
    (h : Claiming batch refused (w.crewSize workers) c log) (rests : c.firstAtWork = none) (hw : 0 < workers) :
    (publishAnswer q batch.length workers (w.short workers) c).1 =
      match w.short workers with
      | some lack => .error (.transport ("cannot start publisher thread: " ++ lack.why))
      | none =>
        match batch.findSome? refused with
        | none => .ok batch.length
        | some e => .error e := by
  cases hshort : w.short workers with
  | none =>
    rw [crewSize_eq hshort] at h
    exact h.verdict rests hw
  | some lack => exact publishAnswer_short (h.falls_eq rests) ..

theorem encoded_eq_nil {w : Bench K V} {batch : List (Message V)} {parallelism : Nat}
    (h : w.crewSize (min parallelism batch.length) = 0) (p : Publisher V) (q : String) (schedule : List Nat) :
    w.encoded p q batch parallelism schedule = [] := by
  have hnobody (journal : List Note) : { w with journal }.crewSize (min parallelism batch.length) = 0 := h
  simp only [encoded, hnobody]
  exact encodings_ofSize_zero ..

theorem publishWith_eq {w : Bench K V} {p : Publisher V} {q : String} {batch : List (Message V)}
    (some : batch.isEmpty = false) (parallelism : Nat) (schedule : List Nat) :
    w.publishWith p q batch parallelism schedule =
      let workers := min parallelism batch.length
      let s := runCrew p q batch (w.crewSize workers) schedule
        { w with journal := w.opening q batch.length workers }
      let v := publishAnswer q batch.length workers (w.short workers) s.1
      (v.1, { s.2 with journal := s.2.journal ++ v.2 }) := by
  rw [publishWith, some]
  rfl

theorem filterMap_range_take {α β : Type} (xs : List α) (f : α → Option β) (n : Nat) :
    (List.range n).filterMap (fun i => xs[i]?.bind f) = (xs.take n).filterMap f := by
  induction xs generalizing n with
  | nil => simp
  | cons x xs ih =>
    cases n with
    | zero => rfl
    | succ n =>
      rw [List.range_succ_eq_map, List.filterMap_cons, List.filterMap_map, List.take_succ_cons]
      simp only [Function.comp_def, List.getElem?_cons_succ, ih, List.getElem?_cons_zero, Option.bind_some,
        List.filterMap_cons]

theorem filterMap_range {α β : Type} (xs : List α) (f : α → Option β) :
    (List.range xs.length).filterMap (fun i => xs[i]?.bind f) = xs.filterMap f := by
  rw [filterMap_range_take, List.take_length]

/-- What goes out stands behind what was ready. -/
theorem readyOf_outgoing (w : Bench K V) (p : Publisher V) (q : String) (batch : List (Message V))
    (order : List Nat) :
    (w.broker.mailed q (order.filterMap fun i => batch[i]?.bind (w.outgoing p q))).readyOf q =
      w.broker.readyOf q ++ (order.filterMap fun i => batch[i]?.bind (w.outgoing p q)).map fun l =>
        { body := l.body, properties := l.properties } := by
  cases hout : order.filterMap fun i => batch[i]?.bind (w.outgoing p q) with
  | nil => simp [Broker.mailed]
  | cons l ls =>
    have hl : l ∈ order.filterMap fun i => batch[i]?.bind (w.outgoing p q) := by simp [hout]
    obtain ⟨i, -, hi⟩ := List.mem_filterMap.1 hl
    obtain ⟨m, -, hm⟩ := Option.bind_eq_some_iff.1 hi
    have known : w.broker.hasQueue q = true := by
      unfold outgoing obstacle at hm
      split at hm
      · next ho =>
        split at ho
        · simp at ho
        · split at ho
          · simp at ho
          · simpa using ho
      · simp at hm
    exact Broker.readyOf_mailed known _

/-- Whatever the schedule of the workers: every message is encoded exactly once, unless no worker at
all was started; the answer is the number of messages, or the failure that comes first in the batch,
or that a worker could not be started; and the letters that go out are those of the messages that can
be published, each once, behind what was ready, and in the order of the batch if one worker is alone.
Nothing else changes but the journal. -/
theorem published (w : Bench K V) (p : Publisher V) (q : String) (batch : List (Message V))
    {parallelism : Nat} (hp : 1 ≤ parallelism)
    (sane : ∀ m ∈ batch, ∀ why, p.encoder m.content ≠ .panic why)
    (calm : w.faults.get? (p.channel, .send) ≠ some .crash) (schedule : List Nat) :
    let workers := min parallelism batch.length
    let served := if w.crewSize workers = 0 then [] else batch
    let order := w.encoded p q batch parallelism schedule
    let out := order.filterMap fun i => batch[i]?.bind (w.outgoing p q)
    let done := w.publishWith p q batch parallelism schedule
    order.Perm (List.range served.length) ∧
    done.1 = (match w.short workers with
      | some lack => .error (.transport ("cannot start publisher thread: " ++ lack.why))
      | none =>
        match batch.findSome? (w.refusal p q) with
        | none => .ok batch.length
        | some e => .error e) ∧
    done.2 = w.mailed p.channel q out done.2.journal ∧
    done.2.broker.readyOf q =
      w.broker.readyOf q ++ out.map (fun l => { body := l.body, properties := l.properties }) ∧
    out.Perm (served.filterMap (w.outgoing p q)) ∧
    (parallelism = 1 → w.short workers = none ∧ out = batch.filterMap (w.outgoing p q)) := by
  intro workers served order out done
  suffices order.Perm (List.range served.length) ∧ done.1 = (match w.short workers with
      | some lack => .error (.transport ("cannot start publisher thread: " ++ lack.why))
      | none =>
        match batch.findSome? (w.refusal p q) with
        | none => .ok batch.length
        | some e => .error e) ∧ (∃ journal, done.2 = w.mailed p.channel q out journal) ∧
      (parallelism = 1 → w.short workers = none ∧ order = List.range batch.length) by
    obtain ⟨hperm, hverdict, ⟨journal, hmailed⟩, hone⟩ := this
    have hready := readyOf_outgoing w p q batch order
    refine ⟨hperm, hverdict, by rw [hmailed]; rfl, by rw [hmailed]; exact hready, ?_, fun h => ⟨(hone h).1, ?_⟩⟩
    · have hout := hperm.filterMap fun i => batch[i]?.bind (w.outgoing p q)
      rw [filterMap_range_take] at hout
      refine hout.trans (.of_eq ?_)
      by_cases hs : w.crewSize workers = 0 <;> simp [served, hs]
    · rw [← filterMap_range batch, ← (hone h).2]
  cases hb : batch.isEmpty with
  | true =>
    obtain rfl := List.isEmpty_iff.1 hb
    have hnobody : workers = 0 := Nat.min_zero _
    have hshort : w.short workers = none := short_le_one (by omega)
    have he : order = [] := encoded_eq_nil ((crewSize_eq hshort).trans hnobody) p q schedule
    refine ⟨by simp [he, served], by rw [hshort]; rfl, ⟨w.journal, ?_⟩, fun _ => ⟨hshort, he⟩⟩
    simp only [out, he, List.filterMap_nil, mailed_nil]
    rfl
  | false =>
    have hlen : 0 < batch.length := List.length_pos_iff.2 (by simpa using hb)
    have hw : 0 < workers := Nat.lt_min.2 ⟨hp, hlen⟩
    let noted := { w with journal := w.opening q batch.length workers }
    have h := underway_runCrew (q := q) sane calm (w.crewSize workers) schedule noted.journal
    have rests := runCrew_rests p q batch (w.crewSize workers) schedule noted
    have hdone : done = _ := publishWith_eq hb parallelism schedule
    obtain ⟨journal, hmailed⟩ := h.mailed
    rw [hdone]
    refine ⟨?_, h.answer rests hw, ⟨_, by dsimp only; rw [hmailed]; rfl⟩, fun hone => ?_⟩
    · rcases Nat.eq_zero_or_pos (w.crewSize workers) with hs | hs
      · have he : order = [] := encoded_eq_nil hs p q schedule
        have hserved : served = [] := if_pos hs
        exact .of_eq (by rw [he, hserved]; rfl)
      · have hserved : served = batch := if_neg (Nat.pos_iff_ne_zero.1 hs)
        rw [hserved]
        exact h.log_perm rests hs
    · have hworkers : workers = 1 := by omega
      have hshort : w.short workers = none := short_le_one hworkers.le
      exact ⟨hshort, h.log_eq rests ((crewSize_eq hshort).trans hworkers)⟩

/-- Two workers on a batch whose second message has no encoding; the one that claims the first message
is the last to send. -/
theorem published_crossed : ∃ done, done =
      ({ broker := { queues := [{ name := "jobs" }] } } : Bench Nat Nat).publishWith
        ⟨⟨1⟩, fun n => if n = 0 then .error "nothing" else .ok [n.toUInt8], 2⟩ "jobs"
        [⟨7, {}⟩, ⟨0, {}⟩, ⟨9, {}⟩] 2 [1, 0, 0, 0, 0, 1] ∧
    done.1 = .error (.encode "nothing") ∧
    done.2.broker.readyOf "jobs" = [⟨[9], {}, 0⟩, ⟨[7], {}, 0⟩] := by
  have sane : ∀ n, ∀ why,
      (if n = 0 then Outcome.error "nothing" else .ok [n.toUInt8] : Outcome String Bytes) ≠ .panic why := by
    intro n why
    split <;> simp
  obtain ⟨-, hverdict, -, hready, -, -⟩ :=
    published ({ broker := { queues := [{ name := "jobs" }] } } : Bench Nat Nat)
      ⟨⟨1⟩, fun n => if n = 0 then .error "nothing" else .ok [n.toUInt8], 2⟩ "jobs"
      [⟨7, {}⟩, ⟨0, {}⟩, ⟨9, {}⟩] (by decide : 1 ≤ 2) (fun m _ => sane m.content) (by decide) [1, 0, 0, 0, 0, 1]
  exact ⟨_, rfl, hverdict, hready⟩

/-- Two messages that nothing keeps from being sent. If one of two workers cannot be started the other
sends both, and the answer is an error; if the channel panics, so does the call, and the second message
is never encoded. -/
theorem published_short :
    let w : Bench Nat Nat := { broker := { queues := [{ name := "jobs" }] } }
    let p : Publisher Nat := ⟨⟨1⟩, fun n => .ok [n.toUInt8], 2⟩
    let batch : List (Message Nat) := [⟨7, {}⟩, ⟨9, {}⟩]
    let crowded := { w with shortage := some ⟨1, "Resource temporarily unavailable (os error 11)"⟩ }
    let broken := { w with faults := [((p.channel, .send), .crash)] }
    batch.findSome? (crowded.refusal p "jobs") = none ∧
    (crowded.publishWith p "jobs" batch 2 []).1 = .error (.transport
      "cannot start publisher thread: Resource temporarily unavailable (os error 11)") ∧
    (crowded.publishWith p "jobs" batch 2 []).2.broker.readyOf "jobs" = [⟨[7], {}, 0⟩, ⟨[9], {}, 0⟩] ∧
    (broken.publishWith p "jobs" batch 1 []).1 = .panic (.message "send panicked") ∧
    broken.encoded p "jobs" batch 1 [] = [0] :=
  ⟨rfl, rfl, rfl, rfl, rfl⟩

end Bench
end QueueProbe
