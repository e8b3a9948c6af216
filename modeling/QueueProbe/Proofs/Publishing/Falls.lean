import QueueProbe.Proofs.Publishing.Schedule

/-! Publishing with an encoder that panics. Whoever holds a message that the encoder does not survive
falls, and claims no more; so a crew gets on with its batch until all of it has fallen, and how far
that is does not depend on the schedule. What becomes of the call does depend on the size of the crew. -/

namespace QueueProbe

variable {K V : Type}

/-- How many items are taken on, if whoever takes one on which `f` has something takes no further
one, and there are `n` to do it. -/
def reach {α β : Type} (f : α → Option β) : Nat → List α → Nat
  | 0, _ | _ + 1, [] => 0
  | n + 1, x :: xs => reach f (if (f x).isSome then n else n + 1) xs + 1

section Reach

variable {α β : Type} {f : α → Option β}

theorem lt_reach_iff {n k : Nat} {xs : List α} :
    k < reach f n xs ↔ k < xs.length ∧ ((xs.take k).filterMap f).length < n := by
  induction xs generalizing n k with
  | nil => cases n <;> simp [reach]
  | cons x xs ih =>
    cases n with
    | zero => simp [reach]
    | succ n =>
      cases k with
      | zero => simp [reach]
      | succ k =>
        rw [reach, Nat.add_lt_add_iff_right, ih]
        cases hf : f x <;> simp [hf]

theorem reach_le (n : Nat) (xs : List α) : reach f n xs ≤ xs.length :=
  Nat.le_of_not_lt fun h => Nat.lt_irrefl _ (lt_reach_iff.1 h).1

theorem reach_eq_length {n : Nat} {xs : List α} (h : (xs.filterMap f).length < n) :
    reach f n xs = xs.length := by
  refine Nat.le_antisymm (reach_le n xs) (Nat.le_of_not_lt fun hlt => ?_)
  have hsub := ((List.take_sublist (reach f n xs) xs).filterMap f).length_le
  exact Nat.lt_irrefl _ (lt_reach_iff.2 ⟨hlt, by omega⟩)

theorem filterMap_take_reach (n : Nat) (xs : List α) :
    (xs.take (reach f n xs)).filterMap f = (xs.filterMap f).take n := by
  induction xs generalizing n with
  | nil => simp
  | cons x xs ih =>
    cases n with
    | zero => simp [reach]
    | succ n =>
      rw [reach, List.take_succ_cons]
      cases hf : f x with
      | none => simpa [hf] using ih (n + 1)
      | some y => simpa [hf] using ih n

end Reach

/-- What somebody fell from. -/
def Hand.fall? : Hand → Option Panic
  | .fallen why => some why
  | .free | .holding _ | .done => none

namespace Crew

variable {c : Crew} {m : Member} {i : Nat}

theorem falls_eq (c : Crew) : c.falls = c.members.filterMap (·.hand.fall?) := by
  refine List.filterMap_congr fun m _ => ?_
  cases m.hand <;> rfl

theorem coe_falls (c : Crew) :
    (c.falls : Multiset Panic) = (c.members.map fun m => (m.hand.fall?.toList : Multiset Panic)).sum := by
  rw [falls_eq]
  induction c.members with
  | nil => rfl
  | cons m ms ih =>
    rw [List.map_cons, List.sum_cons, ← ih, Multiset.coe_add]
    cases hm : m.hand.fall? <;> simp [hm]

theorem falls_set (found : c.members[i]? = some m) (m' : Member) :
    ((c.setMember i m').falls : Multiset Panic) + m.hand.fall?.toList = c.falls + m'.hand.fall?.toList := by
  rw [coe_falls, coe_falls]
  exact Bench.sum_map_set _ found m'

/-- Nobody is two of fallen, free and holding a message. -/
theorem falls_add_held_add_free_le (bad : Nat → Bool) (c : Crew) :
    c.falls.length + c.held.countP (fun i => bad i) + c.members.countP (·.hand = .free) ≤
      c.members.length := by
  rw [falls_eq, held]
  induction c.members with
  | nil => simp
  | cons m ms ih =>
    have hfall : ((m :: ms).filterMap (·.hand.fall?)).length =
        m.hand.fall?.toList.length + (ms.filterMap (·.hand.fall?)).length := by
      rw [← List.singleton_append, List.filterMap_append, List.length_append]
      cases hm : m.hand.fall? <;> simp [hm]
    have hone : m.hand.fall?.toList.length + m.hand.grip.countP (fun i => decide (bad i)) +
        (if m.hand = .free then 1 else 0) ≤ 1 := by
      cases m.hand with
      | holding index => cases hb : bad index <;> simp [Hand.fall?, Hand.grip, hb]
      | _ => simp [Hand.fall?, Hand.grip]
    rw [hfall, List.map_cons, List.sum_cons, Multiset.countP_add, Multiset.coe_countP, List.countP_cons,
      List.length_cons]
    simp only [decide_eq_true_eq]
    omega

end Crew

namespace Bench

/-- How far a crew of so many workers has come with a batch on a bench that was `w`, once it encoded
the messages of `log`, if some of it may have fallen. -/
structure Falling (w : Bench K V) (p : Publisher V) (q : String) (batch : List (Message V))
    (workers : Nat) (s : Crew × Bench K V) (log : List Nat) : Prop where
  size : s.1.members.length = workers
  spent : ∀ m ∈ s.1.members, m.hand = .done → batch.length ≤ s.1.next
  accounted : (log : Multiset Nat) + s.1.held = Multiset.range (min s.1.next batch.length)
  ordered : workers = 1 →
    log ++ s.1.members.flatMap (·.hand.grip) = List.range (min s.1.next batch.length)
  /-- Whoever encoded a message that panics has fallen, and nobody else. -/
  fallen : (s.1.falls : Multiset Panic) = (log.filterMap fun i => batch[i]?.bind p.fall? : List Panic)
  within : min s.1.next batch.length ≤ reach p.fall? workers batch
  mailed : ∃ journal,
    s.2 = w.mailed p.channel q (log.filterMap fun i => batch[i]?.bind (w.outgoing p q)) journal

namespace Falling

variable {w : Bench K V} {p : Publisher V} {q : String} {batch : List (Message V)}
  {s s' : Crew × Bench K V} {i index next workers : Nat} {log : List Nat} {message : Message V} {m : Member}

theorem start (journal : List Note) :
    Falling w p q batch workers (Crew.ofSize workers, { w with journal }) [] where
  size := List.length_replicate
  spent m hm := by simp [(List.mem_replicate.1 hm).2]
  accounted := by simp [Crew.ofSize, Crew.held, Hand.grip]
  ordered _ := by simp [Crew.ofSize, Hand.grip]
  fallen := by simp [Crew.falls_eq, Crew.ofSize, Hand.fall?]
  within := by simp [Crew.ofSize]
  mailed := ⟨journal, by simp [mailed_nil]⟩

theorem replace (h : Falling w p q batch workers s log) (m' : Member) (new more : List Nat) {after : Bench K V}
    (found : s.1.members[i]? = some m) (hnext : s.1.next ≤ next)
    (hdone : m'.hand = .done → batch.length ≤ next)
    (hrange : List.range (min next batch.length) = List.range (min s.1.next batch.length) ++ more)
    (hgrip : new ++ m'.hand.grip = m.hand.grip ++ more)
    (hfall : m'.hand.fall?.toList = m.hand.fall?.toList ++ new.filterMap fun i => batch[i]?.bind p.fall?)
    (hwithin : min next batch.length ≤ reach p.fall? workers batch)
    (hmailed : ∃ journal, after =
      w.mailed p.channel q ((log ++ new).filterMap fun i => batch[i]?.bind (w.outgoing p q)) journal) :
    Falling w p q batch workers ({ s.1.setMember i m' with next }, after) (log ++ new) where
  size := (List.length_set ..).trans h.size
  spent k hk hd := by
    rcases List.mem_or_eq_of_mem_set hk with hk | rfl
    · exact (h.spent k hk hd).trans hnext
    · exact hdone hd
  accounted := Crew.account_set found h.accounted hrange hgrip
  ordered hone := Crew.order_set (h.size.trans hone) found (h.ordered hone) hrange hgrip
  fallen := by
    refine add_right_cancel (b := (m.hand.fall?.toList : Multiset Panic)) ?_
    refine (Crew.falls_set found m').trans ?_
    rw [hfall, h.fallen, List.filterMap_append, ← Multiset.coe_add, ← Multiset.coe_add]
    abel
  within := hwithin
  mailed := hmailed

/-- Whoever is free to claim a message is one that has not fallen, so the message is within reach. -/
theorem next_lt_reach (h : Falling w p q batch workers s log) (found : s.1.members[i]? = some m)
    (free : m.hand = .free) (more : s.1.next < batch.length) : s.1.next < reach p.fall? workers batch := by
  refine lt_reach_iff.2 ⟨more, ?_⟩
  -- each message before it that panics was encoded, and somebody fell, or is in the hand of somebody not free
  have hfell : s.1.falls.length = log.countP fun i => (batch[i]?.bind p.fall?).isSome := by
    rw [← List.length_filterMap_eq_countP, ← Multiset.coe_card, h.fallen, Multiset.coe_card]
  have hcount := congrArg (Multiset.countP fun i => (batch[i]?.bind p.fall?).isSome = true) h.accounted
  have hfree : 0 < s.1.members.countP (·.hand = .free) :=
    List.countP_pos_iff.2 ⟨m, List.mem_of_getElem? found, by simpa using free⟩
  have hle := s.1.falls_add_held_add_free_le fun i => (batch[i]?.bind p.fall?).isSome
  rw [Multiset.countP_add, Multiset.coe_countP, Nat.min_eq_left more.le] at hcount
  have htake : ((batch.take s.1.next).filterMap p.fall?).length =
      (Multiset.range s.1.next).countP fun i => (batch[i]?.bind p.fall?).isSome = true := by
    rw [← filterMap_range_take, List.length_filterMap_eq_countP, Multiset.range, Multiset.coe_countP]
    simp only [Bool.decide_eq_true]
  have hsize := h.size
  simp only [Bool.decide_eq_true] at hcount
  omega

theorem sent (h : Falling w p q batch workers s log) (entry : batch[index]? = some message)
    (calm : w.faults.get? (p.channel, .send) ≠ some .crash) {a : Outcome QueueError Unit} {after : Bench K V}
    (hsent : s.2.sendMessage p q message = (a, after)) : a = w.sendAnswer p q message ∧ ∃ journal, after =
      w.mailed p.channel q ((log ++ [index]).filterMap fun i => batch[i]?.bind (w.outgoing p q)) journal := by
  obtain ⟨journal, hs⟩ := h.mailed
  obtain ⟨journal', heq⟩ := sendMessage_mailed log entry calm journal
  rw [hs, heq] at hsent
  cases hsent
  exact ⟨rfl, journal', rfl⟩

theorem step (h : Falling w p q batch workers s log)
    (calm : w.faults.get? (p.channel, .send) ≠ some .crash) {new : List Nat}
    (hmove : Move p q batch s i new s') : Falling w p q batch workers s' (log ++ new) := by
  cases hmove with
  | rests idle => simpa using h
  | claims m found free more =>
    refine h.replace { m with hand := .holding s.1.next } [] [s.1.next] found (Nat.le_succ _)
      (by simp) ?_ (by simp [Hand.grip, free]) (by simp [Hand.fall?, free]) ?_ (by simpa using h.mailed)
    · rw [Nat.min_eq_left more, Nat.min_eq_left more.le, List.range_succ]
    · rw [Nat.min_eq_left more]
      exact h.next_lt_reach found free more
  | stops m found free spent =>
    have hmin : min (s.1.next + 1) batch.length = min s.1.next batch.length := by omega
    refine h.replace { m with hand := .done } [] [] found (Nat.le_succ _)
      (fun _ => spent.trans (Nat.le_succ _)) ?_ (by simp [Hand.grip, free]) (by simp [Hand.fall?, free])
      (hmin.trans_le h.within) (by simpa using h.mailed)
    rw [hmin, List.append_nil]
  | loses m index found held beyond =>
    have hlt := Crew.holding_lt h.accounted found held
    omega
  | sends m index message w' found held entry hsent =>
    obtain ⟨ha, hmailed⟩ := h.sent entry calm hsent
    have hfall : p.fall? message = none := fall?_eq_none fun why => by rw [← ha]; simp
    exact h.replace { hand := .free, tally := m.tally.success } [index] [] found le_rfl (by simp)
      (by simp) (by simp [Hand.grip, held]) (by simp [Hand.fall?, held, entry, hfall]) h.within hmailed
  | fails m index message e w' found held entry hsent =>
    obtain ⟨ha, hmailed⟩ := h.sent entry calm hsent
    have hfall : p.fall? message = none := fall?_eq_none fun why => by rw [← ha]; simp
    exact h.replace { hand := .free, tally := m.tally.failure index e } [index] [] found le_rfl (by simp)
      (by simp) (by simp [Hand.grip, held]) (by simp [Hand.fall?, held, entry, hfall]) h.within hmailed
  | falls m index message why w' found held entry hsent =>
    obtain ⟨ha, hmailed⟩ := h.sent entry calm hsent
    have hfall : p.fall? message = some why := sendAnswer_eq_panic_iff.1 ha.symm
    exact h.replace { m with hand := .fallen why } [index] [] found le_rfl (by simp)
      (by simp) (by simp [Hand.grip, held]) (by simp [Hand.fall?, held, entry, hfall]) h.within hmailed

section Rest

variable (h : Falling w p q batch workers s log) (rests : s.1.firstAtWork = none)
include h rests

theorem log_perm_claimed : log.Perm (List.range (min s.1.next batch.length)) := by
  have ha := h.accounted
  rw [Crew.held_eq_zero rests, add_zero] at ha
  exact Multiset.coe_eq_coe.1 ha

/-- Either somebody found that nothing is left, or everybody has fallen. -/
theorem claimed_eq_reach : min s.1.next batch.length = reach p.fall? workers batch := by
  refine Nat.le_antisymm h.within (Nat.le_of_not_lt fun hlt => ?_)
  obtain ⟨hshort, hfew⟩ := lt_reach_iff.1 hlt
  have hfell : ∀ m ∈ s.1.members, (m.hand.fall?).isSome := by
    intro m hm
    have hidle := Crew.not_isAtWork rests m hm
    cases hh : m.hand with
    | free => simp [Crew.isAtWork, hh] at hidle
    | holding index => simp [Crew.isAtWork, hh] at hidle
    | done => have hspent := h.spent m hm hh; omega
    | fallen why => rfl
  have hall : s.1.falls.length = workers := by
    rw [Crew.falls_eq, List.length_filterMap_eq_countP, List.countP_eq_length.2 hfell, h.size]
  have hperm := (h.log_perm_claimed rests).filterMap fun i => batch[i]?.bind p.fall?
  rw [filterMap_range_take] at hperm
  have hlen := (Multiset.coe_eq_coe.1 h.fallen).length_eq.trans hperm.length_eq
  omega

theorem log_perm : log.Perm (List.range (reach p.fall? workers batch)) := by
  rw [← h.claimed_eq_reach rests]
  exact h.log_perm_claimed rests

theorem log_eq (hw : workers = 1) : log = List.range (reach p.fall? workers batch) := by
  have ho := h.ordered hw
  rwa [Crew.grips_eq_nil rests, List.append_nil, h.claimed_eq_reach rests] at ho

theorem falls_perm :
    s.1.falls.Perm ((batch.filterMap p.fall?).take workers) := by
  have hperm := (h.log_perm rests).filterMap fun i => batch[i]?.bind p.fall?
  rw [filterMap_range_take, filterMap_take_reach] at hperm
  exact (Multiset.coe_eq_coe.1 h.fallen).trans hperm

theorem verdict {why : Panic} {rest : List Panic}
    (hfalls : (batch.filterMap p.fall?).take workers = why :: rest) :
    (publishVerdict q batch.length workers s.1).1 =
      if workers = 1 then .panic why
      else if rest = [] then .error (.transport "publisher thread panicked")
      else .panic (.message "a scoped thread panicked") := by
  have hperm := h.falls_perm rests
  rw [hfalls] at hperm
  have hlen := congrArg List.length hfalls
  rw [List.length_take, List.length_cons] at hlen
  unfold publishVerdict
  cases rest with
  | nil =>
    rw [hperm.eq_singleton]
    by_cases hone : workers = 1 <;> simp [hone]
  | cons why' rest =>
    have hmany : 2 ≤ s.1.falls.length := by rw [hperm.length_eq]; simp
    have hone : workers ≠ 1 := by rw [List.length_cons] at hlen; omega
    rw [if_neg hone, if_neg (List.cons_ne_nil _ _)]
    match s.1.falls, hmany with
    | _ :: _ :: _, _ => rfl

end Rest

/-- A fall does not go unnoticed even if those who were started are not asked. -/
theorem answer (h : Falling w p q batch (w.crewSize workers) s log) (rests : s.1.firstAtWork = none)
    {why : Panic} {rest : List Panic} (hfalls : (batch.filterMap p.fall?).take (w.crewSize workers) = why :: rest) :
    (publishAnswer q batch.length workers (w.short workers) s.1).1 =
      if workers = 1 then .panic why
      else if rest = [] ∧ w.short workers = none then .error (.transport "publisher thread panicked")
      else .panic (.message "a scoped thread panicked") := by
  cases hshort : w.short workers with
  | none =>
    rw [crewSize_eq hshort] at h hfalls
    simpa [publishAnswer] using h.verdict rests hfalls
  | some lack =>
    have hone : workers ≠ 1 := fun hone => by simp [short_le_one hone.le] at hshort
    have hsome : s.1.falls.isEmpty = false := by
      rw [List.isEmpty_eq_false_iff, ← List.length_pos_iff, (h.falls_perm rests).length_eq, hfalls]
      exact Nat.succ_pos _
    simp [publishAnswer, hsome, hone]

end Falling

theorem falling_runCrew {w : Bench K V} {p : Publisher V} (q : String) (batch : List (Message V))
    (calm : w.faults.get? (p.channel, .send) ≠ some .crash) (workers : Nat) (schedule : List Nat)
    (journal : List Note) :
    Falling w p q batch workers (runCrew p q batch workers schedule { w with journal })
      (encodings p q batch (moves p q batch workers schedule { w with journal })
        (Crew.ofSize workers, { w with journal })) :=
  runCrew_keeps (Falling.start journal) (fun h hmove => h.step calm hmove) schedule

/-- A crew from which nobody can fall comes through like one whose encoder never panics. -/
theorem answer_clear {w : Bench K V} {p : Publisher V} (q : String) {batch : List (Message V)}
    (calm : w.faults.get? (p.channel, .send) ≠ some .crash) {workers : Nat} (hw : 0 < workers)
    (schedule : List Nat) (journal : List Note) (clear : (batch.filterMap p.fall?).take (w.crewSize workers) = []) :
    (publishAnswer q batch.length workers (w.short workers)
      (runCrew p q batch (w.crewSize workers) schedule { w with journal }).1).1 =
      match w.short workers with
      | some lack => .error (.transport ("cannot start publisher thread: " ++ lack.why))
      | none =>
        match batch.findSome? (w.refusal p q) with
        | none => .ok batch.length
        | some e => .error e := by
  have rests := runCrew_rests p q batch (w.crewSize workers) schedule { w with journal }
  cases hshort : w.short workers with
  | some lack =>
    have hnobody := (falling_runCrew q batch calm _ schedule journal).falls_perm rests
    rw [clear] at hnobody
    exact publishAnswer_short hnobody.eq_nil ..
  | none =>
    have sane : ∀ m ∈ batch, ∀ why, p.encoder m.content ≠ .panic why := by
      intro m hm
      have hnil : batch.filterMap p.fall? = [] := by
        simpa [crewSize_eq hshort, Nat.pos_iff_ne_zero.1 hw] using clear
      exact Publisher.fall?_eq_none_iff.1 (List.filterMap_eq_nil_iff.1 hnil m hm)
    have hanswer := (underway_runCrew (q := q) sane calm _ schedule journal).answer (q := q) rests hw
    rwa [hshort] at hanswer

/-- Whatever the schedule: a crew gets to a message if fewer messages before it panic than the crew has
workers, and encodes each message it gets to once. The letters that go out are those of the messages
it gets to that can be published, each once, behind what was ready, and in the order of the batch if
one worker is alone; nothing else changes but the journal. One worker's panic is its caller's; of
several workers one may fall, which is an error, and a second one to fall makes the call panic, as
the first one does if not all workers could be started. -/
theorem published_till_all_fell (w : Bench K V) (p : Publisher V) (q : String) (batch : List (Message V))
    {parallelism : Nat} (hp : 1 ≤ parallelism)
    (calm : w.faults.get? (p.channel, .send) ≠ some .crash) (schedule : List Nat) :
    let workers := min parallelism batch.length
    let crew := w.crewSize workers
    let reached := reach p.fall? crew batch
    let order := w.encoded p q batch parallelism schedule
    let out := order.filterMap fun i => batch[i]?.bind (w.outgoing p q)
    let done := w.publishWith p q batch parallelism schedule
    (w.shortage = none ∨ parallelism = 1 → w.short workers = none ∧ crew = workers) ∧
    (∀ k, k < reached ↔ k < batch.length ∧ ((batch.take k).filterMap p.fall?).length < crew) ∧
    ((batch.filterMap p.fall?).length < crew → reached = batch.length) ∧
    order.Perm (List.range reached) ∧
    done.2 = w.mailed p.channel q out done.2.journal ∧
    done.2.broker.readyOf q =
      w.broker.readyOf q ++ out.map (fun l => { body := l.body, properties := l.properties }) ∧
    out.Perm ((batch.take reached).filterMap (w.outgoing p q)) ∧
    (parallelism = 1 → out = (batch.take reached).filterMap (w.outgoing p q)) ∧
    done.1 = match (batch.filterMap p.fall?).take crew with
      | [] => match w.short workers with
        | some lack => .error (.transport ("cannot start publisher thread: " ++ lack.why))
        | none => match batch.findSome? (w.refusal p q) with
          | none => .ok batch.length
          | some e => .error e
      | why :: rest =>
        if workers = 1 then .panic why
        else if rest = [] ∧ w.short workers = none then .error (.transport "publisher thread panicked")
        else .panic (.message "a scoped thread panicked") := by
  intro workers crew reached order out done
  have whole (h : w.shortage = none ∨ parallelism = 1) : w.short workers = none := by
    rcases h with ample | rfl
    · exact short_ample ample workers
    · exact short_le_one (Nat.min_le_left ..)
  suffices order.Perm (List.range reached) ∧ (∃ journal, done.2 = w.mailed p.channel q out journal) ∧
      (parallelism = 1 → order = List.range reached) ∧
      (∀ why rest, (batch.filterMap p.fall?).take crew = why :: rest → done.1 =
        if workers = 1 then .panic why
        else if rest = [] ∧ w.short workers = none then .error (.transport "publisher thread panicked")
        else .panic (.message "a scoped thread panicked")) ∧
      ((batch.filterMap p.fall?).take crew = [] → done.1 = match w.short workers with
        | some lack => .error (.transport ("cannot start publisher thread: " ++ lack.why))
        | none => match batch.findSome? (w.refusal p q) with
          | none => .ok batch.length
          | some e => .error e) by
    obtain ⟨hperm, ⟨journal, hmailed⟩, hone, hfell, hclear⟩ := this
    have hready := readyOf_outgoing w p q batch order
    refine ⟨fun h => ⟨whole h, crewSize_eq (whole h)⟩, fun k => lt_reach_iff, reach_eq_length, hperm,
      by rw [hmailed]; rfl, by rw [hmailed]; exact hready, ?_, fun h => ?_, ?_⟩
    · rw [← filterMap_range_take]
      exact hperm.filterMap _
    · rw [← filterMap_range_take, ← hone h]
    · cases hfalls : (batch.filterMap p.fall?).take crew with
      | nil => exact hclear hfalls
      | cons why rest => exact hfell why rest hfalls
  cases hb : batch.isEmpty with
  | true =>
    obtain rfl := List.isEmpty_iff.1 hb
    have hnobody : workers = 0 := Nat.min_zero _
    have hshort : w.short workers = none := short_le_one (by omega)
    have he : order = [] := encoded_eq_nil ((crewSize_eq hshort).trans hnobody) p q schedule
    have hreached : reached = 0 := Nat.le_zero.1 (reach_le crew [])
    refine ⟨by rw [he, hreached]; rfl, ⟨w.journal, ?_⟩, fun _ => by rw [he, hreached]; rfl, by simp,
      fun _ => by rw [hshort]; rfl⟩
    simp only [out, he, List.filterMap_nil, mailed_nil]
    rfl
  | false =>
    have hlen : 0 < batch.length := List.length_pos_iff.2 (by simpa using hb)
    have hw : 0 < workers := Nat.lt_min.2 ⟨hp, hlen⟩
    let noted := { w with journal := w.opening q batch.length workers }
    have h := falling_runCrew q batch calm crew schedule noted.journal
    have rests := runCrew_rests p q batch crew schedule noted
    have hdone : done = _ := publishWith_eq hb parallelism schedule
    obtain ⟨journal, hmailed⟩ := h.mailed
    rw [hdone]
    refine ⟨h.log_perm rests, ⟨_, by dsimp only; rw [hmailed]; rfl⟩, fun hone => ?_,
      fun why rest hfalls => h.answer rests hfalls, answer_clear q calm hw schedule noted.journal⟩
    have hcrew : crew = workers := crewSize_eq (whole (.inr hone))
    exact h.log_eq rests (by omega)

/-- One of two workers falls from the message it claims first, and the other sends all the rest. -/
theorem published_till_all_fell_once : ∃ done, done =
      ({ broker := { queues := [{ name := "jobs" }] } } : Bench Nat Nat).publishWith
        ⟨⟨1⟩, fun n => if n = 0 then .panic (.message "nothing") else .ok [n.toUInt8], 2⟩ "jobs"
        [⟨0, {}⟩, ⟨7, {}⟩, ⟨9, {}⟩] 2 [1, 0, 1, 0] ∧
    done.1 = .error (.transport "publisher thread panicked") ∧
    done.2.broker.readyOf "jobs" = [⟨[7], {}, 0⟩, ⟨[9], {}, 0⟩] := by
  obtain ⟨-, -, -, -, -, hready, -, -, hverdict⟩ :=
    published_till_all_fell ({ broker := { queues := [{ name := "jobs" }] } } : Bench Nat Nat)
      ⟨⟨1⟩, fun n => if n = 0 then .panic (.message "nothing") else .ok [n.toUInt8], 2⟩ "jobs"
      [⟨0, {}⟩, ⟨7, {}⟩, ⟨9, {}⟩] (by decide : 1 ≤ 2) (by decide) [1, 0, 1, 0]
  exact ⟨_, rfl, hverdict, hready⟩

/-- A panic may reach the caller, and leave messages unsent that have nothing in their way: of one
worker any panic does, and of two the second. -/
theorem panic_reaches_caller :
    let w : Bench Nat Nat := { broker := { queues := [{ name := "jobs" }] } }
    let p : Publisher Nat :=
      ⟨⟨1⟩, fun n => if n = 0 then .panic (.message "nothing") else .ok [n.toUInt8], 2⟩
    let one := w.publishWith p "jobs" [⟨0, {}⟩, ⟨7, {}⟩] 1 []
    let two := w.publishWith p "jobs" [⟨0, {}⟩, ⟨0, {}⟩, ⟨7, {}⟩] 2 []
    w.outgoing p "jobs" ⟨7, {}⟩ = some ⟨[7], {}⟩ ∧
    (one.1 = .panic (.message "nothing") ∧ one.2.broker.readyOf "jobs" = []) ∧
    two.1 = .panic (.message "a scoped thread panicked") ∧ two.2.broker.readyOf "jobs" = [] :=
  ⟨rfl, ⟨rfl, rfl⟩, rfl, rfl⟩

end Bench
end QueueProbe
