import QueueProbe.Proofs.Broker.Turns
import QueueProbe.Proofs.Consumer.Aftermath

/-! The limit of a policy. A letter that cannot be filed goes back until it was delivered so many times, and
then is given up. The counter goes on with every delivery, whatever becomes of the reject of one, so the
letters that go back have counts that rise and stay below the limit. This holds up to the width of the
counter. -/

namespace QueueProbe

variable {K V : Type}

/-- The turns of the letter that queue `q` accepted under number `p` that workers rejected, with requeue or
without, and the broker took back. -/
def rejections (requeue : Bool) (q : String) (p : Nat) (log : List (Mark K V)) : List Delivery :=
  ((honoured (fun _ => true) log).filter fun x =>
    x.2 = some requeue ∧ x.1 ∈ Broker.turns q p (acts log)).map (·.1)

/-- Somebody who works at a seat, as long as there is something to do. -/
def Seat.worker (s : Seat K V) (p : Phase) : Worker K V :=
  { tag := s.tag, channel := s.channel, duty := .filing s.how, phase := p }

section Policy

variable {log : List (Mark K V)} {s : Scene K V} {v : Verdict K V} {answer : Outcome BrokerError Unit}
  {r : Bool} {q : String} {p : Nat} {d : Delivery}

theorem requeue_of_verdict {p : Seat K V → Bool} (hv : v ∈ verdicts p log) (hr : v.requeue = some r) :
    r = v.seat.how.policy.keeps v.delivery.count.toNat := by
  obtain ⟨hv, -⟩ := List.mem_filter.1 hv
  obtain ⟨m, -, hm⟩ := List.mem_filterMap.1 hv
  cases m with
  | filed =>
    obtain rfl := Option.some.inj hm
    cases hr
  | refused =>
    obtain rfl := Option.some.inj hm
    exact (Option.some.inj hr).symm
  | _ => cases hm

theorem Register.judged_of_call (h : Register log s) (hc : .settled v answer ∈ log) :
    (∃ p, (v.seat, p) ∈ leases log) ∧ v ∈ verdicts (Seat.hasTag v.seat.tag) log := by
  have called : (v, answer) ∈ calls (Seat.hasTag v.seat.tag) log :=
    List.mem_filter.2 ⟨List.mem_filterMap.2 ⟨_, hc, rfl⟩, decide_eq_true rfl⟩
  refine ⟨h.dealt.seated _ hc _ rfl, ?_⟩
  rw [(h.handed (solitary_hasTag v.seat.tag)).judged]
  exact List.mem_append_left _ (List.mem_map_of_mem called)

theorem call_of_honoured {p : ConsumerTag → Bool} {c : Option Bool} (hx : (d, c) ∈ honoured p log) :
    ∃ v, .settled v (.ok ()) ∈ log ∧ v.delivery = d ∧ v.requeue = c := by
  obtain ⟨⟨v, answer⟩, hy, hv⟩ := List.mem_map.1 hx
  obtain ⟨hy, ok⟩ := List.mem_filter.1 hy
  obtain ⟨m, hm, hmv⟩ := List.mem_filterMap.1 (List.mem_filter.1 hy).1
  obtain ⟨rfl, hr⟩ := Prod.mk.inj hv
  obtain rfl : answer = .ok () := of_decide_eq_true ok
  cases m with
  | settled =>
    obtain ⟨rfl, rfl⟩ := Prod.mk.inj (Option.some.inj hmv)
    exact ⟨_, hm, rfl, hr⟩
  | _ => cases hmv

theorem mem_rejections : d ∈ rejections r q p log ↔
    (d, some r) ∈ honoured (fun _ => true) log ∧ d ∈ Broker.turns q p (acts log) := by
  simp [rejections]

theorem rejections_mono (hd : d ∈ rejections r q p log) (new : List (Mark K V)) :
    d ∈ rejections r q p (log ++ new) := by
  obtain ⟨hx, hm⟩ := mem_rejections.1 hd
  rw [mem_rejections, honoured_append, acts_append]
  exact ⟨List.mem_append_left _ hx, (Broker.turns_append q p _ _).subset hm⟩

end Policy

namespace Bench

open Broker

variable [DecidableEq K] [Debug K] {log : List (Mark K V)} {w : Bench K V} {r : Bool} {q : String} {p n : Nat}
  {d : Delivery}

theorem History.rejections_nodup (run : History log w) (r : Bool) (q : String) (p : Nat) :
    (rejections r q p log).Nodup := by
  have once : ((honoured (fun _ => true) log).map (·.1.tag)).Nodup :=
    (story_run log).tagged.once.sublist (run.honoured_finished _)
  refine List.Nodup.of_map Delivery.tag ?_
  rw [rejections, List.map_map]
  exact once.sublist (List.filter_sublist.map _)

theorem History.event_of_rejection (run : History log w) (hd : d ∈ rejections r q p log) :
    ∃ u, .rejected u r ∈ story log ∧ told u = d := by
  obtain ⟨e, he, hs⟩ := List.mem_filterMap.1 ((run.honoured_sublist _).subset (mem_rejections.1 hd).1)
  cases e with
  | rejected u k =>
    obtain ⟨rfl, rfl⟩ : told u = d ∧ k = r := by simpa [Event.settlement] using hs
    exact ⟨u, he, rfl⟩
  | acked u => simp [Event.settlement] at hs
  | _ => cases hs

theorem History.delivered_of_call (run : History log w) {v : Verdict K V} {answer : Outcome BrokerError Unit}
    (hc : .settled v answer ∈ log) : v.delivery ∈ deliveries v.seat.how.queue (story log) := by
  obtain ⟨⟨k, hl⟩, hv⟩ := run.register.judged_of_call hc
  obtain ⟨s, hs, -, hq, -⟩ := run.register.given hl hv
  exact mem_deliveries_iff.2 ⟨s, hs, hq⟩

theorem History.count_of_reject (run : History log w)
    (policy : ∀ l ∈ leases log, l.1.how.policy = .deadLetterAfter n) {v : Verdict K V}
    {answer : Outcome BrokerError Unit} (hc : .settled v answer ∈ log) (hr : v.requeue = some r) :
    r = decide (v.delivery.count.toNat < n) := by
  obtain ⟨⟨k, hl⟩, hv⟩ := run.register.judged_of_call hc
  have judged := requeue_of_verdict hv hr
  rwa [policy _ hl] at judged

/-- The turns that were given up are the last, so there is at most one. -/
theorem History.last_of_given_up (run : History log w) (hd : d ∈ rejections false q p log) :
    (Broker.turns q p (acts log)).getLast? = some d := by
  obtain ⟨u, hu, rfl⟩ := run.event_of_rejection hd
  exact last_turn hu rfl (mem_rejections.1 hd).2

theorem History.given_up_le (run : History log w) : (rejections false q p log).length ≤ 1 := by
  have last : rejections false q p log ⊆ (Broker.turns q p (acts log)).getLast?.toList :=
    fun d hd => Option.mem_toList.2 (run.last_of_given_up hd)
  have few := ((run.rejections_nodup false q p).subperm last).length_le
  cases h : (Broker.turns q p (acts log)).getLast? with
  | none =>
    rw [h] at few
    exact few.trans (Nat.zero_le 1)
  | some d =>
    rw [h] at few
    exact few

/-- Turns that go back have counts that are different and below the limit. -/
theorem History.requeues_le (run : History log w)
    (policy : ∀ l ∈ leases log, l.1.how.policy = .deadLetterAfter n)
    (fits : (Broker.turns q p (acts log)).length < 2 ^ 32) :
    (rejections true q p log).length ≤ n - 1 := by
  have number : ∀ d ∈ rejections true q p log,
      ∃ i, (Broker.turns q p (acts log))[i]? = some d ∧ d.count.toNat = i + 1 := by
    intro d hd
    obtain ⟨i, hi⟩ := List.mem_iff_getElem?.1 (mem_rejections.1 hd).2
    have hlt := (List.getElem?_eq_some_iff.1 hi).1
    refine ⟨i, hi, ?_⟩
    have small : i + 1 < 2 ^ 32 := by omega
    rw [(turn_count hi).1, UInt32.toNat_ofNat_of_lt' small]
  -- below the range a count says which turn it is, so no two that went back have the same
  have distinct : ((rejections true q p log).map (·.count.toNat)).Nodup := by
    refine (run.rejections_nodup true q p).map_on fun d hd d' hd' same => ?_
    obtain ⟨i, hi, hc⟩ := number d hd
    obtain ⟨j, hj, hc'⟩ := number d' hd'
    obtain rfl : i = j := by omega
    exact Option.some.inj (hi.symm.trans hj)
  have range : (rejections true q p log).map (·.count.toNat) ⊆ List.range' 1 (n - 1) := by
    intro c hc
    obtain ⟨d, hd, rfl⟩ := List.mem_map.1 hc
    obtain ⟨i, -, hi⟩ := number d hd
    obtain ⟨v, hv, rfl, hr⟩ := call_of_honoured (mem_rejections.1 hd).1
    have below := of_decide_eq_true (run.count_of_reject policy hv hr).symm
    rw [List.mem_range'_1]
    omega
  have few := (distinct.subperm range).length_le
  rwa [List.length_map, List.length_range'] at few

/-- After every run of consumers that all give up after `n` deliveries, whatever came between, each reject with
requeue was asked for a delivery with a count below `n`, and each without for one with a count of at least `n`.
A letter was given up at most once, and has no more turns after that. As long as the turns of a letter fit the
counter, it went back at most `max n 1 - 1` times. -/
theorem requeues_bounded_in_range (run : History log w)
    (policy : ∀ l ∈ leases log, l.1.how.policy = .deadLetterAfter n) :
    (∀ v answer, .settled v answer ∈ log →
      (v.requeue = some true → v.delivery.count.toNat < n) ∧
      (v.requeue = some false → n ≤ v.delivery.count.toNat) ∧
      ∃ p, v.delivery ∈ Broker.turns v.seat.how.queue p (acts log)) ∧
    ∀ q p, (∀ i d, (Broker.turns q p (acts log))[i]? = some d →
        d.count = UInt32.ofNat (i + 1) ∧ (accepted q (story log))[p]? = some d.letter) ∧
      ((Broker.turns q p (acts log)).length < 2 ^ 32 →
        (rejections true q p log).length ≤ max n 1 - 1) ∧
      (rejections false q p log).length ≤ 1 ∧
      ∀ d ∈ rejections false q p log, ∀ more w', Sequel w more w' →
        Broker.turns q p (acts (log ++ more)) = Broker.turns q p (acts log) := by
  refine ⟨fun v answer hc => ⟨fun hr => ?_, fun hr => ?_, ?_⟩, fun q p =>
    ⟨fun i d hi => turn_count hi, fun fits => ?_, ?_, fun d hd more w' on => ?_⟩⟩
  · exact of_decide_eq_true (run.count_of_reject policy hc hr).symm
  · exact Nat.not_lt.1 (of_decide_eq_false (run.count_of_reject policy hc hr).symm)
  · exact turn_of_delivery (run.delivered_of_call hc)
  · have few := run.requeues_le policy fits
    omega
  · exact run.given_up_le
  · have grown : History (log ++ more) w' := run.trans on
    have last := grown.last_of_given_up (rejections_mono hd more)
    rw [acts_append] at last ⊢
    exact turns_over (run.last_of_given_up hd) last

/-- A body goes back once; the next reject of it is lost with the connection and its channel is closed. Then
another consumer has it for the third time and gives it up. -/
theorem requeues_bounded_in_range_lost : ∃ (log : List (Mark String Bytes)) (w : Bench String Bytes),
    History log w ∧ (∀ l ∈ leases log, l.1.how.policy = .deadLetterAfter 3) ∧
    (calls (fun _ => true) log).map (fun x => (x.1.delivery.count, x.1.requeue, x.2)) =
      [(1, some true, .ok ()), (2, some true, .error .connectionLost), (3, some false, .ok ())] ∧
    (Broker.turns "jobs" 0 (acts log)).length < 2 ^ 32 ∧
    (rejections true "jobs" 0 log).length = 1 ∧
    (rejections false "jobs" 0 log).length = 1 ∧
    (rejections true "jobs" 0 log).length ≤ max 3 1 - 1 := by
  let t (k : Nat) : Happening String Bytes := .work (consumerTag k)
  let hs : List (Happening String Bytes) := [.act .openChannel, .act .openChannel, .act (.declare "jobs"),
    .newStore, .newConsumer ⟨1⟩ 0 1, .newConsumer ⟨2⟩ 0 1, post "jobs" 1 none, subscribing 0 "jobs" 3, t 1, t 1,
    t 1, t 1, t 1, .act (.connect false), t 1, .act (.connect true), .act (.close ⟨1⟩), subscribing 1 "jobs" 3,
    t 2, t 2, t 2]
  have run : History (({} : Bench String Bytes).chronicle hs) (({} : Bench String Bytes).undergoAll hs) :=
    sequel_all {} hs
  have policy : ∀ l ∈ leases (({} : Bench String Bytes).chronicle hs), l.1.how.policy = .deadLetterAfter 3 := by
    decide +kernel
  have fits : (Broker.turns "jobs" 0 (acts (({} : Bench String Bytes).chronicle hs))).length < 2 ^ 32 := by
    decide +kernel
  have bound := ((requeues_bounded_in_range run policy).2 "jobs" 0).2.1 fits
  refine ⟨_, _, run, policy, ?_, fits, ?_, ?_, bound⟩
  · decide +kernel
  · decide +kernel
  · decide +kernel

/-! Beyond the range of the counter. One worker after the other serves the queue, and nothing is the matter with
their channels. -/

structure Solo (log : List (Mark K V)) (w : Bench K V) (crew : List (Worker K V)) : Prop where
  run : History log w
  crew : w.workers = crew
  calm : w.faults = [] ∧ w.shortage = none

namespace Solo

variable {crew : List (Worker K V)} {s : Seat K V} {e : QueueError} {ph : Phase}

theorem broker (h : Solo log w crew) : w.broker = after (acts log) := h.run.tenancy.broker

theorem snoc (h : Solo log w crew) (a : Happening K V) {new : List (Mark K V)} (w' : Bench K V)
    {crew' : List (Worker K V)} (marks : w.marks a = new) (now : w.undergo a = w') (staff : w'.workers = crew')
    (calm : w'.faults = [] ∧ w'.shortage = none) : ∃ w', Solo (log ++ new) w' crew' :=
  ⟨w', marks ▸ now ▸ h.run.snoc a, staff, calm⟩

theorem act (h : Solo log w crew) (a : Act) (may : w.reserved a = false) :
    ∃ w', Solo (log ++ [.asked a]) w' crew := by
  refine h.snoc (.act a) { w with broker := w.broker.act a } ?_ ?_ h.crew h.calm
  · simp [marks, may]
  · simp [undergo, may]

theorem worker? (h : Solo log w [s.worker ph]) : w.worker? s.tag = some (s.worker ph) := by
  simp [Bench.worker?, h.crew, Seat.worker]

theorem setPhase (h : Solo log w [s.worker ph]) (ph' : Phase) :
    (w.setPhase s.tag ph').workers = [s.worker ph'] := by
  simp [Bench.setPhase, onWorker, h.crew, Seat.worker]

theorem take (h : Solo log w [s.worker .idle]) (hd : ((after (acts log)).deliver s.tag).map (·.1) = some d) :
    ∃ w', Solo (log ++ [.took s d]) w' [s.worker (.holding d)] := by
  obtain ⟨⟨c, b⟩, delivered, rfl⟩ := Option.map_eq_some_iff.1 hd
  rw [← h.broker] at delivered
  obtain ⟨r, -, -, -, found, -⟩ := deliver_eq delivered
  have live : w.isSubscribed s.tag = true := by
    have ht := subscription?_tag found
    exact List.any_eq_true.2 ⟨r, List.mem_of_find?_eq_some found, decide_eq_true ht⟩
  have staff := h.setPhase (.holding c)
  refine h.snoc (.work s.tag) (({ w with broker := b } : Bench K V).setPhase s.tag (.holding c)) ?_ ?_ staff
    h.calm
  · simp [marks, effort, h.worker?, Seat.worker, delivered]
  · simp [undergo, advance, h.worker?, Seat.worker, live, Bench.take, delivered]

theorem refuse (h : Solo log w [s.worker (.holding d)]) (bad : index s.how d = .error e) :
    ∃ w', Solo (log ++ [.refused s d e]) w'
      [s.worker (.settling d (some (s.how.policy.keeps d.count.toNat)))] := by
  have handled : (w.handle (s.worker (.holding d)) d).workers =
      [s.worker (.settling d (some (s.how.policy.keeps d.count.toNat)))] ∧
      (w.handle (s.worker (.holding d)) d).faults = [] ∧
      (w.handle (s.worker (.holding d)) d).shortage = none := by
    cases hk : s.how.policy.keeps d.count.toNat <;>
      simp [handle, file, Seat.worker, bad, hk, Bench.setPhase, onWorker, note, count, onConsumer, h.crew, h.calm]
  refine h.snoc (.work s.tag) (w.handle (s.worker (.holding d)) d) ?_ ?_ handled.1 handled.2
  · simp [marks, effort, h.worker?, Seat.worker, mayHandle, bad]
  · simp [undergo, advance, h.worker?, Seat.worker, mayHandle]

theorem settle (h : Solo log w [s.worker (.settling d (some r))]) {a : Except BrokerError Unit}
    (answer : ((after (acts log)).reject s.channel d.tag r).1 = a) :
    ∃ w', Solo (log ++ [.settled ⟨s, d, some r⟩ (.ofExcept a)]) w' [s.worker .idle] := by
  rw [← h.broker] at answer
  have through : w.reject s.channel d.tag r =
      (.ofExcept a, { w with broker := (w.broker.reject s.channel d.tag r).2 }) := by
    simp [Bench.reject, Bench.through, h.calm, Table.get?, answer]
  have settled : (w.settle (s.worker (.settling d (some r))) d (some r)).workers = [s.worker .idle] ∧
      (w.settle (s.worker (.settling d (some r))) d (some r)).faults = [] ∧
      (w.settle (s.worker (.settling d (some r))) d (some r)).shortage = none := by
    cases a <;>
      simp [Bench.settle, Seat.worker, through, Outcome.ofExcept, Bench.setPhase, onWorker, note, count,
        onConsumer, h.crew, h.calm]
  refine h.snoc (.work s.tag) (w.settle (s.worker (.settling d (some r))) d (some r)) ?_ ?_ settled.1 settled.2
  · simp [marks, effort, h.worker?, Seat.worker, settling, through]
  · simp [undergo, advance, h.worker?, Seat.worker]

/-- The worker takes a delivery that it cannot file, and rejects it. -/
theorem turn (h : Solo log w [s.worker .idle]) {a : Except BrokerError Unit}
    (hd : ((after (acts log)).deliver s.tag).map (·.1) = some d) (bad : index s.how d = .error e)
    (keeps : s.how.policy.keeps d.count.toNat = r)
    (answer : (((after (acts log)).act (.deliver s.tag)).reject s.channel d.tag r).1 = a) :
    ∃ w', Solo (log ++ [.took s d, .refused s d e, .settled ⟨s, d, some r⟩ (.ofExcept a)]) w'
      [s.worker .idle] := by
  obtain ⟨w, h⟩ := h.take hd
  obtain ⟨w, h⟩ := h.refuse bad
  have asked : acts (log ++ [.took s d] ++ [.refused s d e]) = acts log ++ [.deliver s.tag] := by
    rw [acts_append, acts_append]
    exact List.append_nil _
  rw [keeps] at h
  obtain ⟨w, h⟩ := h.settle (a := a) (by rw [asked, after_snoc]; exact answer)
  exact ⟨w, by simpa using h⟩

theorem leave (h : Solo log w [s.worker .idle]) (gone : (after (acts log)).subscription? s.tag = none) :
    ∃ w', Solo log w' [] := by
  rw [← h.broker] at gone
  have dead : w.isSubscribed s.tag = false := by
    simpa [isSubscribed, Broker.subscription?] using gone
  have staff : (w.depart (s.worker .idle)).workers = [] := by
    simp [depart, dismiss, note, Seat.worker, h.crew]
  rw [← List.append_nil log]
  refine h.snoc (.work s.tag) (w.depart (s.worker .idle)) ?_ ?_ staff h.calm
  · simp [marks, effort, h.worker?, Seat.worker, Broker.deliver, gone]
  · simp [undergo, advance, h.worker?, Seat.worker, dead]

theorem enter (h : Solo log w []) {c : ChannelId} (decoder : Decoder V) (key : KeyFn K V)
    (policy : FailurePolicy) {t : ConsumerTag} (ht : ((after (acts log)).subscribe c q 1).1 = .ok t) :
    ∃ m w', Solo (log ++ [.joined ⟨t, c, ⟨m, q, decoder, key, policy⟩⟩ 1]) w'
      [(⟨t, c, ⟨m, q, decoder, key, policy⟩⟩ : Seat K V).worker .idle] := by
  rw [← h.broker] at ht
  let x : Consumer := { channel := c, store := 0, prefetch := 1 }
  obtain ⟨v, hv⟩ : ∃ v : Bench K V, v = { w with consumers := w.consumers ++ [x] } := ⟨_, rfl⟩
  have enrolled : w.undergo (.newConsumer c 0 1) = v := by simp [hv, undergo, newConsumer, x]
  have found : v.consumers[w.consumers.length]? = some x := by simp [hv]
  have run : History log v := by simpa [History, enrolled, marks] using h.run.snoc (.newConsumer c 0 1)
  have ready : Solo log v [] := ⟨run, by rw [hv]; exact h.crew, by rw [hv]; exact h.calm⟩
  have same : v.broker = w.broker := by rw [hv]
  rw [← same] at ht
  have free : x.active.take QueueError.synchronisation = .ok none := rfl
  let f : Filing K V := ⟨w.consumers.length, q, decoder, key, policy⟩
  have started : (v.undergo (.start f.consumer q decoder key policy none)).workers =
      [(⟨t, c, f⟩ : Seat K V).worker .idle] ∧
      (v.undergo (.start f.consumer q decoder key policy none)).faults = [] ∧
      (v.undergo (.start f.consumer q decoder key policy none)).shortage = none := by
    simp [undergo, start, found, free, subscribe, through, note, unstarted, lack, ready.calm, Table.get?, x, ht,
      ready.crew, Outcome.ofExcept, setActive, onConsumer, Seat.worker, f]
  refine ⟨f.consumer, ready.snoc (.start f.consumer q decoder key policy none) _ ?_ rfl started.1 started.2⟩
  simp [marks, found, free, unstarted, lack, ready.calm, Table.get?, x, ht, f]

end Solo

/-- Where worker `n`, of consumer `m`, works on its own channel; it gives up as late as a counter can say. -/
def patient (n m : Nat) : Seat String Bytes :=
  ⟨consumerTag n, ⟨n⟩, ⟨m, "jobs", Codec.bytesDecoder, Codec.byMessageId, .deadLetterAfter (2 ^ 32 - 1)⟩⟩

/-- What keeps a letter without an id from being filed. -/
def unnamed : QueueError := .keyDerivation "message has no message_id property"

/-- The first worker has put the one letter back `k` times. -/
structure Rounds (k m : Nat) (log : List (Mark String Bytes)) : Prop where
  acts : acts log = circling k
  leases : leases log = [(patient 1 m, 1)]
  honoured : honoured (fun _ => true) log = (List.range k).map fun i => (told (circlingEntry i), some true)

theorem rounds_start : ∃ (log : List (Mark String Bytes)) (w : Bench String Bytes) (m : Nat),
    Solo log w [(patient 1 m).worker .idle] ∧ Rounds 0 m log := by
  have empty : Solo [] ({} : Bench String Bytes) [] := ⟨.here, rfl, rfl, rfl⟩
  obtain ⟨w, h⟩ := empty.act .openChannel rfl
  obtain ⟨w, h⟩ := h.act (.declare "jobs") rfl
  obtain ⟨w, h⟩ := h.act (.send ⟨1⟩ "jobs" ⟨[255], {}⟩) rfl
  obtain ⟨m, w, h⟩ := h.enter (q := "jobs") (c := ⟨1⟩) (t := consumerTag 1) Codec.bytesDecoder Codec.byMessageId
    (.deadLetterAfter (2 ^ 32 - 1)) (by decide +kernel)
  exact ⟨_, w, m, h, rfl, rfl, rfl⟩

theorem rounds_step {k m : Nat} {log : List (Mark String Bytes)} {w : Bench String Bytes}
    (h : Solo log w [(patient 1 m).worker .idle]) (rounds : Rounds k m log) (below : k + 1 < 2 ^ 32 - 1) :
    ∃ (log' : List (Mark String Bytes)) (w' : Bench String Bytes),
      Solo log' w' [(patient 1 m).worker .idle] ∧ Rounds (k + 1) m log' := by
  obtain ⟨b, delivered, -, back⟩ := circled_round k
  rw [← (circling_spec k).after, ← rounds.acts] at delivered
  have given : ((after (acts log)).deliver (consumerTag 1)).map (·.1) = some (told (circlingEntry k)) := by
    rw [delivered]
    rfl
  have answer : (((after (acts log)).act (.deliver (consumerTag 1))).reject ⟨1⟩ (k + 1) true).1 = .ok () := by
    simp [act, delivered, back]
  have keeps : (patient 1 m).how.policy.keeps (told (circlingEntry k)).count.toNat = true := by
    have small : k + 1 < 2 ^ 32 := by omega
    have count : (told (circlingEntry k)).count.toNat = k + 1 := UInt32.toNat_ofNat_of_lt' small
    simpa [patient, FailurePolicy.keeps, count] using below
  obtain ⟨w, h⟩ := h.turn given (e := unnamed) rfl keeps answer
  refine ⟨_, w, h, ?_, ?_, ?_⟩
  · rw [acts_append, rounds.acts, circling, List.append_assoc]
    rfl
  · rw [leases_append, rounds.leases]
    rfl
  · rw [honoured_append, rounds.honoured, List.range_succ, List.map_append]
    rfl

theorem rounds (k : Nat) (below : k < 2 ^ 32 - 1) : ∃ (log : List (Mark String Bytes)) (w : Bench String Bytes)
    (m : Nat), Solo log w [(patient 1 m).worker .idle] ∧ Rounds k m log := by
  induction k with
  | zero => exact rounds_start
  | succ k ih =>
    obtain ⟨log, w, m, h, rounds⟩ := ih (by omega)
    obtain ⟨log', w', next⟩ := rounds_step h rounds below
    exact ⟨log', w', m, next⟩

def lastCounted : Delivery := ⟨2 ^ 32 - 1, [255], {}, true, 4294967295⟩

def comeRound : Delivery := ⟨2 ^ 32, [255], {}, false, 0⟩

def losing : List Act := [.deliver (consumerTag 1), .connect false]

def moving : List Act := losing ++ [.connect true, .openChannel, .close ⟨1⟩]

def resuming : List Act := moving ++ [.subscribe ⟨2⟩ "jobs" 1]

def straying (m m' : Nat) : List (Mark String Bytes) := [.took (patient 1 m) lastCounted,
  .refused (patient 1 m) lastCounted unnamed, .asked (.connect false),
  .settled ⟨patient 1 m, lastCounted, some false⟩ (.error .connectionLost), .asked (.connect true),
  .asked .openChannel, .asked (.close ⟨1⟩), .joined (patient 2 m') 1, .took (patient 2 m') comeRound,
  .refused (patient 2 m') comeRound unnamed, .settled ⟨patient 2 m', comeRound, some true⟩ (.ok ())]

theorem strayed : ∃ (log : List (Mark String Bytes)) (w : Bench String Bytes) (m m' : Nat),
    Rounds (2 ^ 32 - 2) m log ∧ Solo (log ++ straying m m') w [(patient 2 m').worker .idle] := by
  obtain ⟨log, w, m, h, before⟩ := rounds (2 ^ 32 - 2) (by decide)
  have now : ∀ new, after (acts (log ++ new)) = (acts new).foldl act (circled (2 ^ 32 - 2)) := by
    intro new
    rw [acts_append, before.acts, after, List.foldl_append, ← (circling_spec _).after, after]
  have taken : ((circled (2 ^ 32 - 2)).deliver (consumerTag 1)).map (·.1) = some lastCounted := by decide +kernel
  have failed : ((losing.foldl act (circled (2 ^ 32 - 2))).reject ⟨1⟩ (2 ^ 32 - 1) false).1 =
      .error .connectionLost := by decide +kernel
  have gone : (moving.foldl act (circled (2 ^ 32 - 2))).subscription? (consumerTag 1) = none := by decide +kernel
  have joined : ((moving.foldl act (circled (2 ^ 32 - 2))).subscribe ⟨2⟩ "jobs" 1).1 = .ok (consumerTag 2) := by
    decide +kernel
  have given : ((resuming.foldl act (circled (2 ^ 32 - 2))).deliver (consumerTag 2)).map (·.1) =
      some comeRound := by decide +kernel
  have answer : (((resuming.foldl act (circled (2 ^ 32 - 2))).act (.deliver (consumerTag 2))).reject ⟨2⟩
      (2 ^ 32) true).1 = .ok () := by decide +kernel
  -- what the broker answers at each point is known by now; the workers follow
  have spent : (patient 1 m).how.policy.keeps lastCounted.count.toNat = false := rfl
  obtain ⟨w, h⟩ := h.take (d := lastCounted) (by rw [before.acts, (circling_spec _).after]; exact taken)
  obtain ⟨w, h⟩ := h.refuse (e := unnamed) rfl
  obtain ⟨w, h⟩ := h.act (.connect false) rfl
  rw [spent, List.append_assoc, List.append_assoc] at h
  obtain ⟨w, h⟩ := h.settle (a := .error .connectionLost) (by rw [now]; exact failed)
  obtain ⟨w, h⟩ := h.act (.connect true) rfl
  obtain ⟨w, h⟩ := h.act .openChannel rfl
  obtain ⟨w, h⟩ := h.act (.close ⟨1⟩) rfl
  rw [List.append_assoc, List.append_assoc, List.append_assoc, List.append_assoc] at h
  obtain ⟨w, h⟩ := h.leave (by rw [now]; exact gone)
  obtain ⟨m', w, h⟩ := h.enter (q := "jobs") (c := ⟨2⟩) (t := consumerTag 2) Codec.bytesDecoder Codec.byMessageId
    (.deadLetterAfter (2 ^ 32 - 1)) (by rw [now]; exact joined)
  rw [List.append_assoc] at h
  obtain ⟨w, h⟩ := h.turn (s := patient 2 m') (d := comeRound) (e := unnamed) (r := true) (a := .ok ())
    (by rw [now]; exact given) rfl rfl (by rw [now]; exact answer)
  rw [List.append_assoc] at h
  exact ⟨log, w, m, m', before, h⟩

/-- The reject of the last delivery that the counter can count is lost, and the next consumer is told that the
letter is new: it puts the letter back once more than the limit allows. -/
theorem requeued_beyond_the_limit : ∃ (log : List (Mark String Bytes)) (w : Bench String Bytes), History log w ∧
    (∀ l ∈ leases log, l.1.how.policy = .deadLetterAfter (2 ^ 32 - 1)) ∧
    accepted "jobs" (story log) = [⟨[255], {}⟩] ∧
    max (2 ^ 32 - 1) 1 - 1 < (rejections true "jobs" 0 log).length := by
  obtain ⟨log, w, m, m', before, h⟩ := strayed
  have leased : leases (log ++ straying m m') = [(patient 1 m, 1), (patient 2 m', 1)] := by
    rw [leases_append, before.leases]
    rfl
  have only : accepted "jobs" (story (log ++ straying m m')) = [⟨[255], {}⟩] := by
    have asked : acts (straying m m') = resuming ++ [.deliver (consumerTag 2), .reject ⟨2⟩ (2 ^ 32) true] := rfl
    have none : accepted "jobs" (outcomes (circled (2 ^ 32 - 2)) (acts (straying m m'))).flatten = [] := by
      rw [asked]
      decide +kernel
    rw [story, acts_append, before.acts, past_append, accepted_append, (circling_spec _).accepted,
      (circling_spec _).after, none]
    rfl
  have back : honoured (fun _ => true) (log ++ straying m m') =
      ((List.range (2 ^ 32 - 2)).map fun i => (told (circlingEntry i), some true)) ++
        [(comeRound, some true)] := by
    rw [honoured_append, before.honoured]
    rfl
  have all : ∀ x ∈ honoured (fun _ => true) (log ++ straying m m'),
      x.2 = some true ∧ x.1 ∈ Broker.turns "jobs" 0 (acts (log ++ straying m m')) := by
    rintro ⟨d, c⟩ hx
    obtain ⟨v, hv, rfl, rfl⟩ := call_of_honoured hx
    constructor
    · rw [back] at hx
      rcases List.mem_append.1 hx with hx | hx
      · obtain ⟨i, -, hi⟩ := List.mem_map.1 hx
        exact (congrArg Prod.snd hi).symm
      · exact congrArg Prod.snd (List.mem_singleton.1 hx)
    · obtain ⟨⟨k, hl⟩, -⟩ := h.run.register.judged_of_call hv
      have queue : v.seat.how.queue = "jobs" := by
        rw [leased] at hl
        rcases List.mem_pair.1 hl with hl | hl <;> exact congrArg (·.1.how.queue) hl
      exact turn_of_sole (queue ▸ h.run.delivered_of_call hv) (congrArg List.length only)
  refine ⟨_, w, h.run, fun l hl => ?_, only, ?_⟩
  · rw [leased] at hl
    rcases List.mem_pair.1 hl with rfl | rfl <;> rfl
  · rw [rejections, List.filter_eq_self.2 fun x hx => decide_eq_true (all x hx), List.length_map, back,
      List.length_append, List.length_map, List.length_range]
    decide

end Bench
end QueueProbe
