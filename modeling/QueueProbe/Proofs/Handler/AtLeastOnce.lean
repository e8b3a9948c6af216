import QueueProbe.Proofs.Bench.Folding
import QueueProbe.Proofs.Handler.Dispatches
import QueueProbe.Proofs.Handler.Reasons
import QueueProbe.Proofs.Handler.Requests
import QueueProbe.Proofs.Handler.Shelves

/-! At least once. What a queue accepted it has still, or dead, or else a handler of the queue has put
a message of it into its store, and this after every deed of every run. -/

namespace QueueProbe

variable {K V : Type}

/-- The delivery of queue `q` that the entry filed, by its tag. -/
def Entry.filingOf (q : String) : Entry K V → Option (Nat × Letter)
  | .filed _ f d _ _ => if f.queue = q then some (d.tag, d.letter) else none
  | .told _ | .refused .. => none

/-- The letters that were put into stores by deliveries from queue `q`. -/
def filedFrom (q : String) (log : List (Entry K V)) : Multiset Letter :=
  log.filterMap fun e => (e.filingOf q).map (·.2)

variable {log : List (Entry K V)} {q : String}

/-- As every ack comes after a put of its own, no more is acked than was put. -/
theorem acked_le_filed (h : Reasoned log) (once : ((eventsIn log).filterMap (Broker.Event.ackOf q)).Nodup) :
    Broker.ackedFrom q (eventsIn log) ≤ filedFrom q log := by
  have hsub : (eventsIn log).filterMap (Broker.Event.ackOf q) ⊆ log.filterMap (Entry.filingOf q) := by
    intro x hx
    obtain ⟨e, he, hx⟩ := List.mem_filterMap.1 hx
    cases e with
    | acked u =>
      obtain ⟨hq, hx⟩ := Option.ite_none_right_eq_some.1 hx
      obtain ⟨past, hp, t, f, d, key, m, hf, hu⟩ := h.of_mem (mem_eventsIn.1 he)
      refine List.mem_filterMap.2 ⟨_, hp.subset (List.mem_append_left _ hf), ?_⟩
      rw [← hx, ← hu.tag, ← hu.letter]
      exact if_pos (hu.queue.trans hq)
    | _ => cases hx
  have hle := Multiset.map_le_map (f := Prod.snd) (Multiset.coe_le.2 (once.subperm hsub))
  have hacked : Broker.ackedFrom q (eventsIn log) =
      (((eventsIn log).filterMap (Broker.Event.ackOf q)).map Prod.snd : List Letter) := by
    rw [List.map_filterMap, Broker.ackedFrom]
    congr 2
    funext e
    cases e with
    | acked u => by_cases hq : u.queue = q <;> simp [Broker.Event.ackOf, Broker.Event.ackedFrom, hq]
    | _ => rfl
  rw [hacked, filedFrom]
  simpa [List.map_filterMap] using hle

theorem FailurePolicy.of_not_keeps {p : FailurePolicy} {count : Nat} (h : false = p.keeps count) :
    ∃ n, p = .deadLetterAfter n ∧ n ≤ count := by
  cases p with
  | requeue => cases h
  | deadLetterAfter n => exact ⟨n, rfl, by simpa [keeps] using h⟩

namespace Bench

/-- A handler's way of filing is known by its consumer. -/
def HasHandler (w : Bench K V) (f : Filing K V) : Prop :=
  ∃ h, w.handlers[f.consumer]? = some h ∧ h.filing = f

/-- A dead letter was given up by a handler that could not file it, once it was delivered as often as
the handler's policy has it. -/
def GivenUp (log : List (Entry K V)) (w : Bench K V) (q : String) (e : Envelope) : Prop :=
  ∃ past u, past ++ [.told (.rejected u false)] <+: log ∧ u.queue = q ∧ u.envelope = e ∧
    ∃ t f d why n, .refused t f d why ∈ past ∧ Settles u f d ∧ w.HasHandler f ∧
      filedAs f.decoder f.key e.letter = none ∧ f.policy = .deadLetterAfter n ∧ n ≤ e.deliveryCount.toNat

variable [DecidableEq K] {w : Bench K V}

theorem hasHandler (h : Shelved log w.view) {e : Entry K V} {f : Filing K V} (he : e ∈ log)
    (hf : e.how? = some f) : w.HasHandler f := by
  simpa [HasHandler, view, Option.map_eq_some_iff] using h.at_consumer (h.known e he f hf)

theorem received_eq (h : Shelved log w.view) {n : Nat} (hn : n < w.handlers.length) :
    w.received n = Store.ofPuts (putsInto n log) := by
  have hl : n < w.view.filings.length := by simpa [view] using hn
  have hc : (w.view.filings.map (·.consumer))[n]? = some n := by rw [h.numbered, List.getElem?_range hl]
  have hp : w.view.places[n]? = some n := by rw [h.places, List.getElem?_range hl]
  have hs : w.view.stores[n]? = some (Store.ofPuts (putsInto n log)) := by
    rw [h.stores, List.getElem?_map, List.getElem?_range hl]
    rfl
  obtain ⟨x, hx, hcx⟩ : ∃ x, w.handlers[n]? = some x ∧ x.consumer = n := by
    simpa [view, Option.map_eq_some_iff, Handler.filing] using hc
  obtain ⟨y, hy, hsy⟩ : ∃ y, w.consumers[n]? = some y ∧ y.store = n := by
    simpa [view, Option.map_eq_some_iff] using hp
  have hs : w.stores[n]? = some (Store.ofPuts (putsInto n log)) := hs
  simp [received, storeOf, hx, hcx, hy, hsy, hs]

variable [Debug K]

theorem Run.invariant (h : Run log w) : Manned log w.view ∧ Reasoned log ∧ Shelved log w.view := by
  induction h with
  | nil => exact ⟨.empty, .nil, .empty⟩
  | snoc d run ih =>
    obtain ⟨manned, reasoned, shelved⟩ := ih
    have ht := deed_upshot manned.staffed d
    exact ⟨manned.upshot ht, reasoned.append (manned.reason ht), shelved.upshot manned ht⟩

theorem Run.accepted (h : Run log w) (q : String) : w.accepted q = Broker.sentTo q (eventsIn log) := by
  induction h with
  | nil => rfl
  | snoc d run ih =>
    rw [accepted_perform run.invariant.1.staffed d q, ih, eventsIn_append, Broker.sentTo_append]

omit [DecidableEq K] [Debug K] in
theorem entries_filed {a : Deed K V} {t : ConsumerTag} {f : Filing K V} {d : Delivery} {key : K} {m : Message V}
    (h : .filed t f d key m ∈ w.entries a) : w.entries a = [.filed t f d key m] := by
  have untold : ∀ es : List Broker.Event, .filed t f d key m ∉ es.map (Entry.told (K := K) (V := V)) := by simp
  have unheard : ∀ c call act, .filed t f d key m ∉ w.heard c call act := by
    intro c call act
    unfold heard
    split
    · exact List.not_mem_nil
    · exact untold _
  cases a with
  | send c q l => exact absurd h (unheard _ _ _)
  | close c => exact absurd h (untold _)
  | work t' =>
    simp only [entries, worked] at h ⊢
    split at h
    · cases h
    · split at h
      · exact absurd h (untold _)
      · split at h
        · next may => rw [if_pos may, List.mem_singleton.1 h]
        · cases h
      · cases h
      · exact absurd h (unheard _ _ _)
      · exact absurd h (unheard _ _ _)
  | _ => cases h

/-- The run as far as a filing, which is the last thing done then. -/
theorem Run.upTo (h : Run log w) {past : List (Entry K V)} {t : ConsumerTag} {f : Filing K V} {d : Delivery}
    {key : K} {m : Message V} (hp : past ++ [.filed t f d key m] <+: log) :
    ∃ w', Run (past ++ [.filed t f d key m]) w' ∧ Leads w' w := by
  induction h with
  | nil => simp at hp
  | @snoc log w a run ih =>
    by_cases hf : .filed t f d key m ∈ w.entries a
    · rw [entries_filed hf, List.prefix_concat_iff] at hp
      rcases hp with hp | hp
      · have here := run.snoc a
        rw [entries_filed hf, ← hp] at here
        exact ⟨_, here, .refl _⟩
      · obtain ⟨w', run', later⟩ := ih hp
        exact ⟨w', run', later.andThen a⟩
    · have hp : past ++ [.filed t f d key m] <+: log := by
        obtain ⟨rest, hrest⟩ := hp
        rcases List.append_eq_append_iff.1 hrest with ⟨new, hnew, -⟩ | ⟨new, hnew, hmore⟩
        · exact ⟨new, hnew.symm⟩
        · rcases List.eq_nil_or_concat new with rfl | ⟨new, x, rfl⟩
          · exact ⟨[], by simpa using hnew⟩
          · rw [List.concat_eq_append, ← List.append_assoc] at hnew
            obtain ⟨-, rfl⟩ := List.append_singleton_inj.1 hnew
            exact absurd (by simp [hmore]) hf
      obtain ⟨w', run', later⟩ := ih hp
      exact ⟨w', run', later.andThen a⟩

/-- What becomes of letters, by a record and the bench it ends in. -/
structure AtLeastOnce (log : List (Entry K V)) (w : Bench K V) : Prop where
  /-- Each letter as often as it was sent. -/
  covered : ∀ q, w.accepted q ≤ w.broker.readyLetters q + w.broker.unackedLetters q +
    w.broker.lostLetters q + filedFrom q log
  /-- So each is in its queue, or what it is filed as was found in the store of a handler of the queue. -/
  found : ∀ q, ∀ l ∈ w.accepted q, l ∈ w.broker.readyLetters q ∨ l ∈ w.broker.unackedLetters q ∨
    l ∈ w.broker.lostLetters q ∨ ∃ n h key m w', w.handlers[n]? = some h ∧ h.queue = q ∧
      filedAs h.decoder h.key l = some (key, m) ∧ Leads w' w ∧ (w'.received n).get? key = some m
  /-- What is put into a handler's store is what its decoder and key make of a letter from its queue. -/
  filed : ∀ past t f d key m, past ++ [.filed t f d key m] <+: log → w.HasHandler f ∧
    filedAs f.decoder f.key d.letter = some (key, m) ∧
      ∃ s, .told (.delivered s d) ∈ past ∧ s.tag = t ∧ s.queue = f.queue
  stored : ∀ n < w.handlers.length, w.received n = Store.ofPuts (putsInto n log)
  /-- A message is in the store as soon as it is filed. -/
  placed : ∀ past t f d key m, past ++ [.filed t f d key m] <+: log → ∃ w',
    Run (past ++ [.filed t f d key m]) w' ∧ Leads w' w ∧ (w'.received f.consumer).get? key = some m
  /-- It stays there until another is filed under its key. -/
  latest : ∀ past t f d key m later, log = past ++ .filed t f d key m :: later →
    (∀ x ∈ putsInto f.consumer later, x.1 ≠ key) → (w.received f.consumer).get? key = some m
  /-- So the key never goes away. -/
  kept : ∀ t f d key m, .filed t f d key m ∈ log → ∃ t' d' m', .filed t' f d' key m' ∈ log ∧
    (w.received f.consumer).get? key = some m'
  acked : ∀ past u, past ++ [.told (.acked u)] <+: log →
    ∃ t f d key m, .filed t f d key m ∈ past ∧ Settles u f d
  dead : ∀ q, ∀ e ∈ w.broker.deadOf q, GivenUp log w q e
  requeued : ∀ q, (∀ h ∈ w.handlers, h.queue = q → h.policy = .requeue) → w.broker.deadOf q = []

theorem givenUp (h : Run log w) {e : Envelope} (he : e ∈ w.broker.deadOf q) : GivenUp log w q e := by
  obtain ⟨manned, reasoned, shelved⟩ := h.invariant
  have hb : w.broker.deadOf q = Broker.lostFrom q (eventsIn log) := manned.run.deadOf q
  rw [hb] at he
  obtain ⟨x, hx, hlost⟩ := List.mem_filterMap.1 he
  obtain ⟨u, rfl, hq, rfl⟩ : ∃ u, x = .rejected u false ∧ u.queue = q ∧ u.envelope = e := by
    cases x with
    | rejected u r =>
      cases r with
      | true => cases hlost
      | false =>
        obtain ⟨hq, hu⟩ := Option.ite_none_right_eq_some.1 hlost
        exact ⟨u, rfl, hq, Option.some.inj hu⟩
    | _ => cases hlost
  obtain ⟨past, hp, t, f, d, why, hr, hu, hk⟩ := reasoned.of_mem (mem_eventsIn.1 hx)
  obtain ⟨n, hpol, hn⟩ := FailurePolicy.of_not_keeps hk
  have hmem : .refused t f d why ∈ log := hp.subset (List.mem_append_left _ hr)
  obtain ⟨past', -, hi, -⟩ := reasoned.of_mem hmem
  refine ⟨past, u, hp, hq, rfl, t, f, d, why, n, hr, hu, hasHandler shelved hmem rfl, ?_, hpol, ?_⟩
  · rw [← show d.letter = u.envelope.letter from hu.letter]
    exact index_error.1 ⟨why, hi⟩
  · rwa [← hu.count]

theorem Run.get?_filed (h : Run log w) {past later : List (Entry K V)} {t : ConsumerTag} {f : Filing K V}
    {d : Delivery} {key : K} {m : Message V} (split : log = past ++ .filed t f d key m :: later)
    (last : ∀ x ∈ putsInto f.consumer later, x.1 ≠ key) : (w.received f.consumer).get? key = some m := by
  have shelved := h.invariant.2.2
  have hmem : .filed t f d key m ∈ log := split ▸ List.mem_append_right _ List.mem_cons_self
  have hlt : f.consumer < w.handlers.length := by
    simpa [view] using shelved.consumer_lt (shelved.known _ hmem f rfl)
  have hputs : putsInto f.consumer log = putsInto f.consumer past ++ (key, m) :: putsInto f.consumer later := by
    rw [split, List.append_cons, putsInto_append, putsInto_append, putsInto_filed, if_pos rfl,
      List.append_assoc]
    rfl
  rw [received_eq shelved hlt, hputs]
  exact Store.get?_ofPuts_last last _ m

theorem Run.covered (h : Run log w) (q : String) : w.accepted q ≤ w.broker.readyLetters q +
    w.broker.unackedLetters q + w.broker.lostLetters q + filedFrom q log := by
  obtain ⟨manned, reasoned, -⟩ := h.invariant
  rw [h.accepted q, manned.run.held q, Broker.held]
  exact add_le_add_right (acked_le_filed reasoned (manned.run.acks_nodup q)) _

theorem Run.found (h : Run log w) {l : Letter} (hl : l ∈ filedFrom q log) :
    ∃ n g key m w', w.handlers[n]? = some g ∧ g.queue = q ∧ filedAs g.decoder g.key l = some (key, m) ∧
      Leads w' w ∧ (w'.received n).get? key = some m := by
  obtain ⟨-, reasoned, shelved⟩ := h.invariant
  obtain ⟨e, he, heq⟩ := List.mem_filterMap.1 (Multiset.mem_coe.1 hl)
  cases e with
  | filed t f d key m =>
    obtain ⟨x, hx, rfl⟩ := Option.map_eq_some_iff.1 heq
    obtain ⟨hq, hx⟩ := Option.ite_none_right_eq_some.1 hx
    obtain rfl := Option.some.inj hx
    obtain ⟨g, hg, rfl⟩ := hasHandler shelved he rfl
    obtain ⟨past, hp, hi, -⟩ := reasoned.of_mem he
    obtain ⟨w', run', later⟩ := h.upTo hp
    exact ⟨_, g, key, m, w', hg, hq, index_ok.1 hi, later, run'.get?_filed rfl nofun⟩
  | _ => cases heq

/-- After every run, whatever was asked of handlers and channels in it and wherever deliveries stood
at the time, each letter that a queue accepted is ready, unacked or dead in it, or was put into the
store of a handler of the queue. -/
theorem at_least_once (h : Run log w) :
    AtLeastOnce log w ∧ ∀ r : Request K V, ∃ more, Run (log ++ more) (w.request r) := by
  obtain ⟨manned, reasoned, shelved⟩ := h.invariant
  refine ⟨⟨h.covered, fun q l hl => ?_, fun past t f d key m hp => ?_, fun n hn => received_eq shelved hn,
    fun past t f d key m hp => ?_, fun past t f d key m later heq last => h.get?_filed heq last,
    fun t f d key m hm => ?_, fun past u hp => reasoned past _ hp, fun q e he => givenUp h he, fun q hq => ?_⟩,
    fun r => h.leads (.request w r)⟩
  · have hl := Multiset.mem_of_le (h.covered q) hl
    simp only [Multiset.mem_add] at hl
    rcases hl with ((hl | hl) | hl) | hl
    · exact Or.inl hl
    · exact Or.inr (Or.inl hl)
    · exact Or.inr (Or.inr (Or.inl hl))
    · exact Or.inr (Or.inr (Or.inr (h.found hl)))
  · obtain ⟨hi, hs⟩ := reasoned past _ hp
    have hmem : .filed t f d key m ∈ log := hp.subset (List.mem_append_right _ (List.mem_singleton_self _))
    exact ⟨hasHandler shelved hmem rfl, index_ok.1 hi, hs⟩
  · obtain ⟨w', run', later⟩ := h.upTo hp
    exact ⟨w', run', later, run'.get?_filed rfl nofun⟩
  · have known := shelved.known _ hm f rfl
    obtain ⟨m', hm', there⟩ := Store.get?_ofPuts_of_mem (mem_putsInto.2 ⟨t, f, d, hm, rfl⟩)
    obtain ⟨t', f', d', filed, same⟩ := mem_putsInto.1 hm'
    have own := (shelved.at_consumer (shelved.known _ filed f' rfl)).symm
    rw [same, shelved.at_consumer known] at own
    obtain rfl := Option.some.inj own
    exact ⟨t', d', m', filed, by rwa [received_eq shelved (by simpa [view] using shelved.consumer_lt known)]⟩
  · refine List.eq_nil_iff_forall_not_mem.2 fun e he => ?_
    obtain ⟨past, u, hp, hu, -, t, f, d, why, n, hr, hs, ⟨x, hx, rfl⟩, -, hpol, -⟩ := givenUp h he
    have hreq := hq x (List.mem_of_getElem? hx) (hs.queue.trans hu)
    rw [show x.filing.policy = x.policy from rfl, hreq] at hpol
    cases hpol

def jobsPlan (c : ChannelId) (policy : FailurePolicy) : HandlerPlan String Bytes where
  channel := some c
  queue := some "jobs"
  key := some Codec.byMessageId
  decoder := some Codec.bytesDecoder
  encoder := some Codec.bytesEncoder
  policy := policy

/-- A channel is closed between a put and its ack, and for the next handler the connection fails there;
the second letter has no message id to be its key. -/
theorem at_least_once_interrupted : ∃ (log : List (Entry String Bytes)) (w : Bench String Bytes),
    AtLeastOnce log w ∧
    w.accepted "jobs" = {⟨[1], { messageId := some "a" }⟩, ⟨[2], {}⟩} ∧
    w.broker.readyLetters "jobs" = 0 ∧
    w.broker.unackedLetters "jobs" = {⟨[1], { messageId := some "a" }⟩} ∧
    w.broker.lostLetters "jobs" = {⟨[2], {}⟩} ∧
    filedFrom "jobs" log = {⟨[1], { messageId := some "a" }⟩, ⟨[1], { messageId := some "a" }⟩} ∧
    (w.received 0).get? "a" = some ⟨[1], { messageId := some "a" }⟩ ∧
    (w.received 1).messages = [("a", ⟨[1], { messageId := some "a" }⟩)] := by
  have run := Run.nil (K := String) (V := Bytes) |>.snoc .openChannel |>.snoc .openChannel
    |>.snoc (.declare "jobs")
    |>.snoc (.send ⟨2⟩ "jobs" ⟨[1], { messageId := some "a" }⟩) |>.snoc (.send ⟨2⟩ "jobs" ⟨[2], {}⟩)
    |>.snoc (.build (jobsPlan ⟨1⟩ .requeue)) |>.snoc (.subscribe 0 none)
    |>.snoc (.work (Broker.consumerTag 1)) |>.snoc (.work (Broker.consumerTag 1)) |>.snoc (.close ⟨1⟩)
    |>.snoc (.build (jobsPlan ⟨2⟩ (.deadLetterAfter 1))) |>.snoc (.subscribe 1 none)
    |>.snoc (.work (Broker.consumerTag 2)) |>.snoc (.work (Broker.consumerTag 2)) |>.snoc (.connect false)
    |>.snoc (.work (Broker.consumerTag 2)) |>.snoc (.connect true) |>.snoc (.work (Broker.consumerTag 2))
    |>.snoc (.work (Broker.consumerTag 2)) |>.snoc (.work (Broker.consumerTag 2))
  refine ⟨_, _, (at_least_once run).1, ?_, ?_, ?_, ?_, ?_, ?_, ?_⟩ <;> decide +kernel

end Bench
end QueueProbe
