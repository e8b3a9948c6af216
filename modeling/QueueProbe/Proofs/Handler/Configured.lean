import QueueProbe.Proofs.Handler.Lasting
import QueueProbe.Proofs.Handler.Pipeline
import QueueProbe.Proofs.Settings.Validity

/-! What comes of settings. A plan that lacks nothing is checked again when it is built, and again by the
consumer and the publisher that are made for it; valid settings pass all of these as they are, and the
handler keeps to them as long as it is there. -/

namespace QueueProbe

variable {K V : Type}

/-- The plan lacks nothing: it has channel `c`, queue `q`, and all that makes messages of bodies. -/
structure HandlerPlan.Equipped (p : HandlerPlan K V) (c : ChannelId) (q : String) : Prop where
  channel : p.channel = some c
  queue : p.queue = some q
  named : Text.allBlank q = false
  key : ∃ key, p.key = some key
  decoder : ∃ decoder, p.decoder = some decoder
  encoder : ∃ encoder, p.encoder = some encoder

namespace Bench

def crewOf (w : Bench K V) (p : Publisher V) (q : String) (batch : List (Message V)) (workers : Nat)
    (schedule : List Nat) : Crew × Bench K V :=
  runCrew p q batch (w.crewSize workers) schedule { w with journal := w.opening q batch.length workers }

end Bench

/-- Handler `h`, which has number `n` on this bench, does as the settings say, and for the rest as the plan
does. -/
structure Handler.Heeds [DecidableEq K] [Debug K] (h : Handler K V) (s : Settings) (p : HandlerPlan K V)
    (w : Bench K V) (n : Nat) : Prop where
  here : w.handlers[n]? = some h
  channel : p.channel = some h.channel
  queue : s.queue.name.or p.queue = some h.queue
  key : p.key = some h.key
  decoder : p.decoder = some h.decoder
  encoder : p.encoder = some h.encoder
  /-- Who consumes has a subscription with just that prefetch, and a worker for it. -/
  subscribes : ∀ {credits a w'}, w.consume n credits = (.ok a, w') →
    ⟨a.tag, h.queue, h.channel, s.queue.prefetch, 0⟩ ∈ w'.broker.subscriptions ∧
    ⟨a.tag, h.channel, .filing h.filing, credits, .idle⟩ ∈ w'.workers
  /-- A crew has as many as the settings say, or one for each message if there are fewer, as far as these
  can be started. -/
  publishes : h.visibleState ≠ .closed → ∀ {batch} schedule, batch.isEmpty = false →
    let workers := min s.queue.publishParallelism batch.length
    let crew := w.crewOf h.publisher h.queue batch workers schedule
    let answer := Bench.publishAnswer h.queue batch.length workers (w.short workers) crew.1
    crew.1.members.length ≤ workers ∧ (w.short workers = none → crew.1.members.length = workers) ∧
      w.handlerPublish n batch schedule = (answer.1, { crew.2 with journal := crew.2.journal ++ answer.2 })
  policy : ∀ k, h.policy = .deadLetterAfter k ↔ s.queue.deadLetterAfter = some k
  counts : ∀ k, s.queue.deadLetterAfter = some k → 1 ≤ k
  /-- What cannot be filed is given up just if the settings set a limit and it was delivered that often. -/
  givesUp : ∀ count, h.policy.keeps count = false ↔ ∃ k, s.queue.deadLetterAfter = some k ∧ k ≤ count
  patience : h.retry.maxDuration = .millis s.retry.maxDurationMs
  backoff : ∃ k, s.retry.backoffKind = .ok k ∧ h.retry.backoff = s.retry.schedule k

def Settings.handler (s : Settings) (c : ChannelId) (q : String) (key : KeyFn K V) (decoder : Decoder V)
    (encoder : Encoder V) (consumer : Nat) : Handler K V where
  queue := s.queue.name.getD q
  channel := c
  consumer := consumer
  decoder := decoder
  key := key
  encoder := encoder
  policy := s.queue.failurePolicy
  parallelism := s.queue.publishParallelism
  retry := s.retry.toPolicy

namespace HandlerPlan

variable {p : HandlerPlan K V} {c : ChannelId} {q : String} {s : Settings}

theorem complete_sensible (ready : p.Equipped c q) (sensible : s.Sensible) (consumer : Nat) :
    ∃ key decoder encoder, p.key = some key ∧ p.decoder = some decoder ∧ p.encoder = some encoder ∧
      (p.withSettings s).complete consumer = .ok (s.handler c q key decoder encoder consumer) := by
  obtain ⟨key, hkey⟩ := ready.key
  obtain ⟨decoder, hdecoder⟩ := ready.decoder
  obtain ⟨encoder, hencoder⟩ := ready.encoder
  have named : (s.queue.name.or p.queue).filter (fun q => !Text.allBlank q) = some (s.queue.name.getD q) := by
    rw [ready.queue]
    cases hq : s.queue.name with
    | none => simp [ready.named]
    | some q' => simp [sensible.named q' hq]
  refine ⟨key, decoder, encoder, hkey, hdecoder, hencoder, ?_⟩
  simp only [complete, withSettings, need, named, ready.channel, hkey, hdecoder, hencoder, sensible.bounded,
    sensible.manned]
  rfl

theorem complete_rejects (ready : p.Equipped c q) (consumer : Nat)
    (bad : (∃ name, s.queue.name = some name ∧ Text.allBlank name = true) ∨ s.queue.prefetch = 0 ∨
      s.queue.publishParallelism = 0) :
    ∃ text, (p.withSettings s).complete consumer = .error (.configuration text) := by
  obtain ⟨key, hkey⟩ := ready.key
  obtain ⟨decoder, hdecoder⟩ := ready.decoder
  obtain ⟨encoder, hencoder⟩ := ready.encoder
  simp only [complete, withSettings, need, ready.channel, hkey, hdecoder, hencoder, bind, Except.bind]
  cases hq : (s.queue.name.or p.queue).filter (fun q => !Text.allBlank q) with
  | none => exact ⟨_, rfl⟩
  | some q' =>
    rcases bad with ⟨name, named, blank⟩ | unbounded | unmanned
    · rw [named, Option.some_or, Option.filter_some, blank] at hq
      cases hq
    · simp only [unbounded]
      exact ⟨_, rfl⟩
    · by_cases unbounded : s.queue.prefetch = 0
      · simp only [unbounded]
        exact ⟨_, rfl⟩
      · simp only [unbounded, unmanned]
        exact ⟨_, rfl⟩

end HandlerPlan

namespace Bench

variable {w w' : Bench K V} {n : Nat} {h : Handler K V} {x : Consumer}

theorem subscribe_gives {c : ChannelId} {q : String} {prefetch : Nat} {duty : Duty K V} {credits : Option Nat}
    {t : ConsumerTag} (hr : w.subscribe c q prefetch duty credits = (.ok t, w')) :
    ⟨t, q, c, prefetch, 0⟩ ∈ w'.broker.subscriptions ∧ ⟨t, c, duty, credits, .idle⟩ ∈ w'.workers := by
  unfold subscribe at hr
  cases hf : w.faults.get? (c, .subscribe) with
  | some f => cases f <;> simp only [through, hf] at hr <;> cases hr
  | none =>
    rcases w.broker.subscribe_cases c q prefetch w.unstarted with ⟨-, -, -, hs⟩ | ⟨e, k, hs⟩
    · rw [through_ok hf hs] at hr
      cases hr
      exact ⟨by simp [Broker.joined], by simp⟩
    · rw [through_ok hf hs] at hr
      cases hr

theorem consume_gives (hh : w.handlers[n]? = some h) (hx : w.consumers[h.consumer]? = some x)
    {credits : Option Nat} {a : Handle} (hr : w.consume n credits = (.ok a, w')) :
    ⟨a.tag, h.queue, x.channel, x.prefetch, 0⟩ ∈ w'.broker.subscriptions ∧
      ⟨a.tag, x.channel, .filing h.filing, credits, .idle⟩ ∈ w'.workers := by
  simp only [consume, hh] at hr
  cases ho : h.takeOpen "consume" with
  | error e => rw [ho] at hr; cases hr
  | ok _ =>
    simp only [ho, start, hx] at hr
    rcases hl : x.active.take QueueError.synchronisation with e | _ | current <;> simp only [hl] at hr
    · cases hr
    · split at hr <;> cases hr
      next t v hs =>
        have gives := subscribe_gives hs
        exact gives
    · cases hr

theorem handlerPublish_open (hh : w.handlers[n]? = some h) (running : h.visibleState ≠ .closed)
    (batch : List (Message V)) (schedule : List Nat) :
    w.handlerPublish n batch schedule = w.publish h.publisher h.queue batch schedule := by
  unfold Handler.visibleState at running
  split at running
  · exact absurd rfl running
  · next hp => simp only [handlerPublish, hh, Handler.takeOpen_intact (Bool.eq_false_of_not_eq_true hp) running]

end Bench

section Made

variable [DecidableEq K] [Debug K] {w w' : Bench K V} {p : HandlerPlan K V} {c : ChannelId} {q : String}
  {s : Settings} {n m : Nat}

/-- Handler `n` is the one that settings and plan make with consumer `m`, but for what its lock guards. -/
structure Made (s : Settings) (p : HandlerPlan K V) (c : ChannelId) (q : String) (m : Nat) (w : Bench K V)
    (n : Nat) : Prop where
  handler : ∃ key decoder encoder lock, p.key = some key ∧ p.decoder = some decoder ∧ p.encoder = some encoder ∧
    w.handlers[n]? = some { s.handler c q key decoder encoder m with state := lock }
  consumer : ∃ x, w.consumers[m]? = some x ∧ x.channel = c ∧ x.prefetch = s.queue.prefetch

omit [DecidableEq K] [Debug K] in
theorem Made.lasts (made : Made s p c q m w n) (later : Lasts w w') : Made s p c q m w' n := by
  obtain ⟨key, decoder, encoder, lock, hkey, hdecoder, hencoder, hh⟩ := made.handler
  obtain ⟨x, hx, channel, prefetch⟩ := made.consumer
  obtain ⟨h', hh', aged⟩ := later.handler hh
  obtain ⟨x', hx', worn⟩ := later.consumer hx
  have same : h' = { s.handler c q key decoder encoder m with state := h'.state } :=
    (congrArg (fun g : Handler K V => { g with state := h'.state }) aged.frame :)
  have channel' : x'.channel = x.channel := (congrArg Consumer.channel worn.frame :)
  have prefetch' : x'.prefetch = x.prefetch := (congrArg Consumer.prefetch worn.frame :)
  exact ⟨⟨key, decoder, encoder, h'.state, hkey, hdecoder, hencoder, same ▸ hh'⟩, x', hx',
    channel'.trans channel, prefetch'.trans prefetch⟩

theorem Made.heeds (made : Made s p c q m w n) (ready : p.Equipped c q) (sensible : s.Sensible) :
    ∃ h : Handler K V, h.Heeds s p w n := by
  obtain ⟨key, decoder, encoder, lock, hkey, hdecoder, hencoder, hh⟩ := made.handler
  obtain ⟨x, hx, channel, prefetch⟩ := made.consumer
  obtain ⟨k, backoff⟩ := sensible.backoff
  have policy := RetrySettings.toPolicy_eq backoff
  refine ⟨_, {
    here := hh
    channel := ready.channel
    queue := ?_
    key := hkey
    decoder := hdecoder
    encoder := hencoder
    subscribes := fun hr => ?_
    publishes := fun running batch schedule more =>
      ⟨(Bench.runCrew_size ..).trans_le (w.crewSize_le _), fun whole =>
        (Bench.runCrew_size ..).trans (Bench.crewSize_eq whole), ?_⟩
    policy := fun k => s.queue.failurePolicy_eq k
    counts := fun k hk => Nat.pos_of_ne_zero fun zero => sensible.delivered (zero ▸ hk)
    givesUp := fun count => s.queue.keeps_eq_false count
    patience := ?_
    backoff := ⟨k, backoff, ?_⟩ }⟩
  · rw [ready.queue]
    cases hq : s.queue.name <;> simp [Settings.handler, hq]
  · have gives := Bench.consume_gives hh hx hr
    rwa [channel, prefetch] at gives
  · have crew : max s.queue.publishParallelism 1 = s.queue.publishParallelism :=
      Nat.max_eq_left (Nat.pos_of_ne_zero sensible.manned)
    rw [Bench.handlerPublish_open hh running, Bench.publish, Bench.publishWith_eq more]
    simp only [Handler.publisher, Publisher.withParallelism, Settings.handler, crew]
    rfl
  · rw [Settings.handler, policy]
  · rw [Settings.handler, policy]

omit [DecidableEq K] [Debug K] in
theorem Bench.build_made (w : Bench K V) (ready : p.Equipped c q) (sensible : s.Sensible) : ∃ w',
    w.build (p.withSettings s) = (.ok w.handlers.length, w') ∧
      Made s p c q w.consumers.length w' w.handlers.length := by
  obtain ⟨key, decoder, encoder, hkey, hdecoder, hencoder, complete⟩ :=
    HandlerPlan.complete_sensible ready sensible w.consumers.length
  obtain ⟨journal, built⟩ := w.build_complete complete
  refine ⟨_, built, ⟨key, decoder, encoder, { value := .created }, hkey, hdecoder, hencoder, ?_⟩, ?_⟩
  · exact List.getElem?_concat_length
  · have prefetch : (p.withSettings s).prefetch ≠ 0 := sensible.bounded
    refine ⟨⟨c, w.newStore.1, s.queue.prefetch, { value := none }, {}⟩, ?_, rfl, rfl⟩
    simp only [newConsumer, if_neg prefetch]
    exact List.getElem?_concat_length

end Made

variable [DecidableEq K] [Debug K]

/-- If settings are valid, and all that are read from a text are, then a plan that lacks nothing is built with them
as they are: the handler subscribes with their prefetch and publishes with a crew of their size, on their
queue if they name one, gives up and retries as they say, and does so whatever happens after. Settings with
a blank queue, or that allow no delivery or no worker, are found invalid, are read from no text, and nothing
is built with them. -/
theorem settings_heeded (w : Bench K V) {p : HandlerPlan K V} {c : ChannelId} {q : String}
    (ready : p.Equipped c q) (s : Settings) :
    (s.validate = .ok () ∨ (∃ text, Settings.ofToml text = .ok s) → ∃ w',
      w.build (p.withSettings s) = (.ok w.handlers.length, w') ∧
      (∃ h : Handler K V, h.Heeds s p w' w.handlers.length) ∧
      ∀ {log}, Bench.Run log w → ∀ {w''}, Bench.Meanwhile w' w'' →
        ∃ h : Handler K V, h.Heeds s p w'' w.handlers.length) ∧
    ((∃ name, s.queue.name = some name ∧ Text.allBlank name = true) ∨ s.queue.prefetch = 0 ∨
        s.queue.publishParallelism = 0 →
      (∃ text, s.validate = .error (.invalid text)) ∧ (∀ text, Settings.ofToml text ≠ .ok s) ∧
      ∃ text, w.build (p.withSettings s) = (.error (.configuration text), w)) := by
  constructor
  · intro valid
    have sensible : s.Sensible := by
      rcases valid with valid | ⟨text, read⟩
      · exact Settings.validate_ok.1 valid
      · exact Settings.validate_ok.1 (Settings.validate_ofToml read)
    obtain ⟨w', built, made⟩ := w.build_made ready sensible
    refine ⟨w', built, made.heeds ready sensible, fun {log} run {w''} m => ?_⟩
    have run' := run.snoc (.build (p.withSettings s))
    rw [Bench.perform, built] at run'
    exact (made.lasts (run'.lasts m)).heeds ready sensible
  · intro bad
    have senseless : ¬ s.Sensible := by
      intro sensible
      rcases bad with ⟨name, named, blank⟩ | unbounded | unmanned
      · exact absurd ((sensible.named name named).symm.trans blank) (by decide)
      · exact sensible.bounded unbounded
      · exact sensible.manned unmanned
    obtain ⟨text, rejected⟩ := HandlerPlan.complete_rejects ready w.consumers.length bad
    refine ⟨Settings.validate_invalid senseless, fun text read => ?_, text, ?_⟩
    · exact senseless (Settings.validate_ok.1 (Settings.validate_ofToml read))
    · simp only [Bench.build, rejected]

/-- Settings of a text, built with and consumed with; and ones with which nobody would publish. -/
theorem settings_heeded_read : ∃ (s : Settings) (w w' : Bench String Bytes) (h : Handler String Bytes),
    Settings.ofToml "[queue]\nprefetch = 3\ndead_letter_after = 2\n[retry]\nbackoff = 'EXPONENTIAL'" = .ok s ∧
    w.build ((Bench.jobsPlan ⟨1⟩ .requeue).withSettings s) = (.ok 0, w') ∧
    h.Heeds s (Bench.jobsPlan ⟨1⟩ .requeue) (w'.consume 0 none).2 0 ∧
    (w'.consume 0 none).2.broker.subscriptions = [⟨Broker.consumerTag 1, "jobs", ⟨1⟩, 3, 0⟩] ∧
    ∃ text, w.build ((Bench.jobsPlan ⟨1⟩ .requeue).withSettings { queue := { publishParallelism := 0 } }) =
      (.error (.configuration text), w) := by
  have run := Bench.Run.nil (K := String) (V := Bytes) |>.snoc .openChannel |>.snoc (.declare "jobs")
  have ready : (Bench.jobsPlan ⟨1⟩ .requeue).Equipped ⟨1⟩ "jobs" :=
    ⟨rfl, rfl, by decide, ⟨_, rfl⟩, ⟨_, rfl⟩, ⟨_, rfl⟩⟩
  let s : Settings := { queue := { prefetch := 3, deadLetterAfter := some 2 }, retry := { backoff := "EXPONENTIAL" } }
  have read : Settings.ofToml "[queue]\nprefetch = 3\ndead_letter_after = 2\n[retry]\nbackoff = 'EXPONENTIAL'" =
    .ok s := by
    decide +kernel
  obtain ⟨w', built, -, later⟩ := (settings_heeded _ ready s).1 (.inr ⟨_, read⟩)
  obtain ⟨h, heeds⟩ := later run (.asked (.consume 0 none) .nothing)
  obtain ⟨-, -, rejected⟩ := (settings_heeded _ ready { queue := { publishParallelism := 0 } }).2 (.inr (.inr rfl))
  obtain rfl := congrArg Prod.snd built
  refine ⟨s, _, _, h, read, built, heeds, ?_, rejected⟩
  decide +kernel

end QueueProbe
