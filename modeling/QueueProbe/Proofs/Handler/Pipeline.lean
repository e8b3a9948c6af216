import QueueProbe.Bench.Awaiting
import QueueProbe.Proofs.Consumer.Drain
import QueueProbe.Proofs.Handler.Lifecycle
import QueueProbe.Proofs.Polling.Attempts
import QueueProbe.Proofs.Publishing.Amid

/-! From values to the store. A handler that publishes values into its queue and consumes that queue
has each of them in its store once dispatch rests: whatever way the publisher's crew takes, and
whether its worker starts before, goes on meanwhile, or starts afterwards. -/

namespace QueueProbe

variable {K V : Type} [DecidableEq K] {s : Site K V} {h : Handler K V} {ls : List Letter} {w : Bench K V}

/-- A bench with one handler, whose consumer has not started on the letters sent so far. -/
structure Stocking (s : Site K V) (h : Handler K V) (ls : List Letter) (w : Bench K V) : Prop where
  handlers : w.handlers = [h]
  good : ∀ l ∈ ls, s.good l = true
  waits : ∃ c, Awaiting s w c ∧ c.Fair s.good 1 ∧ c.sent = ls

/-- A bench with one handler, whose consumer is on its way through the letters sent so far. No letter
is bad, so it does not matter how often a bad one would be delivered. -/
structure Flowing (s : Site K V) (h : Handler K V) (ls : List Letter) (w : Bench K V) : Prop where
  handlers : w.handlers = [h]
  good : ∀ l ∈ ls, s.good l = true
  course : ∃ togo, OnCourse s 1 w ls togo

theorem Stocking.ample (hw : Stocking s h ls w) : w.shortage = none := by
  obtain ⟨c, ha, -⟩ := hw.waits
  exact ha.staff.ample

theorem Flowing.ample (hw : Flowing s h ls w) : w.shortage = none := by
  obtain ⟨togo, hc⟩ := hw.course
  obtain ⟨c, n, hs⟩ := hc.serving
  obtain ⟨phase, stats, kept, staff⟩ := hs.staffed
  exact staff.ample

theorem Flowing.policy (hw : Flowing s h ls w) : ∀ l ∈ ls, s.good l = false → s.GivesUpAt 1 := by
  intro l hl bad
  rw [hw.good l hl] at bad
  cases bad

omit [DecidableEq K] in
theorem good_append {l : Letter} (hls : ∀ l ∈ ls, s.good l = true) (hl : s.good l = true) :
    ∀ m ∈ ls ++ [l], s.good m = true := by
  intro m hm
  rcases List.mem_append.1 hm with hm | hm
  · exact hls m hm
  · rw [List.mem_singleton.1 hm]
    exact hl

variable [Debug K]

theorem stocking_accepting :
    Bench.Accepting (Stocking s h) (fun l => s.good l = true) s.sender s.filing.queue where
  journal ls w journal hw := by
    obtain ⟨c, ha, hf, hs⟩ := hw.waits
    exact ⟨hw.handlers, hw.good, c, ha.aside w.handlers journal, hf, hs⟩
  send ls w l hw hl := by
    obtain ⟨c, ha, hf, rfl⟩ := hw.waits
    refine ⟨by rw [ha.stock.send_eq ha.staff l], ?_, good_append hw.good hl, c.post l, ha.post l,
      hf.post Nat.one_pos l, rfl⟩
    rw [(Bench.alike_send w _ _ _ _).handlers, hw.handlers]
  work ls w hw := by
    obtain ⟨c, ha, -⟩ := hw.waits
    have hstep : w.step = none := by simp [Bench.step, ha.staff.alone]
    rw [hstep]
    exact hw

theorem Serving.handlers_step {life n : Nat} {c : Course} (hs : Serving s life w c n)
    (own : h.filing = s.filing) (hh : w.handlers = [h]) : (w.step.getD w).handlers = [h] := by
  obtain ⟨phase, stats, kept, staff⟩ := hs.staffed
  have clerks : w.view.Staffed := by
    intro k hk
    simp only [Bench.view, staff.alone, hh] at hk ⊢
    simp_all [Site.worker]
  rw [staff.step_eq, (Bench.alike_advance clerks s.tag).handlers, hh]

theorem flowing_accepting (own : h.filing = s.filing) :
    Bench.Accepting (Flowing s h) (fun l => s.good l = true) s.sender s.filing.queue where
  journal ls w journal hw := by
    obtain ⟨togo, c, n, hs, hcourse⟩ := hw.course
    exact ⟨hw.handlers, hw.good, togo, c, n, hs.aside w.handlers journal, hcourse⟩
  send ls w l hw hl := by
    obtain ⟨togo, hc⟩ := hw.course
    obtain ⟨c, n, hs⟩ := hc.serving
    refine ⟨(hs.post l).1, ?_, good_append hw.good hl, hc.post Nat.one_pos l⟩
    rw [(Bench.alike_send w _ _ _ _).handlers, hw.handlers]
  work ls w hw := by
    obtain ⟨togo, hc⟩ := hw.course
    obtain ⟨c, n, hs⟩ := hc.serving
    exact ⟨hs.handlers_step own hw.handlers, hw.good, hc.step hw.policy⟩

/-- How its only handler leaves a bench with queue `q` once `values` came through: all are filed by
their keys, and polling for a number of messages succeeds just if it is theirs. -/
structure Gathered [Debug V] (w : Bench K V) (q : String) (key : V → K) (values : List V) : Prop where
  still : w.step = none
  filed : (w.received 0).messages.Perm (values.map fun v => (key v, ⟨v, {}⟩))
  stats : w.handlerStats 0 = {
    delivered := values.length
    stored := values.length
    rejected := 0
    deadLettered := 0
    transportFailures := 0 }
  ready : w.broker.readyOf q = []
  unacked : w.broker.unackedOf q = []
  dead : w.broker.deadOf q = []
  awaited : ∃ h, w.handlers = [h] ∧ ∀ n clock,
    (h.eventuallyReceived (fun _ => w) (.hasLength Store.size n) clock).result.toOption =
      if n = values.length then some (w.received 0) else none

namespace Flowing

omit [Debug K] in
theorem first (hw : Flowing s h ls w) (own : h.filing = s.filing) : h.consumer = 0 := by
  obtain ⟨togo, hc⟩ := hw.course
  obtain ⟨c, n, hs⟩ := hc.serving
  obtain ⟨phase, stats, kept, staff⟩ := hs.staffed
  have hfirst := staff.first
  rwa [← own] at hfirst

theorem atRest (hw : Flowing s h ls w) {fuel : Nat} (enough : 3 * ls.length ≤ fuel) :
    AtRest (w.run fuel) s.filing.queue (filedAs s.filing.decoder s.filing.key) 1 ls s.base ls.length 0 := by
  have hgood : ls.countP s.good = ls.length := List.countP_eq_length.2 hw.good
  have hbad : ls.countP (fun l => !s.good l) = 0 :=
    List.countP_eq_zero.2 fun l hl => by simp [hw.good l hl]
  obtain ⟨togo, hc⟩ := hw.course
  have hle := hc.togo_le
  rw [hgood, hbad] at hle
  obtain ⟨still, c, hs, hf, rfl, empty⟩ := hc.rests hw.policy (hle.trans enough)
  have hrest := hs.atRest hf empty still
  rwa [hgood, hbad] at hrest

theorem gathered [Debug V] (hw : Flowing s h ls w) (own : h.filing = s.filing) {key : V → K}
    {values : List V} (filed : (ls.filterMap (filedAs s.filing.decoder s.filing.key)).Perm
      (values.map fun v => (key v, ⟨v, {}⟩)))
    (distinct : (values.map key).Nodup) {fuel : Nat} (enough : 3 * values.length ≤ fuel) :
    Gathered (w.run fuel) s.filing.queue key values := by
  have hlen : ls.length = values.length := by
    have hputs := List.filterMap_length_eq_length.2 hw.good
    rw [← hputs]
    exact filed.length_eq.trans (List.length_map _)
  have hrest := hw.atRest (hlen ▸ enough)
  rw [hlen] at hrest
  have first := hw.first own
  have handlers := ((flowing_accepting own).run hw fuel).handlers
  have received : (w.run fuel).received 0 = (w.run fuel).storeOf 0 := by
    simp [Bench.received, handlers, first]
  have messages : ((w.run fuel).storeOf 0).messages.Perm (values.map fun v => (key v, ⟨v, {}⟩)) := by
    rw [hrest.store, Store.messages_ofPuts]
    · exact filed
    · refine (filed.map Prod.fst).nodup_iff.2 ?_
      rw [List.map_map]
      exact distinct
  exact {
    still := hrest.still
    filed := received ▸ messages
    stats := by simpa [Bench.handlerStats, handlers, first] using hrest.stats
    ready := hrest.ready
    unacked := hrest.unacked
    dead := by
      refine List.map_eq_nil_iff.1 (hrest.lost.trans (List.filter_eq_nil_iff.2 fun l hl => ?_))
      have hl := hw.good l hl
      rw [Site.good, Option.isSome_iff_ne_none] at hl
      simpa using hl
    awaited := by
      refine ⟨h, handlers, fun n clock => ?_⟩
      have hsize : ((w.run fuel).storeOf 0).size = values.length := by
        rw [Store.size, messages.length_eq, List.length_map]
      rw [Handler.eventuallyReceived, first, eventually_still, received]
      simp only [Matcher.hasLength, hsize, beq_iff_eq]
      exact if_congr eq_comm rfl rfl }

end Flowing

namespace Bench

omit [DecidableEq K] [Debug K] in
theorem handlers_subscribe (w : Bench K V) (c : ChannelId) (q : String) (prefetch : Nat) (duty : Duty K V)
    (credits : Option Nat) : (w.subscribe c q prefetch duty credits).2.handlers = w.handlers := by
  have h : (w.through c .subscribe fun b => b.subscribe c q prefetch w.unstarted).2.handlers = w.handlers := by
    unfold through
    split <;> rfl
  unfold subscribe
  split
  · next hs => rw [hs] at h; exact h
  · exact h

omit [DecidableEq K] [Debug K] in
theorem handlers_start (w : Bench K V) (n : Nat) (q : String) (decoder : Decoder V) (key : KeyFn K V)
    (policy : FailurePolicy) (credits : Option Nat) :
    (w.start n q decoder key policy credits).2.handlers = w.handlers := by
  unfold start
  split
  · rfl
  · next x _ =>
    split
    · rfl
    · rfl
    · have h := (w.note (.debug ("setting up consumer on " ++ q ++ " with prefetch " ++
        toString x.prefetch))).handlers_subscribe x.channel q x.prefetch (.filing ⟨n, q, decoder, key, policy⟩)
          credits
      dsimp only
      split <;> next hs => rw [hs] at h; exact h

/-- An open handler publishes values that can be sent, whatever comes between. -/
theorem Accepting.publishes {Holds : List Letter → Bench K V → Prop} {fit : Letter → Prop}
    (ok : Accepting Holds fit h.channel h.queue) (hw : Holds [] w) (hh : w.handlers = [h])
    (ample : w.shortage = none)
    (intact : h.state.poisoned = false) (running : h.state.value ≠ .closed) {values : List V}
    (sendable : ∀ v ∈ values, ∃ l, h.publisher.letter? ⟨v, {}⟩ = some l ∧ fit l) (turns : List (Option Nat)) :
    ∃ ls w', w.handlerPublishValuesAmid 0 values turns = (.ok values.length, w') ∧ Holds ls w' ∧
      ls.Perm ((values.map fun v => ⟨v, {}⟩).filterMap h.publisher.letter?) := by
  have hp : 1 ≤ h.publisher.parallelism := Nat.le_max_right _ _
  have hall : ∀ m ∈ values.map fun v => (⟨v, {}⟩ : Message V), ∃ l, h.publisher.letter? m = some l ∧ fit l := by
    intro m hm
    obtain ⟨v, hv, rfl⟩ := List.mem_map.1 hm
    exact sendable v hv
  obtain ⟨ls, w', hpub, hls, hperm⟩ := publishAmid_accepted (p := h.publisher) ok hp hall hw ample turns
  refine ⟨ls, w', ?_, hls, hperm⟩
  simp only [handlerPublishValuesAmid, hh, List.getElem?_cons_zero, Handler.takeOpen_intact intact running]
  rw [hpub, List.length_map]

end Bench

omit [DecidableEq K] [Debug K] in
theorem HandlerPlan.complete_full {q : String} (c : ChannelId) (named : Text.allBlank q = false) (key : V → K)
    (decoder : Decoder V) (encoder : Encoder V) {prefetch parallelism : Nat} (bounded : 1 ≤ prefetch)
    (manned : 1 ≤ parallelism) (policy : FailurePolicy) (retry : RetryPolicy) (consumer : Nat) :
    HandlerPlan.complete {
      channel := some c, queue := some q, key := some (Codec.byContent key), decoder := some decoder
      encoder := some encoder, prefetch, parallelism, policy, retry } consumer = .ok {
        queue := q, channel := c, consumer, decoder, key := Codec.byContent key, encoder, policy
        parallelism, retry } := by
  have hq : (some q).filter (fun q => !Text.allBlank q) = some q := by simp [named]
  have hb : prefetch ≠ 0 := Nat.ne_of_gt bounded
  have hm : parallelism ≠ 0 := Nat.ne_of_gt manned
  simp only [complete, hq, need, hb, hm]
  rfl

omit [DecidableEq K] [Debug K] in
theorem Bench.build_complete (w : Bench K V) {plan : HandlerPlan K V}
    (complete : plan.complete w.consumers.length = .ok h) : ∃ journal,
      w.build plan = (.ok w.handlers.length,
        { (w.newStore.2.newConsumer h.channel w.newStore.1 plan.prefetch).2 with
          handlers := w.handlers ++ [h], journal }) := by
  simp only [build, complete]
  exact ⟨_, rfl⟩

def Handler.consuming (h : Handler K V) : Handler K V := { h with state := h.state.put .consuming }

omit [Debug K] in
theorem Stocking.consume (hw : Stocking s h ls w) (own : h.filing = s.filing)
    (intact : h.state.poisoned = false) (running : h.state.value ≠ .closed) :
    ∃ handle w', w.consume 0 none = (.ok handle, w') ∧ Flowing s h.consuming ls w' := by
  obtain ⟨c, ha, hf, rfl⟩ := hw.waits
  obtain ⟨w', hstart, hs⟩ : ∃ w', w.start h.consumer h.queue h.decoder h.key h.policy none =
      (.ok ⟨s.tag, s.channel, h.queue⟩, w') ∧ Serving s 1 w' c 0 := by
    obtain ⟨w', hstart, hs⟩ : ∃ w', _ ∧ Serving s 1 w' c 0 := ha.start
    rw [← own] at hstart
    exact ⟨w', hstart, hs⟩
  have hh : w'.handlers = [h] := by
    have hkept := w.handlers_start h.consumer h.queue h.decoder h.key h.policy none
    rwa [hstart, hw.handlers] at hkept
  refine ⟨⟨s.tag, s.channel, h.queue⟩, w'.setState 0 .consuming, ?_, ?_⟩
  · simp only [Bench.consume, hw.handlers, List.getElem?_cons_zero, Handler.takeOpen_intact intact running,
      hstart, Bench.underLock]
  · refine ⟨?_, hw.good, _, c, 0, hs.aside _ w'.journal, hf, rfl, rfl⟩
    simp [Bench.setState, Bench.onHandler, hh, Handler.consuming]

omit [DecidableEq K] [Debug K] in
theorem letter_filed {p : Publisher V} {decoder : Decoder V} {v : V}
    (codec : ∃ body, p.encoder v = .ok body ∧ decoder body = .ok v) (key : V → K) :
    ∃ l, p.letter? ⟨v, {}⟩ = some l ∧ filedAs decoder (Codec.byContent key) l = some (key v, ⟨v, {}⟩) := by
  obtain ⟨body, he, hd⟩ := codec
  exact ⟨⟨body, {}⟩, by simp [Publisher.letter?, he], by simp [filedAs, hd, Codec.byContent]⟩

omit [DecidableEq K] [Debug K] in
theorem letters_filed {p : Publisher V} {decoder : Decoder V} {values : List V}
    (codec : ∀ v ∈ values, ∃ body, p.encoder v = .ok body ∧ decoder body = .ok v) (key : V → K) :
    ((values.map fun v => ⟨v, {}⟩).filterMap p.letter?).filterMap (filedAs decoder (Codec.byContent key)) =
      values.map fun v => (key v, ⟨v, {}⟩) := by
  rw [List.filterMap_filterMap, List.filterMap_map, ← List.filterMap_eq_map]
  refine List.filterMap_congr fun v hv => ?_
  obtain ⟨l, hl, hf⟩ := letter_filed (codec v hv) key
  simp [hl, hf]

/-- A new handler on an empty queue, whose encoder and decoder fit: whatever its prefetch, its policy
and the size of its crew, values with different keys all get into its store, each under its key and
with no properties. This is so if they are published first, on any schedule, and consumed then, and if
consuming starts first and the worker's steps and the crew's moves come in any order. -/
theorem pipeline [Debug V] {es : List Broker.Event} {b : Broker} (run : Broker.Run es b) {c : ChannelId}
    {q : String} (up : b.connected = true) (opened : b.isClosed c = false)
    (new : b.queue? q = some { name := q }) (free : b.unackedOf q = []) (named : Text.allBlank q = false)
    {prefetch parallelism : Nat} (bounded : 1 ≤ prefetch) (manned : 1 ≤ parallelism)
    (policy : FailurePolicy) (retry : RetryPolicy) (encoder : Encoder V) (decoder : Decoder V) (key : V → K)
    (values : List V) (codec : ∀ v ∈ values, ∃ body, encoder v = .ok body ∧ decoder body = .ok v)
    (distinct : (values.map key).Nodup) :
    let plan : HandlerPlan K V := {
      channel := some c, queue := some q, key := some (Codec.byContent key), decoder := some decoder
      encoder := some encoder, prefetch, parallelism, policy, retry }
    ∃ w, ({ broker := b } : Bench K V).build plan = (.ok 0, w) ∧
      (∀ schedule, ∃ full handle begun,
        w.handlerPublishValues 0 values schedule = (.ok values.length, full) ∧
        full.consume 0 none = (.ok handle, begun) ∧
        ∀ fuel, 3 * values.length ≤ fuel → Gathered (begun.run fuel) q key values) ∧
      ∃ handle begun, w.consume 0 none = (.ok handle, begun) ∧
        ∀ turns, ∃ full, begun.handlerPublishValuesAmid 0 values turns = (.ok values.length, full) ∧
          ∀ fuel, 3 * values.length ≤ fuel → Gathered (full.run fuel) q key values := by
  intro plan
  let h : Handler K V := {
    queue := q, channel := c, consumer := 0, decoder, key := Codec.byContent key, encoder, policy
    parallelism, retry }
  let s : Site K V := {
    filing := h.filing
    channel := c
    sender := c
    tag := Broker.consumerTag b.nextConsumer
    prefetch := if prefetch = 0 then Bench.defaultPrefetch else prefetch
    base := b.lastTag }
  have hawait : Awaiting s _ {} := awaiting_start run up opened opened new free rfl rfl rfl rfl
  have complete : plan.complete 0 = .ok h :=
    HandlerPlan.complete_full c named key decoder encoder bounded manned policy retry 0
  obtain ⟨journal, hbuild⟩ := ({ broker := b } : Bench K V).build_complete complete
  have hw : Stocking s h [] _ := ⟨rfl, by simp, {}, hawait.aside [h] journal, .start, rfl⟩
  have sendable : ∀ v ∈ values, ∃ l, h.publisher.letter? ⟨v, {}⟩ = some l ∧ s.good l = true := by
    intro v hv
    obtain ⟨l, hl, hf⟩ := letter_filed (p := h.publisher) (codec v hv) key
    exact ⟨l, hl, Option.isSome_iff_exists.2 ⟨_, hf⟩⟩
  have filed : ∀ ls : List Letter, ls.Perm ((values.map fun v => ⟨v, {}⟩).filterMap h.publisher.letter?) →
      (ls.filterMap (filedAs decoder (Codec.byContent key))).Perm (values.map fun v => (key v, ⟨v, {}⟩)) := by
    intro ls hls
    rw [← letters_filed (p := h.publisher) codec key]
    exact hls.filterMap _
  have created : h.state.value ≠ .closed := nofun
  have consuming : h.consuming.state.value ≠ .closed := nofun
  refine ⟨_, hbuild, fun schedule => ?_, ?_⟩
  · obtain ⟨ls, full, hfull, hs, hls⟩ := stocking_accepting.publishes hw hw.handlers hw.ample rfl created sendable
      (schedule.map some)
    rw [Bench.handlerPublishValuesAmid_alone] at hfull
    obtain ⟨handle, begun, hbegun, hf⟩ := hs.consume rfl rfl created
    exact ⟨full, handle, begun, hfull, hbegun, fun fuel hfuel => hf.gathered rfl (filed ls hls) distinct hfuel⟩
  · obtain ⟨handle, begun, hbegun, hf⟩ := hw.consume rfl rfl created
    refine ⟨handle, begun, hbegun, fun turns => ?_⟩
    obtain ⟨ls, full, hfull, hf, hls⟩ := (flowing_accepting rfl).publishes hf hf.handlers hf.ample rfl consuming
      sendable turns
    exact ⟨full, hfull, fun fuel hfuel => hf.gathered rfl (filed ls hls) distinct hfuel⟩

/-- Two numbers filed by their last digits, published by a crew of two while the worker is at work. -/
theorem pipeline_mingled : ∃ w handle begun full,
    ({ broker := (({} : Broker).act .openChannel).act (.declare "jobs") } : Bench Nat Nat).build {
      channel := some ⟨1⟩, queue := some "jobs", key := some (Codec.byContent (· % 10))
      decoder := some fun body => .ok (body.map UInt8.toNat).sum
      encoder := some fun n => .ok [n.toUInt8]
      prefetch := 1, parallelism := 2 } = (.ok 0, w) ∧
    w.consume 0 none = (.ok handle, begun) ∧
    begun.handlerPublishValuesAmid 0 [17, 42] [some 0, some 1, some 1, none, none, some 0] = (.ok 2, full) ∧
    Gathered (full.run 6) "jobs" (· % 10) [17, 42] := by
  have run : Broker.Run _ ((({} : Broker).act .openChannel).act (.declare "jobs")) :=
    .snoc (.declare "jobs") (.snoc .openChannel .nil)
  obtain ⟨w, hw, -, handle, begun, hbegun, hafter⟩ := pipeline run (c := ⟨1⟩) (q := "jobs") rfl (by decide) rfl
    rfl (by decide) (le_refl 1) (by decide : 1 ≤ 2) .requeue {} (fun n => .ok [n.toUInt8])
    (fun body => .ok (body.map UInt8.toNat).sum) (· % 10) [17, 42] (by simp) (by decide)
  obtain ⟨full, hfull, hrest⟩ := hafter [some 0, some 1, some 1, none, none, some 0]
  exact ⟨w, handle, begun, full, hw, hbegun, hfull, hrest 6 (by decide)⟩

end QueueProbe
