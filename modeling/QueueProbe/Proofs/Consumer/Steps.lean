import QueueProbe.Proofs.Consumer.Serving

/-! The steps of a bench that serves a course. It can be sent to at any time; otherwise its worker
takes, files and settles the letter in front, until there is none. -/

namespace QueueProbe

variable {K V : Type} {s : Site K V} {life : Nat} {c : Course} {n : Nat}

/-- What is posted meanwhile does not change what becomes of the letter in front. -/
theorem Course.next_post {x : Item} {rest : List Item} (life : Nat) (good : Letter → Bool)
    (front : c.line = x :: rest) (l : Letter) :
    ((c.post l).next good life).stats = (c.next good life).stats ∧
      ((c.post l).next good life).kept = (c.next good life).kept := by
  simp only [Course.next, Course.post, front, List.cons_append, Course.stats]
  split
  · exact ⟨rfl, rfl⟩
  · split <;> exact ⟨rfl, rfl⟩

theorem Course.delivered_next {x : Item} {rest : List Item} (life : Nat) (good : Letter → Bool)
    (front : c.line = x :: rest) : (c.next good life).delivered = c.delivered + 1 := by
  simp only [Course.next, front]
  split
  · rfl
  · split <;> rfl

theorem Course.sent_next (good : Letter → Bool) : (c.next good life).sent = c.sent := by
  unfold Course.next
  split
  · rfl
  · split
    · rfl
    · split <;> rfl

theorem Site.puts_append {l : Letter} {x : K × Message V}
    (h : filedAs s.filing.decoder s.filing.key l = some x) (ls : List Letter) :
    s.puts (ls ++ [l]) = s.puts ls ++ [x] := by
  simp [Site.puts, h]

variable [DecidableEq K] {w : Bench K V}

namespace Staffed

variable {phase : Phase} {seat : Option Phase} {stats : Stats} {kept : List Letter}

theorem worker? (h : Staffed s w (some phase) stats kept) : w.worker? s.tag = some (s.worker phase) := by
  simp [Bench.worker?, h.alone, Site.worker]

theorem through (h : Staffed s w seat stats kept) {α : Type} (channel : ChannelId) (call : Call)
    (run : Broker → Broker.Answer α) : w.through channel call run =
      (.ofExcept (run w.broker).1, { w with broker := (run w.broker).2 }) := by
  simp [Bench.through, h.calm, Table.get?]

theorem onBroker (h : Staffed s w seat stats kept) (b : Broker) (ds : List Dispatch) :
    Staffed s { w with broker := b, dispatches := ds } seat stats kept :=
  ⟨h.first, h.calm, h.ample, h.alone, h.books, h.store⟩

theorem setPhase (h : Staffed s w (some phase) stats kept) (p : Phase) :
    Staffed s (w.setPhase s.tag p) (some p) stats kept where
  first := h.first
  calm := h.calm
  ample := h.ample
  alone := by simp [Bench.setPhase, Bench.onWorker, h.alone, Site.worker]
  books := h.books
  store := h.store

theorem spend (h : Staffed s w seat stats kept) (t : ConsumerTag) :
    Staffed s (w.onWorker t fun k => { k with credits := k.credits.map (· - 1) }) seat stats kept where
  first := h.first
  calm := h.calm
  ample := h.ample
  alone := by cases seat <;> simp [Bench.onWorker, h.alone, Site.worker]
  books := h.books
  store := h.store

theorem count (h : Staffed s w seat stats kept) (f : Stats → Stats) :
    Staffed s (w.count s.filing.consumer f) seat (f stats) kept where
  first := h.first
  calm := h.calm
  ample := h.ample
  alone := h.alone
  books := by simp [Bench.count, Bench.onConsumer, h.first, h.books]
  store := h.store

theorem keep (h : Staffed s w seat stats kept) {l : Letter} {x : K × Message V}
    (hx : filedAs s.filing.decoder s.filing.key l = some x) :
    Staffed s (w.keep s.filing.consumer x.1 x.2) seat stats (kept ++ [l]) := by
  have hw : w.keep s.filing.consumer x.1 x.2 =
      { w with stores := [Store.ofPuts (s.puts (kept ++ [l]))] } := by
    simp [Bench.keep, Bench.onStore, h.first, h.books, h.store, Site.puts_append hx, Store.ofPuts_append]
  rw [hw]
  exact ⟨h.first, h.calm, h.ample, h.alone, h.books, rfl⟩

theorem note (h : Staffed s w seat stats kept) (m : Note) : Staffed s (w.note m) seat stats kept :=
  ⟨h.first, h.calm, h.ample, h.alone, h.books, h.store⟩

theorem aside (h : Staffed s w seat stats kept) (handlers : List (Handler K V)) (journal : List Note) :
    Staffed s { w with handlers, journal } seat stats kept :=
  ⟨h.first, h.calm, h.ample, h.alone, h.books, h.store⟩

theorem step_eq [Debug K] (h : Staffed s w (some phase) stats kept) : w.step = w.advance s.tag := by
  cases ha : w.advance s.tag <;> simp [Bench.step, h.alone, Site.worker, ha]

end Staffed

theorem Stocked.send_eq {line : List Item} {lost : List Letter} {busy : Option Nat}
    {seat : Option Phase} {stats : Stats} {kept : List Letter} (h : Stocked s w.broker line lost busy)
    (staff : Staffed s w seat stats kept) (l : Letter) :
    w.send s.sender s.filing.queue l.body l.properties = (.ok (), { w with
      broker := w.broker.posted s.filing.queue l
      dispatches := w.dispatches ++ [⟨s.sender, s.filing.queue, l.body, l.properties⟩] }) := by
  have hs := Broker.send_ok (Broker.usable_of_open h.sending h.up) h.known l
  simp only [Bench.send, staff.through, hs]
  rfl

namespace Awaiting

theorem post (h : Awaiting s w c) (l : Letter) :
    Awaiting s (w.send s.sender s.filing.queue l.body l.properties).2 (c.post l) := by
  rw [h.stock.send_eq h.staff l]
  exact ⟨h.stock.post l _, h.staff.onBroker _ _, h.free, h.tags, h.next⟩

theorem aside (h : Awaiting s w c) (handlers : List (Handler K V)) (journal : List Note) :
    Awaiting s { w with handlers, journal } c :=
  ⟨h.stock, h.staff.aside handlers journal, h.free, h.tags, h.next⟩

theorem start (h : Awaiting s w c) : ∃ w',
    w.start s.filing.consumer s.filing.queue s.filing.decoder s.filing.key s.filing.policy none =
      (.ok ⟨s.tag, s.channel, s.filing.queue⟩, w') ∧ Serving s life w' c 0 := by
  obtain ⟨hsub, hstock⟩ := h.stock.join h.next
  have hstart : ∃ journal, w.start s.filing.consumer s.filing.queue s.filing.decoder s.filing.key
      s.filing.policy none = (.ok ⟨s.tag, s.channel, s.filing.queue⟩, { w with
        broker := w.broker.joined s.channel s.filing.queue s.prefetch
        workers := [s.worker .idle]
        consumers := [{
          channel := s.channel
          store := 0
          prefetch := s.prefetch
          active := { value := some ⟨s.tag, s.channel, s.filing.queue⟩ }
          stats := c.stats }]
        journal }) := by
    have hf : (⟨0, s.filing.queue, s.filing.decoder, s.filing.key, s.filing.policy⟩ : Filing K V) =
        s.filing := by rw [← h.staff.first]
    simp [Bench.start, h.staff.first, h.staff.books, Lock.take, Bench.subscribe, Bench.through, Bench.note,
      h.staff.calm, h.staff.ample, Bench.unstarted, Bench.lack, Table.get?, hsub, Outcome.ofExcept, Bench.setActive, Bench.onConsumer, Lock.put,
      h.staff.alone, Site.worker, hf]
  obtain ⟨journal, hstart⟩ := hstart
  exact ⟨_, hstart, .idle hstock h.free h.tags ⟨h.staff.first, h.staff.calm, h.staff.ample, rfl, rfl,
    h.staff.store⟩⟩

end Awaiting

namespace Serving

theorem post (h : Serving s life w c n) (l : Letter) :
    (w.send s.sender s.filing.queue l.body l.properties).1 = .ok () ∧
    Serving s life (w.send s.sender s.filing.queue l.body l.properties).2 (c.post l) n := by
  cases h with
  | idle stock free tags staff =>
    rw [stock.send_eq staff l]
    exact ⟨rfl, .idle (stock.post l _) free tags (staff.onBroker _ _)⟩
  | holding x rest u front stock hand tags staff =>
    rw [stock.send_eq staff l]
    refine ⟨rfl, .holding x (rest ++ [⟨c.sent.length, l, 0⟩]) u ?_ (stock.post l _) ?_ tags
      (staff.onBroker _ _)⟩
    · simp [Course.post, front]
    · exact ⟨hand.only, hand.found, hand.queue, hand.channel, hand.consumer, hand.envelope⟩
  | settling x rest u front stock hand tags staff =>
    obtain ⟨hstats, hkept⟩ := Course.next_post life s.good front l
    rw [stock.send_eq staff l]
    refine ⟨rfl, .settling x (rest ++ [⟨c.sent.length, l, 0⟩]) u ?_ (stock.post l _) ?_ tags
      (hstats ▸ hkept ▸ staff.onBroker _ _)⟩
    · simp [Course.post, front]
    · exact ⟨hand.only, hand.found, hand.queue, hand.channel, hand.consumer, hand.envelope⟩

theorem aside (h : Serving s life w c n) (handlers : List (Handler K V)) (journal : List Note) :
    Serving s life { w with handlers, journal } c n := by
  cases h with
  | idle stock free tags staff => exact .idle stock free tags (staff.aside handlers journal)
  | holding x rest u front stock hand tags staff =>
    exact .holding x rest u front stock hand tags (staff.aside handlers journal)
  | settling x rest u front stock hand tags staff =>
    exact .settling x rest u front stock hand tags (staff.aside handlers journal)

theorem staffed (h : Serving s life w c n) :
    ∃ phase stats kept, Staffed s w (some phase) stats kept := by
  cases h with
  | idle _ _ _ staff => exact ⟨_, _, _, staff⟩
  | holding _ _ _ _ _ _ _ staff => exact ⟨_, _, _, staff⟩
  | settling _ _ _ _ _ _ _ staff => exact ⟨_, _, _, staff⟩

variable [Debug K]

theorem take (h : Serving s life w c 0) {x : Item} {rest : List Item} (front : c.line = x :: rest) :
    ∃ w', w.step = some w' ∧ Serving s life w' c 1 := by
  obtain ⟨stock, free, tags, staff⟩ := h
  obtain ⟨b, u, hd, hstock, hhand, htags⟩ := (front ▸ stock).take free
  have hs : w.isSubscribed s.tag = true := by rw [Bench.isSubscribed_eq, stock.subscribed]; rfl
  have ht : w.take s.tag = some ({ w with broker := b }.setPhase s.tag (.holding (Broker.told u))) := by
    simp [Bench.take, hd]
  refine ⟨{ w with broker := b }.setPhase s.tag (.holding (Broker.told u)), ?_, ?_⟩
  · rw [staff.step_eq]
    simp only [Bench.advance, staff.worker?, Site.worker, hs, if_true, ht]
  · exact .holding x rest u front hstock hhand (by rw [← tags]; exact htags)
      ((staff.onBroker b w.dispatches).setPhase _)

theorem rest (h : Serving s life w c n) (empty : c.line = []) : n = 0 ∧ w.step = none := by
  cases h with
  | idle stock free tags staff =>
    have hs : w.isSubscribed s.tag = true := by rw [Bench.isSubscribed_eq, stock.subscribed]; rfl
    have hd : w.broker.deliver s.tag = none :=
      Broker.deliver_none (s := ⟨s.tag, s.filing.queue, s.channel, s.prefetch, 0⟩)
        (by simpa using stock.subscribed) (by simpa [empty] using stock.ready)
    refine ⟨rfl, ?_⟩
    rw [staff.step_eq]
    simp only [Bench.advance, staff.worker?, Site.worker, hs, if_true, Bench.take, hd, Option.map_none]
  | holding x rest u front => simp [empty] at front
  | settling x rest u front => simp [empty] at front

theorem file (h : Serving s life w c 1)
    (policy : ∀ x ∈ c.line, s.good x.letter = false →
      s.filing.policy.keeps (UInt32.ofNat (x.count + 1)).toNat = decide (x.count + 1 < life)) :
    ∃ w', w.step = some w' ∧ Serving s life w' c 2 := by
  obtain - | ⟨x, rest, u, front, stock, hand, tags, staff⟩ := h
  have hl : (Broker.told u).letter = x.letter := by
    show u.envelope.letter = _
    rw [hand.envelope]
    rfl
  have ha : w.advance s.tag = some (w.handle (s.worker (.holding (Broker.told u))) (Broker.told u)) := by
    rw [Bench.advance, staff.worker?]
    rfl
  refine ⟨_, staff.step_eq.trans ha, ?_⟩
  have hb : (w.handle (s.worker (.holding (Broker.told u))) (Broker.told u)).broker = w.broker :=
    Bench.broker_file _ _ _ _
  refine .settling x rest u front (hb ▸ stock) (hb ▸ hand) (hb ▸ tags) ?_
  have hstaff := (staff.spend s.tag).count fun t => { t with delivered := t.delivered + 1 }
  cases hx : filedAs s.filing.decoder s.filing.key x.letter with
  | some y =>
    have hi : Bench.index s.filing (Broker.told u) = .ok y := Bench.index_ok.2 (hl ▸ hx)
    have hg : s.good x.letter = true := by simp [Site.good, hx]
    have hdone := (((hstaff.keep hx).count fun t => { t with stored := t.stored + 1 }).note
      (.trace ("received message with key " ++ debug y.1 ++ " from " ++ s.filing.queue))).setPhase
        (.settling (Broker.told u) none)
    simp only [Bench.handle, Site.worker, Bench.file, hi]
    simpa [Course.next, front, hg, Course.stats] using hdone
  | none =>
    obtain ⟨e, hi⟩ : ∃ e, Bench.index s.filing (Broker.told u) = .error e := Bench.index_error.2 (hl ▸ hx)
    have hg : s.good x.letter = false := by simp [Site.good, hx]
    have hk : s.filing.policy.keeps (Broker.told u).count.toNat = decide (x.count + 1 < life) := by
      rw [← policy x (front ▸ List.mem_cons_self) hg]
      show s.filing.policy.keeps u.envelope.deliveryCount.toNat = _
      rw [hand.envelope]
      rfl
    simp only [Bench.handle, Site.worker, Bench.file, hi, hk]
    by_cases hc : x.count + 1 < life
    · have hdone := ((hstaff.count fun t => { t with rejected := t.rejected + 1 }).note
        (.warn ("skipping message from " ++ s.filing.queue ++ " (delivery " ++
          toString (Broker.told u).count ++ "), requeueing: " ++ e.message))).setPhase
            (.settling (Broker.told u) (some true))
      simpa [Course.next, front, hg, hc, Course.stats] using hdone
    · have hdone := ((hstaff.count fun t => { t with deadLettered := t.deadLettered + 1 }).note
        (.warn ("discarding message from " ++ s.filing.queue ++ " after " ++
          toString (Broker.told u).count ++ " deliveries: " ++ e.message))).setPhase
            (.settling (Broker.told u) (some false))
      simpa [Course.next, front, hg, hc, Course.stats] using hdone

theorem settle (h : Serving s life w c 2) :
    ∃ w', w.step = some w' ∧ Serving s life w' (c.next s.good life) 0 := by
  obtain - | - | ⟨x, rest, u, front, stock, hand, tags, staff⟩ := h
  have hd := Course.delivered_next life s.good front
  cases hg : s.good x.letter with
  | true =>
    obtain ⟨hstock, hnone⟩ := stock.settle hand
    have ha : w.advance s.tag =
        some ({ w with broker := w.broker.settled u }.setPhase s.tag .idle) := by
      simp only [Bench.advance, staff.worker?, Site.worker, hg, if_true, Bench.settle, Bench.ack,
        staff.through, Broker.told, stock.ack hand, Outcome.ofExcept]
    refine ⟨_, staff.step_eq.trans ha, .idle ?_ hnone (by rw [hd]; exact tags) ?_⟩
    · simpa [Course.next, front, hg] using hstock
    · exact (staff.onBroker _ w.dispatches).setPhase .idle
  | false =>
    obtain ⟨hstock, hnone⟩ := stock.refuse hand (x.count + 1 < life)
    have ha : w.advance s.tag = some ({ w with
        broker := (w.broker.settled u).refused u (x.count + 1 < life) }.setPhase s.tag .idle) := by
      simp only [Bench.advance, staff.worker?, Site.worker, hg, Bool.false_eq_true, if_false,
        Bench.settle, Bench.reject, staff.through, Broker.told, stock.reject hand, Outcome.ofExcept]
    refine ⟨_, staff.step_eq.trans ha, .idle ?_ hnone (by rw [hd]; exact tags) ?_⟩
    · by_cases hc : x.count + 1 < life
      · simpa [Course.next, front, hg, hc, Item.again] using hstock
      · simpa [Course.next, front, hg, hc] using hstock
    · exact (staff.onBroker _ w.dispatches).setPhase .idle

/-- Whatever the worker is at, it goes on as long as there is a letter in front. -/
theorem step (h : Serving s life w c n) (policy : ∀ x ∈ c.line, s.good x.letter = false →
      s.filing.policy.keeps (UInt32.ofNat (x.count + 1)).toNat = decide (x.count + 1 < life))
    {x : Item} {rest : List Item} (front : c.line = x :: rest) :
    ∃ w', w.step = some w' ∧
      (Serving s life w' c (n + 1) ∨ n = 2 ∧ Serving s life w' (c.next s.good life) 0) := by
  have hs := h
  cases h with
  | idle =>
    obtain ⟨w', hw, h'⟩ := hs.take front
    exact ⟨w', hw, Or.inl h'⟩
  | holding =>
    obtain ⟨w', hw, h'⟩ := hs.file policy
    exact ⟨w', hw, Or.inl h'⟩
  | settling =>
    obtain ⟨w', hw, h'⟩ := hs.settle
    exact ⟨w', hw, Or.inr ⟨rfl, h'⟩⟩

end Serving
end QueueProbe
