import QueueProbe.Proofs.Consumer.Effects
import QueueProbe.Proofs.Handler.AtLeastOnce

/-! Most of what happens on a bench has no say in who is subscribed to what: the broker's subscriptions
differ by their counts at most, and handlers and consumers hold on to what they know. Benches like
this are `Alike`. Worker steps and publishing are of this kind, whatever comes of them. -/

namespace QueueProbe

variable {K V : Type}

namespace Broker

/-- The subscriptions without their counts. -/
def terms (b : Broker) : List Subscription := b.subscriptions.map fun s => { s with inFlight := 0 }

theorem terms_onSubscription (b : Broker) (t : ConsumerTag) (f : Nat → Nat) :
    (b.onSubscription t fun s => { s with inFlight := f s.inFlight }).terms = b.terms := by
  simp only [terms, onSubscription, List.map_map]
  refine List.map_congr_left fun s _ => ?_
  simp only [Function.comp_apply]
  split <;> rfl

@[simp] theorem terms_handedOut (b : Broker) (s : Subscription) (e : Envelope) :
    (b.handedOut s e).terms = b.terms :=
  (b.onQueue s.queue _).terms_onSubscription s.tag (· + 1)

@[simp] theorem terms_settled (b : Broker) (u : Unacked) : (b.settled u).terms = b.terms :=
  terms_onSubscription { b with unacked := _ } u.consumer (· - 1)

@[simp] theorem terms_joined (b : Broker) (c : ChannelId) (q : String) (n : Nat) :
    (b.joined c q n).terms =
      b.terms ++ [{ tag := consumerTag b.nextConsumer, queue := q, channel := c, prefetch := n }] := by
  simp [terms, joined]

@[simp] theorem terms_left (b : Broker) (t : ConsumerTag) :
    (b.left t).terms = b.terms.filter (·.tag ≠ t) := by
  simp [terms, left, List.filter_map, Function.comp_def]

@[simp] theorem terms_shut (b : Broker) (c : ChannelId) :
    (b.shut c).terms = b.terms.filter (·.channel ≠ c) := by
  simp [terms, shut, List.filter_map, Function.comp_def]

theorem tags_terms (b : Broker) : b.terms.map (·.tag) = b.subscriptions.map (·.tag) := by
  simp [terms, Function.comp_def]

theorem declareQueue_alike (b : Broker) (q : String) :
    (b.declareQueue q).2.terms = b.terms ∧ (b.declareQueue q).2.closed = b.closed := by
  unfold declareQueue
  split
  · exact ⟨rfl, rfl⟩
  · split <;> exact ⟨rfl, rfl⟩

theorem declareAnonymousQueue_alike (b : Broker) :
    b.declareAnonymousQueue.2.terms = b.terms ∧ b.declareAnonymousQueue.2.closed = b.closed := by
  have h := declareQueue_alike { b with nextAnonymous := b.nextAnonymous + 1 }
    (anonymousName b.nextAnonymous)
  unfold declareAnonymousQueue
  dsimp only
  split <;> next hd => rw [hd] at h; exact h

end Broker

/-- A consumer without its counters. -/
def Consumer.desk (x : Consumer) : Consumer := { x with stats := {} }

/-- Nothing that has to do with who is subscribed is different. -/
structure Alike (w w' : Bench K V) : Prop where
  terms : w'.broker.terms = w.broker.terms
  closed : w'.broker.closed = w.broker.closed
  handlers : w'.handlers = w.handlers
  desks : w'.consumers.map Consumer.desk = w.consumers.map Consumer.desk

namespace Alike

variable {w w' x : Bench K V}

theorem refl (w : Bench K V) : Alike w w := ⟨rfl, rfl, rfl, rfl⟩

theorem trans (h : Alike w w') (g : Alike w' x) : Alike w x :=
  ⟨g.terms.trans h.terms, g.closed.trans h.closed, g.handlers.trans h.handlers, g.desks.trans h.desks⟩

theorem symm (h : Alike w w') : Alike w' w :=
  ⟨h.terms.symm, h.closed.symm, h.handlers.symm, h.desks.symm⟩

/-- Journal, stores, workers, faults and dispatches do not matter. -/
theorem on (h : Alike w w') (hb : x.broker = w'.broker) (hh : x.handlers = w'.handlers)
    (hc : x.consumers = w'.consumers) : Alike w x :=
  ⟨by rw [hb, h.terms], by rw [hb, h.closed], by rw [hh, h.handlers], by rw [hc, h.desks]⟩

theorem note (h : Alike w w') (m : Note) : Alike w (w'.note m) := h.on rfl rfl rfl

theorem onWorker (h : Alike w w') (t : ConsumerTag) (f : Worker K V → Worker K V) :
    Alike w (w'.onWorker t f) := h.on rfl rfl rfl

theorem setPhase (h : Alike w w') (t : ConsumerTag) (p : Phase) : Alike w (w'.setPhase t p) :=
  h.on rfl rfl rfl

theorem dismiss (h : Alike w w') (t : ConsumerTag) : Alike w (w'.dismiss t) := h.on rfl rfl rfl

theorem keep [DecidableEq K] (h : Alike w w') (n : Nat) (k : K) (m : Message V) :
    Alike w (w'.keep n k m) := by
  unfold Bench.keep
  split
  · exact h.on rfl rfl rfl
  · exact h

theorem count (h : Alike w w') (n : Nat) (f : Stats → Stats) : Alike w (w'.count n f) := by
  refine ⟨h.terms, h.closed, h.handlers, Eq.trans (List.ext_getElem? fun i => ?_) h.desks⟩
  simp only [Bench.count, Bench.onConsumer, List.getElem?_map, List.getElem?_modify]
  cases w'.consumers[i]? with
  | none => rfl
  | some x => by_cases hn : n = i <;> simp [hn, Consumer.desk]

theorem broker {b : Broker} (ht : b.terms = w.broker.terms) (hc : b.closed = w.broker.closed) :
    Alike w { w with broker := b } := ⟨ht, hc, rfl, rfl⟩

theorem consumer (h : Alike w w') {n : Nat} {y : Consumer} (hy : w'.consumers[n]? = some y) :
    ∃ x, w.consumers[n]? = some x ∧ x.desk = y.desk := by
  have hd := congrArg (·[n]?) h.desks
  simp only [List.getElem?_map, hy, Option.map_some] at hd
  exact Option.map_eq_some_iff.1 hd.symm

end Alike

namespace Bench

theorem isSubscribed_alike {w w' : Bench K V} (h : Alike w w') (t : ConsumerTag) :
    w'.isSubscribed t = w.isSubscribed t := by
  have tags : w'.broker.subscriptions.map (·.tag) = w.broker.subscriptions.map (·.tag) := by
    rw [← Broker.tags_terms, h.terms, Broker.tags_terms]
  have any : ∀ b : Broker, b.subscriptions.any (·.tag = t) = (b.subscriptions.map (·.tag)).any (· = t) := by
    intro b
    rw [List.any_map]
    rfl
  rw [isSubscribed, any, tags, ← any, isSubscribed]

theorem alike_through {α : Type} (w : Bench K V) (c : ChannelId) (call : Call)
    {run : Broker → Broker.Answer α} (ht : (run w.broker).2.terms = w.broker.terms)
    (hc : (run w.broker).2.closed = w.broker.closed) : Alike w (w.through c call run).2 := by
  unfold through
  split
  · exact .refl w
  · exact .refl w
  · exact .broker ht hc

theorem alike_openChannel (w : Bench K V) : Alike w w.openChannel.2 := by
  unfold openChannel Broker.openChannel
  split
  · next hb =>
    split at hb <;> cases hb
    exact ⟨rfl, rfl, rfl, rfl⟩
  · next hb =>
    split at hb <;> cases hb
    exact .refl w

theorem alike_send (w : Bench K V) (c : ChannelId) (q : String) (body : Bytes) (p : Properties) :
    Alike w (w.send c q body p).2 := by
  have h : Alike w (w.through c .send fun b => b.send c q body p).2 := by
    rcases w.broker.send_cases c q ⟨body, p⟩ with ⟨-, -, hs⟩ | ⟨e, hs⟩
    · exact alike_through w c .send (by rw [hs]; rfl) (by rw [hs]; rfl)
    · exact alike_through w c .send (by rw [hs]) (by rw [hs])
  unfold send
  split
  · next hs => rw [hs] at h; exact h.on rfl rfl rfl
  · exact h

theorem alike_ack (w : Bench K V) (c : ChannelId) (n : Nat) : Alike w (w.ack c n).2 := by
  unfold ack
  rcases w.broker.ack_cases c n with ⟨u, -, -, -, ha⟩ | ⟨e, ha⟩
  · exact alike_through w c .ack (by rw [ha]; exact Broker.terms_settled _ u) (by rw [ha]; rfl)
  · exact alike_through w c .ack (by rw [ha]) (by rw [ha])

theorem alike_reject (w : Bench K V) (c : ChannelId) (n : Nat) (r : Bool) :
    Alike w (w.reject c n r).2 := by
  unfold reject
  rcases w.broker.reject_cases c n r with ⟨u, -, -, -, ha⟩ | ⟨e, ha⟩
  · exact alike_through w c .reject (by rw [ha]; exact Broker.terms_settled _ u) (by rw [ha]; rfl)
  · exact alike_through w c .reject (by rw [ha]) (by rw [ha])

/-! Publishing, move by move. -/

theorem alike_sendMessage (w : Bench K V) (p : Publisher V) (q : String) (m : Message V) :
    Alike w (w.sendMessage p q m).2 := by
  unfold sendMessage
  split
  · exact .refl w
  · exact .refl w
  · next body _ =>
    exact ((Alike.refl w).note _).trans (alike_send (w.note _) p.channel q body m.properties)

theorem alike_crewStep (p : Publisher V) (q : String) (batch : List (Message V)) (s : Crew × Bench K V)
    (i : Nat) : Alike s.2 (crewStep p q batch s i).2 := by
  unfold crewStep
  split
  · exact .refl s.2
  · split
    · exact .refl s.2
    · exact .refl s.2
    · exact .refl s.2
    · split
      · exact .refl s.2
      · next m _ =>
        have h := alike_sendMessage s.2 p q m
        split <;> next hs => rw [hs] at h; exact h

theorem alike_schedule (p : Publisher V) (q : String) (batch : List (Message V)) (schedule : List Nat)
    (s : Crew × Bench K V) : Alike s.2 (schedule.foldl (crewStep p q batch) s).2 := by
  induction schedule generalizing s with
  | nil => exact .refl s.2
  | cons i schedule ih => exact (alike_crewStep p q batch s i).trans (ih _)

theorem alike_finishCrew (p : Publisher V) (q : String) (batch : List (Message V)) (fuel : Nat)
    (s : Crew × Bench K V) : Alike s.2 (finishCrew p q batch fuel s).2 := by
  induction fuel generalizing s with
  | zero => exact .refl s.2
  | succ fuel ih =>
    unfold finishCrew
    split
    · exact (alike_crewStep p q batch s _).trans (ih _)
    · exact .refl s.2

theorem alike_publish (w : Bench K V) (p : Publisher V) (q : String) (batch : List (Message V))
    (schedule : List Nat) : Alike w (w.publish p q batch schedule).2 := by
  unfold publish publishWith
  split
  · exact .refl w
  · refine (Alike.trans ?_ (alike_finishCrew p q batch _ _)).on rfl rfl rfl
    exact ((Alike.refl w).note _).trans (alike_schedule p q batch schedule (_, w.note _))

/-! Worker steps, as long as every worker files. -/

variable [DecidableEq K] [Debug K] {w : Bench K V}

omit [DecidableEq K] [Debug K] in
theorem alike_take (w : Bench K V) (t : ConsumerTag) : Alike w ((w.take t).getD w) := by
  unfold take
  cases h : w.broker.deliver t with
  | none => exact .refl w
  | some a =>
    obtain ⟨s, x, e, rest, -, -, -, -, -, -, hb⟩ := Broker.deliver_eq h
    have ht : a.2.terms = w.broker.terms := by rw [hb, Broker.terms_handedOut]
    have hc : a.2.closed = w.broker.closed := by rw [hb]; rfl
    exact ⟨ht, hc, rfl, rfl⟩

theorem alike_file (w : Bench K V) (t : ConsumerTag) (f : Filing K V) (d : Delivery) :
    Alike w (w.file t f d) := by
  unfold file
  have counted := (Alike.refl w).count f.consumer fun s => { s with delivered := s.delivered + 1 }
  dsimp only
  split
  · exact (((counted.keep _ _ _).count _ _).note _).setPhase t _
  · split <;> exact ((counted.count _ _).note _).setPhase t _

omit [DecidableEq K] [Debug K] in
theorem alike_settle (w : Bench K V) (k : Worker K V) (d : Delivery) (r : Option Bool) :
    Alike w (w.settle k d r) := by
  obtain ⟨w', hw, hs⟩ := w.settle_cases k d r
  have answered : Alike w w' := by
    rcases hw with rfl | ⟨q, rfl⟩
    · exact alike_ack w _ _
    · exact alike_reject w _ _ q
  rcases hs with hs | ⟨n, f, m, hs⟩ | hs <;> rw [hs]
  · exact answered.dismiss k.tag
  · exact ((answered.count n f).note m).setPhase k.tag _
  · exact answered.setPhase k.tag _

omit [DecidableEq K] [Debug K] in
theorem alike_depart (w : Bench K V) (k : Worker K V) : Alike w (w.depart k) := by
  unfold depart
  split <;> exact (Alike.refl w).on rfl rfl rfl

theorem alike_work (clerks : ∀ k ∈ w.workers, ∃ f, k.duty = .filing f) (t : ConsumerTag) :
    Alike w ((w.advance t).getD w) := by
  unfold advance
  cases hk : w.worker? t with
  | none => exact .refl w
  | some k =>
    dsimp only
    cases hp : k.phase with
    | idle =>
      dsimp only
      split
      · exact alike_take w t
      · exact alike_depart w k
    | holding d =>
      obtain ⟨f, duty⟩ := clerks k (List.mem_of_find?_eq_some hk)
      dsimp only
      split
      · simp only [Option.getD_some, handle, duty]
        exact ((Alike.refl w).onWorker k.tag _).trans (alike_file (w.onWorker k.tag _) k.tag f d)
      · exact .refl w
    | settling d r => exact alike_settle w k d r

theorem alike_advance (clerks : w.view.Staffed) (t : ConsumerTag) : Alike w ((w.advance t).getD w) := by
  refine alike_work (fun k hk => ?_) t
  obtain ⟨f, -, duty⟩ := clerks _ (mem_crew hk)
  exact ⟨f, duty⟩

variable {log : List (Entry K V)}

theorem Run.staffed (h : Run log w) : w.view.Staffed := h.invariant.1.staffed

theorem Run.strangers (h : Run log w) : w.scene.strangers = [] := by
  refine List.filterMap_eq_nil_iff.2 fun k hk => ?_
  obtain ⟨f, -, duty⟩ := h.staffed _ (mem_crew hk)
  have filing : k.duty = .filing f := duty
  simp [Worker.stranger?, filing]

theorem alike_retire (staffed : w.scene.strangers = []) (t : ConsumerTag) : Alike w (w.retire t) := by
  have step : ∀ {v : Bench K V}, v.scene.strangers = [] →
      (v.undergo (.work t)).scene.strangers = [] ∧ Alike v (v.undergo (.work t)) := fun staffed =>
    ⟨(effect staffed (.work t)).strangers staffed, alike_work (fun k hk => duty_of_mem staffed hk) t⟩
  obtain ⟨staffed₁, alike₁⟩ := step staffed
  obtain ⟨staffed₂, alike₂⟩ := step staffed₁
  exact alike₁.trans (alike₂.trans (step staffed₂).2)

end Bench
end QueueProbe
