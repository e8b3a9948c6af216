import QueueProbe.Proofs.Handler.Ties

/-! The life cycle of a handler. As long as nobody died with one of its locks, its state, its consumer's
handle and the broker's subscriptions tell the same, and only its own calls change that. -/

namespace QueueProbe

variable {K V : Type}

/-- The moves of a handler's state, by what was asked of it. -/
inductive Passage : Wish V → HandlerState → HandlerState → Prop where
  | begins (credits : Option Nat) : Passage (.consume credits) .created .consuming
  | ends : Passage .cancel .consuming .created
  | shuts (s : HandlerState) (opened : s ≠ .closed) : Passage .close s .closed

section Reading

variable {h : Handler K V}

theorem Handler.visibleState_intact (hp : h.state.poisoned = false) : h.visibleState = h.state.value := by
  simp [visibleState, hp]

theorem Handler.takeOpen_intact (hp : h.state.poisoned = false) (hs : h.state.value ≠ .closed)
    (operation : String) : h.takeOpen operation = .ok h.state.value := by
  simp [takeOpen, Lock.take, hp]

theorem Handler.takeOpen_closed (hp : h.state.poisoned = false) (hs : h.state.value = .closed)
    (operation : String) : h.takeOpen operation = .error (h.closedFor operation) := by
  simp [takeOpen, Lock.take, hp, hs]

end Reading

namespace Tied

variable {made : List (Nat × ConsumerTag)} {b : Broker} {n : Nat} {h : Handler K V} {x : Consumer}
  {a : Handle}

theorem idle (t : Tied made b n h x) (hs : h.state.value ≠ .consuming) : x.active.value = none := by
  rw [Ne, t.state, Option.not_isSome_iff_eq_none] at hs
  exact hs

/-- The broker has one subscription of a handler with a handle, while its channel is open. -/
theorem subscription (t : Tied made b n h x) (ha : x.active.value = some a)
    (hc : b.isClosed h.channel = false) : ∃ s, b.ownSubscriptions made n = [s] ∧ s.tag = a.tag ∧
      s.queue = h.queue ∧ s.channel = h.channel ∧ s.prefetch = x.prefetch := by
  obtain ⟨hach, haq, -⟩ := t.handle a ha
  have hown := t.held
  rw [b.ownTerms_eq, Consumer.due, ha] at hown
  simp only [hach, hc, Bool.false_eq_true, if_false] at hown
  obtain ⟨s, hs, heq⟩ := List.map_eq_singleton_iff.1 hown
  simp only [Subscription.mk.injEq] at heq
  obtain ⟨ht, hq, hsc, hp, -⟩ := heq
  exact ⟨s, hs, ht, hq.trans haq, hsc, hp⟩

theorem none_own (t : Tied made b n h x) (hd : x.due b = []) : b.ownSubscriptions made n = [] := by
  have hown := t.held
  rw [b.ownTerms_eq, hd] at hown
  exact List.map_eq_nil_iff.1 hown

end Tied

namespace Bench

/-- A handler and its consumer, whose locks nobody died with. -/
structure Intact (w : Bench K V) (n : Nat) (h : Handler K V) (x : Consumer) : Prop where
  handler : w.handlers[n]? = some h
  consumer : w.consumers[h.consumer]? = some x
  state : h.state.poisoned = false
  active : x.active.poisoned = false

def stateOf (w : Bench K V) (n : Nat) : Option HandlerState := (w.handlers[n]?).map (·.visibleState)

/-- Somebody died with the state of handler `n`. -/
def Spoiled (w : Bench K V) (n : Nat) : Prop := ∃ h, w.handlers[n]? = some h ∧ h.state.poisoned = true

variable {w w' : Bench K V} {n : Nat} {h : Handler K V} {x : Consumer}

theorem activeHandle_of (hx : w.consumers[n]? = some x) (hp : x.active.poisoned = false) :
    w.activeHandle n = .ok x.active.value := by
  simp [activeHandle, hx, Lock.take, hp]

theorem activeHandle_alike (ha : Alike w w') (n : Nat) : w'.activeHandle n = w.activeHandle n := by
  unfold activeHandle
  cases hx' : w'.consumers[n]? with
  | none =>
    have hx : w.consumers[n]? = none := by
      have hd := congrArg (·[n]?) ha.desks
      simpa [hx'] using hd.symm
    rw [hx]
  | some x' =>
    obtain ⟨x, hx, hd⟩ := ha.consumer hx'
    have hactive : x.active = x'.active := (congrArg Consumer.active hd :)
    rw [hx]
    dsimp only
    rw [hactive]

theorem stateOf_alike (ha : Alike w w') (n : Nat) : w'.stateOf n = w.stateOf n := by
  rw [stateOf, stateOf, ha.handlers]

/-! Calls that do not fail. -/

theorem leave_ok {c : ChannelId} {t : ConsumerTag} {s : Subscription} (hu : w.broker.usable c = .ok ())
    (hs : w.broker.subscription? t = some s) (hc : s.channel = c)
    (hf : w.faults.get? (c, .unsubscribe) = none) :
    w.leave c t = (.ok (), { w with broker := w.broker.left t }) := by
  have hb : w.broker.unsubscribe c t = (.ok (), w.broker.left t) := by
    simp [Broker.unsubscribe, Broker.through, Broker.notified, hu, hs, hc, Broker.left]
  unfold leave
  rw [through_ok hf hb]
  rfl

variable [DecidableEq K] [Debug K]

theorem release_ok {a : Handle} {s : Subscription} (hu : w.broker.usable x.channel = .ok ())
    (hs : w.broker.subscription? a.tag = some s) (hc : s.channel = x.channel)
    (hf : w.faults.get? (x.channel, .unsubscribe) = none) : ∃ w', w.release n x a = (.ok (), w') := by
  unfold release unsubscribe
  rw [leave_ok hu hs hc hf]
  exact ⟨_, rfl⟩

omit [DecidableEq K] [Debug K] in
theorem start_ok (hx : w.consumers[n]? = some x) (hp : x.active.poisoned = false)
    (hidle : x.active.value = none) {q : String} (hu : w.broker.usable x.channel = .ok ())
    (hq : w.broker.hasQueue q = true) (hf : w.faults.get? (x.channel, .subscribe) = none)
    (startable : w.unstarted = none)
    (decoder : Decoder V) (key : KeyFn K V) (policy : FailurePolicy) (credits : Option Nat) :
    ∃ a w', w.start n q decoder key policy credits = (.ok a, w') := by
  have ht : x.active.take QueueError.synchronisation = .ok none := by simp [Lock.take, hp, hidle]
  have hb := Broker.subscribe_ok hu hq x.prefetch
  unfold start subscribe
  simp only [hx, ht, unstarted_note, startable]
  rw [through_ok (w := w.note _) hf hb]
  exact ⟨_, _, rfl⟩

/-! What a call leaves of handler `n`, read from outside. -/

omit [DecidableEq K] [Debug K] in
theorem stateOf_setState (hh : w.handlers[n]? = some h) (hp : h.state.poisoned = false)
    (s : HandlerState) : (w.setState n s).stateOf n = some s := by
  simp [stateOf, setState, onHandler, hh, Handler.visibleState, Lock.put, hp]

omit [DecidableEq K] [Debug K] in
theorem activeHandle_setActive (hx : w.consumers[n]? = some x) (hp : x.active.poisoned = false)
    (v : Option Handle) : (w.setActive n v).activeHandle n = .ok v := by
  simp [activeHandle, setActive, onConsumer, hx, Lock.put, Lock.take, hp]

end Bench

namespace Turnout

variable {w w' : Bench K V} {n m : Nat} {h : Handler K V} {x : Consumer} {i : Wish V}

theorem handlers_ne (t : Turnout w m h x i w') (hn : m ≠ n) : w'.handlers[n]? = w.handlers[n]? := by
  have away : ∀ f : Handler K V → Handler K V, (w.handlers.modify m f)[n]? = w.handlers[n]? := by
    intro f
    exact List.getElem?_modify_ne f w.handlers hn
  cases t with
  | same i w' ha => rw [ha.handlers]
  | spoiled i w' ha => rw [ha.handlers]; exact away _
  | began credits w' opened idle usable ha => rw [ha.handlers]; exact away _
  | ended a w' active ha => rw [ha.handlers]; exact away _
  | stopped a w' active ha => rw [ha.handlers]; exact away _
  | closed w' idle ha => rw [ha.handlers]; exact away _

/-- What a call makes of the state of its handler, unless it spoils the lock. -/
theorem move (t : Turnout w n h x i w') (hh : w.handlers[n]? = some h) (hp : h.state.poisoned = false)
    (hs : h.state.value = .consuming ↔ x.active.value.isSome = true) :
    w'.Spoiled n ∨ w'.stateOf n = some h.visibleState ∨
      ∃ s, Passage i h.visibleState s ∧ w'.stateOf n = some s := by
  rw [h.visibleState_intact hp]
  have put : ∀ {w₀ : Bench K V} {s : HandlerState}, Alike (w₀.setState n s) w' → w₀.handlers = w.handlers →
      w'.stateOf n = some s := fun ha hw =>
    (Bench.stateOf_alike ha n).trans (Bench.stateOf_setState (hw ▸ hh) hp _)
  cases t with
  | same i w' ha =>
    refine Or.inr (Or.inl ?_)
    rw [Bench.stateOf_alike ha, Bench.stateOf, hh, Option.map_some, h.visibleState_intact hp]
  | spoiled i w' ha =>
    refine Or.inl ⟨{ h with state := h.state.poison }, ?_, rfl⟩
    rw [ha.handlers]
    simp [Bench.poisonState, Bench.poisonActive, Bench.onHandler, Bench.onConsumer, hh]
  | began credits w' opened idle usable ha =>
    have hcreated : h.state.value = .created := by
      cases hv : h.state.value with
      | created => rfl
      | consuming => simp [idle, hv] at hs
      | closed => exact absurd hv opened
    rw [hcreated]
    exact Or.inr (Or.inr ⟨_, .begins credits, put ha rfl⟩)
  | ended a w' active ha =>
    have hconsuming : h.state.value = .consuming := hs.2 (by simp [active])
    rw [hconsuming]
    exact Or.inr (Or.inr ⟨_, .ends, put ha rfl⟩)
  | stopped a w' active ha =>
    have hconsuming : h.state.value = .consuming := hs.2 (by simp [active])
    exact Or.inr (Or.inr ⟨_, .shuts _ (by simp [hconsuming]), put ha rfl⟩)
  | closed w' idle ha =>
    by_cases hclosed : h.state.value = .closed
    · exact Or.inr (Or.inl (hclosed ▸ put ha rfl))
    · exact Or.inr (Or.inr ⟨_, .shuts _ hclosed, put ha rfl⟩)

end Turnout

namespace Bench

variable [DecidableEq K] [Debug K] {made : List (Nat × ConsumerTag)} {w w' : Bench K V} {n : Nat}
  {h : Handler K V} {x : Consumer}

theorem Life.tied (life : Life made w) (ok : Intact w n h x) :
    h.consumer = n ∧ Tied made w.broker n h x := by
  obtain ⟨log, run⟩ := life.run
  have hn := run.numbered ok.handler
  exact ⟨hn, life.kept.tied_at ok.handler (hn ▸ ok.consumer)⟩

theorem Life.move (life : Life made w) (ok : Intact w n h x) (i : Incident K V) :
    (w.after i).Spoiled n ∨ (w.after i).stateOf n = some h.visibleState ∨
      ∃ wish s, i = .asked n wish ∧ Passage wish h.visibleState s ∧ (w.after i).stateOf n = some s := by
  obtain ⟨log, run⟩ := life.run
  obtain ⟨hn, tied⟩ := life.tied ok
  have stays : (w.after i).handlers[n]? = w.handlers[n]? → (w.after i).stateOf n = some h.visibleState := by
    intro hs
    rw [stateOf, hs, ok.handler, Option.map_some]
  cases i with
  | befell d whole =>
    refine Or.inr (Or.inl (stays ?_))
    rcases run.whole_cases d whole with ha | ⟨p, rfl⟩ | ⟨c, rfl⟩
    · exact congrArg (·[n]?) ha.handlers
    · rcases build_cases w p with hw | ⟨g, y, hg, -⟩
      · exact congrArg (·.handlers[n]?) hw
      · exact (congrArg (·[n]?) hg).trans
          (List.getElem?_append_left (List.getElem?_eq_some_iff.1 ok.handler).1)
    · rfl
  | asked m wish =>
    by_cases hm : m = n
    · subst hm
      have t := turnout run ok.handler hn (hn ▸ ok.consumer) wish
      rcases t.move ok.handler ok.state tied.state with hs | hs | ⟨s, hmove, hs⟩
      · exact Or.inl hs
      · exact Or.inr (Or.inl hs)
      · exact Or.inr (Or.inr ⟨wish, s, rfl, hmove, hs⟩)
    · refine Or.inr (Or.inl (stays ?_))
      cases hg : w.handlers[m]? with
      | none => rw [after, request_unknown hg]
      | some g =>
        obtain ⟨y, hy, -⟩ := life.kept.tied m g hg
        exact (turnout run hg (run.numbered hg) hy wish).handlers_ne hm

/-! What the calls of an intact handler come to when they succeed. -/

theorem Life.consumed (life : Life made w) (ok : Intact w n h x) {credits : Option Nat} {a : Handle}
    (hr : w.consume n credits = (.ok a, w')) : h.visibleState = .created ∧
      w'.stateOf n = some .consuming ∧ w'.activeHandle h.consumer = .ok (some a) := by
  obtain ⟨-, tied⟩ := life.tied ok
  obtain ⟨opened, idle, -, rfl, ha⟩ := (consume_comes ok.handler ok.consumer credits).success hr
  refine ⟨?_, (stateOf_alike ha n).trans (stateOf_setState ok.handler ok.state _),
    (activeHandle_alike ha _).trans (activeHandle_setActive ok.consumer ok.active _)⟩
  rw [h.visibleState_intact ok.state]
  cases hv : h.state.value with
  | created => rfl
  | consuming => simpa [idle] using tied.state.1 hv
  | closed => exact absurd hv opened

theorem Life.cancelled (life : Life made w) (ok : Intact w n h x)
    (hr : w.handlerCancel n = (.ok (), w')) : h.visibleState = .consuming ∧
      w'.stateOf n = some .created ∧ w'.activeHandle h.consumer = .ok none := by
  obtain ⟨log, run⟩ := life.run
  obtain ⟨-, tied⟩ := life.tied ok
  obtain ⟨a, active, ha⟩ := (handlerCancel_comes ok.handler ok.consumer run).success hr
  refine ⟨?_, (stateOf_alike ha n).trans (stateOf_setState ok.handler ok.state _),
    (activeHandle_alike ha _).trans (activeHandle_setActive ok.consumer ok.active _)⟩
  rw [h.visibleState_intact ok.state, tied.state, active]
  rfl

theorem Life.closed (life : Life made w) (ok : Intact w n h x) (hr : w.handlerClose n = (.ok (), w')) :
    w'.stateOf n = some .closed ∧ w'.activeHandle h.consumer = .ok none := by
  obtain ⟨log, run⟩ := life.run
  obtain ⟨-, tied⟩ := life.tied ok
  rcases (handlerClose_comes ok.handler ok.consumer run).success hr with
    ⟨hclosed, ha⟩ | ⟨idle, ha⟩ | ⟨a, active, ha⟩
  · have idle : x.active.value = none := tied.idle (by simp [hclosed])
    refine ⟨(stateOf_alike ha n).trans ?_, (activeHandle_alike ha _).trans ?_⟩
    · rw [stateOf, ok.handler, Option.map_some, h.visibleState_intact ok.state, hclosed]
    · rw [activeHandle_of ok.consumer ok.active, idle]
  · refine ⟨(stateOf_alike ha n).trans (stateOf_setState ok.handler ok.state _),
      (activeHandle_alike ha _).trans ?_⟩
    exact idle ▸ activeHandle_of (w := w.setState n .closed) ok.consumer ok.active
  · exact ⟨(stateOf_alike ha n).trans (stateOf_setState ok.handler ok.state _),
      (activeHandle_alike ha _).trans (activeHandle_setActive ok.consumer ok.active _)⟩

/-! When they do. -/

theorem Life.begins (life : Life made w) (ok : Intact w n h x) (hs : h.visibleState = .created)
    (hu : w.broker.usable h.channel = .ok ()) (hq : w.broker.hasQueue h.queue = true)
    (hf : w.faults.get? (h.channel, .subscribe) = none) (startable : w.unstarted = none) (credits : Option Nat) :
    ∃ a w', w.consume n credits = (.ok a, w') := by
  obtain ⟨-, tied⟩ := life.tied ok
  rw [h.visibleState_intact ok.state] at hs
  have idle : x.active.value = none := tied.idle (by simp [hs])
  obtain ⟨a, w', hr⟩ := start_ok ok.consumer ok.active idle (tied.channel ▸ hu) hq (tied.channel ▸ hf)
    startable h.decoder h.key h.policy credits
  refine ⟨a, w'.setState n .consuming, ?_⟩
  unfold consume
  simp only [ok.handler, Handler.takeOpen_intact ok.state (by simp [hs])]
  rw [hr]
  rfl

theorem Life.served (life : Life made w) (ok : Intact w n h x) {a : Handle}
    (active : x.active.value = some a) (hopen : w.broker.isClosed h.channel = false) :
    ∃ s, w.broker.subscription? a.tag = some s ∧ s.channel = x.channel := by
  obtain ⟨log, run⟩ := life.run
  obtain ⟨-, tied⟩ := life.tied ok
  obtain ⟨s, hown, ht, -, hc, -⟩ := tied.subscription active hopen
  have hs : s ∈ w.broker.subscriptions := (List.mem_filter.1 (hown ▸ List.mem_singleton_self s)).1
  exact ⟨s, ht ▸ run.sound.subscription?_of_mem hs, hc.trans tied.channel.symm⟩

theorem Life.ends (life : Life made w) (ok : Intact w n h x) (hs : h.visibleState = .consuming)
    (hu : w.broker.usable h.channel = .ok ()) (hf : w.faults.get? (h.channel, .unsubscribe) = none) :
    ∃ w', w.handlerCancel n = (.ok (), w') := by
  obtain ⟨-, tied⟩ := life.tied ok
  rw [h.visibleState_intact ok.state] at hs
  obtain ⟨a, active⟩ := Option.isSome_iff_exists.1 (tied.state.1 hs)
  have ht : x.active.take QueueError.synchronisation = .ok (some a) := by
    simp [Lock.take, ok.active, active]
  have hach : a.channel = x.channel := (tied.handle a active).1.trans tied.channel.symm
  obtain ⟨s, hsub, hsc⟩ := life.served ok active (Broker.open_of_usable hu)
  obtain ⟨w', hr⟩ := release_ok (n := h.consumer)
    (w := w.note (.debug ("cancelling consumer " ++ a.tag.text ++ " on " ++ a.queue)))
    (tied.channel ▸ hu) hsub hsc (tied.channel ▸ hf)
  refine ⟨w'.setState n .created, ?_⟩
  unfold handlerCancel cancel
  simp only [ok.handler, Handler.takeOpen_intact ok.state (by simp [hs]),
    activeHandle_of ok.consumer ok.active, active, ok.consumer, ht, hach]
  simp only [ne_eq, not_true_eq_false, if_false]
  rw [hr]
  rfl

/-- How a handler stands with its consumer and the broker, and where it can go from there. -/
structure Lifecycle (made : List (Nat × ConsumerTag)) (w : Bench K V) (n : Nat) (h : Handler K V)
    (x : Consumer) : Prop where
  consuming : h.visibleState = .consuming ↔ ∃ a, w.activeHandle h.consumer = .ok (some a)
  held : w.broker.isClosed h.channel = false → ∀ a, w.activeHandle h.consumer = .ok (some a) →
    ∃ s, w.broker.ownSubscriptions made n = [s] ∧ s.tag = a.tag ∧ s.queue = h.queue ∧
      s.channel = h.channel ∧ s.prefetch = x.prefetch
  bare : h.visibleState ≠ .consuming → w.broker.ownSubscriptions made n = []
  moves : ∀ i : Incident K V, (w.after i).Spoiled n ∨ (w.after i).stateOf n = some h.visibleState ∨
    ∃ wish s, i = .asked n wish ∧ Passage wish h.visibleState s ∧ (w.after i).stateOf n = some s
  consumed : ∀ credits a w', w.consume n credits = (.ok a, w') → h.visibleState = .created ∧
    w'.stateOf n = some .consuming ∧ w'.activeHandle h.consumer = .ok (some a)
  cancelled : ∀ w', w.handlerCancel n = (.ok (), w') → h.visibleState = .consuming ∧
    w'.stateOf n = some .created ∧ w'.activeHandle h.consumer = .ok none
  closed : ∀ w', w.handlerClose n = (.ok (), w') →
    w'.stateOf n = some .closed ∧ w'.activeHandle h.consumer = .ok none
  begins : h.visibleState = .created → w.broker.usable h.channel = .ok () →
    w.broker.hasQueue h.queue = true → w.faults.get? (h.channel, .subscribe) = none → w.unstarted = none →
    ∀ credits, ∃ a w', w.consume n credits = (.ok a, w')
  ends : h.visibleState = .consuming → w.broker.usable h.channel = .ok () →
    w.faults.get? (h.channel, .unsubscribe) = none → ∃ w', w.handlerCancel n = (.ok (), w')
  /-- Once closed, it stays so, whatever is asked of it. -/
  rests : h.visibleState = .closed →
    (∀ credits, w.consume n credits = (.error (h.closedFor "consume"), w)) ∧
    (∀ batch schedule, w.handlerPublish n batch schedule = (.error (h.closedFor "publish"), w)) ∧
    w.handlerCancel n = (.error (h.closedFor "cancel"), w) ∧ w.handlerClose n = (.ok (), w)
  failed : (∀ credits e w', w.consume n credits = (.error e, w') → Unmoved w w') ∧
    (∀ e w', w.handlerCancel n = (.error e, w') → Unmoved w w') ∧
    ∀ e w', w.handlerClose n = (.error e, w') → Unmoved w w'
  /-- In every state it can be read what was received, and nothing makes that less. -/
  reads : w.handlerStats n = x.stats ∧ ∃ log, Run log w ∧ w.received n = Store.ofPuts (putsInto n log) ∧
    ∀ i : Incident K V, ∃ more, Run (log ++ more) (w.after i) ∧
      (w.after i).received n = Store.ofPuts (putsInto n log ++ putsInto n more)

theorem Intact.rests (ok : Intact w n h x) (hs : h.visibleState = .closed) :
    (∀ credits, w.consume n credits = (.error (h.closedFor "consume"), w)) ∧
    (∀ batch schedule, w.handlerPublish n batch schedule = (.error (h.closedFor "publish"), w)) ∧
    w.handlerCancel n = (.error (h.closedFor "cancel"), w) ∧ w.handlerClose n = (.ok (), w) := by
  rw [h.visibleState_intact ok.state] at hs
  have ht : h.state.take QueueError.synchronisation = .ok .closed := by simp [Lock.take, ok.state, hs]
  refine ⟨fun credits => ?_, fun batch schedule => ?_, ?_, ?_⟩
  · simp only [consume, ok.handler, Handler.takeOpen_closed ok.state hs]
  · simp only [handlerPublish, ok.handler, Handler.takeOpen_closed ok.state hs]
  · simp only [handlerCancel, ok.handler, Handler.takeOpen_closed ok.state hs]
  · simp only [handlerClose, ok.handler, ht]

theorem Life.reads (life : Life made w) (ok : Intact w n h x) :
    w.handlerStats n = x.stats ∧ ∃ log, Run log w ∧ w.received n = Store.ofPuts (putsInto n log) ∧
      ∀ i : Incident K V, ∃ more, Run (log ++ more) (w.after i) ∧
        (w.after i).received n = Store.ofPuts (putsInto n log ++ putsInto n more) := by
  obtain ⟨log, run⟩ := life.run
  have hl : n < w.handlers.length := (List.getElem?_eq_some_iff.1 ok.handler).1
  refine ⟨by simp [handlerStats, statsOf, ok.handler, ok.consumer], log, run,
    received_eq run.invariant.2.2 hl, fun i => ?_⟩
  obtain ⟨more, run'⟩ := run.leads (leads_after w i)
  obtain ⟨h', hh'⟩ : ∃ h', (w.after i).handlers[n]? = some h' := by
    rcases life.move ok i with ⟨h', hh', -⟩ | hs | ⟨-, s, -, -, hs⟩
    · exact ⟨h', hh'⟩
    · exact (Option.map_eq_some_iff.1 hs).imp fun _ hh' => hh'.1
    · exact (Option.map_eq_some_iff.1 hs).imp fun _ hh' => hh'.1
  have hl' := (List.getElem?_eq_some_iff.1 hh').1
  exact ⟨more, run', by rw [received_eq run'.invariant.2.2 hl', putsInto_append]⟩

/-- In whatever order handlers consume, publish, cancel and close, each call succeeding or failing, among
disconnections, reconnections, deliveries and all else that may happen, a handler consumes exactly when
its consumer has a handle, and of what it made the broker has just the subscription of that handle. -/
theorem lifecycle (life : Life made w) (ok : Intact w n h x) : Lifecycle made w n h x := by
  obtain ⟨log, run⟩ := life.run
  obtain ⟨-, tied⟩ := life.tied ok
  have hv := h.visibleState_intact ok.state
  have ha := activeHandle_of ok.consumer ok.active
  refine ⟨?_, fun hopen a hact => ?_, fun hs => ?_, life.move ok, fun _ _ _ => life.consumed ok,
    fun _ => life.cancelled ok, fun _ => life.closed ok, life.begins ok, life.ends ok, ok.rests,
    ⟨fun credits e w' hr => ?_, fun e w' hr => ?_, fun e w' hr => ?_⟩, life.reads ok⟩
  · rw [hv, tied.state, ha, Option.isSome_iff_exists]
    simp only [Except.ok.injEq]
  · rw [ha] at hact
    exact tied.subscription (Except.ok.inj hact) hopen
  · refine tied.none_own ?_
    rw [Consumer.due, tied.idle (hv ▸ hs)]
  · exact (consume_comes ok.handler ok.consumer credits).unmoved hr
  · exact (handlerCancel_comes ok.handler ok.consumer run).unmoved hr
  · exact (handlerClose_comes ok.handler ok.consumer run).unmoved hr

/-- A cancel fails without a connection, and the subscription goes on; the next one ends it. -/
theorem lifecycle_resumed : ∃ (made : List (Nat × ConsumerTag)) (w : Bench String Bytes)
    (h : Handler String Bytes) (x : Consumer), Lifecycle made w 0 h x ∧ h.visibleState = .consuming ∧
    made = [(0, Broker.consumerTag 1), (0, Broker.consumerTag 2)] ∧
    w.broker.ownSubscriptions made 0 =
      [{ tag := Broker.consumerTag 2, queue := "jobs", channel := ⟨1⟩, prefetch := 16 }] := by
  have life := Life.nil (K := String) (V := Bytes) |>.snoc (.befell .openChannel rfl)
    |>.snoc (.befell (.declare "jobs") rfl) |>.snoc (.befell (.build (jobsPlan ⟨1⟩ .requeue)) rfl)
    |>.snoc (.asked 0 (.consume none)) |>.snoc (.befell (.connect false) rfl) |>.snoc (.asked 0 .cancel)
    |>.snoc (.befell (.connect true) rfl) |>.snoc (.asked 0 .cancel) |>.snoc (.asked 0 (.consume none))
  refine ⟨_, _, _, _, lifecycle life ⟨rfl, rfl, rfl, rfl⟩, rfl, ?_, ?_⟩ <;> decide +kernel

end Bench
end QueueProbe
