import QueueProbe.Proofs.Handler.Alike

/-! What a call of a handler comes to. It fails and leaves everything in its place, or a panic spoils
the locks that were held, or it does one thing: consuming adds a subscription to the broker and a
handle to the consumer, cancelling and closing take both away. The rest of the bench is `Alike`.
`Turnout` has all of this for the call as a whole. -/

namespace QueueProbe

variable {K V : Type}

/-- A failed call leaves handlers, consumers, subscriptions and bodies as they were. -/
structure Unmoved (w w' : Bench K V) : Prop where
  handlers : w'.handlers = w.handlers
  consumers : w'.consumers = w.consumers
  subscriptions : w'.broker.subscriptions = w.broker.subscriptions
  queues : w'.broker.queues = w.broker.queues
  unacked : w'.broker.unacked = w.broker.unacked
  closed : w'.broker.closed = w.broker.closed

namespace Unmoved

variable {w w' : Bench K V}

theorem refl (w : Bench K V) : Unmoved w w := ⟨rfl, rfl, rfl, rfl, rfl, rfl⟩

theorem alike (h : Unmoved w w') : Alike w w' where
  terms := by simp only [Broker.terms, h.subscriptions]
  closed := h.closed
  handlers := h.handlers
  desks := by rw [h.consumers]

end Unmoved

/-- What a call made on bench `w` comes to: `spoiled` is the bench after a panic, and `Done` what is so
after a success. -/
inductive Comes {α : Type} (w spoiled : Bench K V) (Done : α → Bench K V → Prop) :
    Outcome QueueError α × Bench K V → Prop where
  | failed (e : QueueError) (w' : Bench K V) (h : Unmoved w w') : Comes w spoiled Done (.error e, w')
  | crashed (p : Panic) (w' : Bench K V) (h : Alike spoiled w') : Comes w spoiled Done (.panic p, w')
  | done (a : α) (w' : Bench K V) (h : Done a w') : Comes w spoiled Done (.ok a, w')

namespace Comes

variable {α : Type} {w spoiled : Bench K V} {Done Done' : α → Bench K V → Prop}
  {r : Outcome QueueError α × Bench K V}

theorem imp (h : Comes w spoiled Done r) (hd : ∀ a w', Done a w' → Done' a w') :
    Comes w spoiled Done' r := by
  cases h with
  | failed e w' h => exact .failed e w' h
  | crashed p w' h => exact .crashed p w' h
  | done a w' h => exact .done a w' (hd a w' h)

theorem unmoved (h : Comes w spoiled Done r) {e : QueueError} {w' : Bench K V} (hr : r = (.error e, w')) :
    Unmoved w w' := by
  cases h with
  | failed e w' h => cases hr; exact h
  | crashed p w' h => cases hr
  | done a w' h => cases hr

theorem success (h : Comes w spoiled Done r) {a : α} {w' : Bench K V} (hr : r = (.ok a, w')) : Done a w' := by
  cases h with
  | failed e w' h => cases hr
  | crashed p w' h => cases hr
  | done a w' h => cases hr; exact h

theorem bench (h : Comes w spoiled Done r) : Alike w r.2 ∨ Alike spoiled r.2 ∨ ∃ a, Done a r.2 := by
  cases h with
  | failed e w' h => exact Or.inl h.alike
  | crashed p w' h => exact Or.inr (Or.inl h)
  | done a w' h => exact Or.inr (Or.inr ⟨a, h⟩)

theorem noted {m : Note} {n : Nat} (h : Comes (w.note m) ((w.note m).poisonActive n) Done r) :
    Comes w (w.poisonActive n) Done r := by
  cases h with
  | failed e w' h =>
    exact .failed e w' ⟨h.handlers, h.consumers, h.subscriptions, h.queues, h.unacked, h.closed⟩
  | crashed p w' h => exact .crashed p w' ⟨h.terms, h.closed, h.handlers, h.desks⟩
  | done a w' h => exact .done a w' h

end Comes

namespace Alike

variable {w w' : Bench K V}

theorem onHandler (h : Alike w w') (n : Nat) (f : Handler K V → Handler K V) :
    Alike (w.onHandler n f) (w'.onHandler n f) :=
  ⟨h.terms, h.closed, by simp only [Bench.onHandler, h.handlers], h.desks⟩

theorem desks_onActive (w : Bench K V) (n : Nat) (f : Lock (Option Handle) → Lock (Option Handle)) :
    (w.onConsumer n fun x => { x with active := f x.active }).consumers.map Consumer.desk =
      (w.consumers.map Consumer.desk).modify n fun x => { x with active := f x.active } := by
  refine List.ext_getElem? fun i => ?_
  simp only [Bench.onConsumer, List.getElem?_map, List.getElem?_modify]
  cases w.consumers[i]? with
  | none => rfl
  | some x => by_cases hn : n = i <;> simp [hn, Consumer.desk]

theorem onActive (h : Alike w w') (n : Nat) (f : Lock (Option Handle) → Lock (Option Handle)) :
    Alike (w.onConsumer n fun x => { x with active := f x.active })
      (w'.onConsumer n fun x => { x with active := f x.active }) :=
  ⟨h.terms, h.closed, h.handlers, by rw [desks_onActive, desks_onActive, h.desks]⟩

end Alike

/-- A call under the lock of a handler also sets its state, or spoils that lock too. -/
theorem Comes.underLock {α : Type} {w spoiled : Bench K V} {Done : α → Bench K V → Prop}
    {r : Outcome QueueError α × Bench K V} (h : Comes w spoiled Done r) (n : Nat) (s : HandlerState) :
    Comes w (spoiled.poisonState n) (fun a w' => ∃ x, Done a x ∧ w' = x.setState n s)
      (Bench.underLock n s r) := by
  cases h with
  | failed e w' h => exact .failed e w' h
  | crashed p w' h => exact .crashed p _ (h.onHandler n _)
  | done a w' h => exact .done a _ ⟨w', h, rfl⟩

namespace Bench

variable {w : Bench K V}

theorem through_ok {α : Type} {c : ChannelId} {call : Call} {run : Broker → Broker.Answer α}
    {a : Broker.Answer α} (hf : w.faults.get? (c, call) = none) (hr : run w.broker = a) :
    w.through c call run = (.ofExcept a.1, { w with broker := a.2 }) := by
  unfold through
  rw [hf, ← hr]

theorem leave_cases (w : Bench K V) (c : ChannelId) (t : ConsumerTag) :
    (∃ s, w.broker.usable c = .ok () ∧ w.broker.subscription? t = some s ∧ s.channel = c ∧
      w.leave c t = (.ok (), { w with broker := w.broker.left t })) ∨
    (∃ e, w.leave c t = (.error e, w)) ∨ ∃ p, w.leave c t = (.panic p, w) := by
  unfold leave
  cases hf : w.faults.get? (c, .unsubscribe) with
  | some f =>
    unfold through
    cases f with
    | refuse => exact Or.inr (Or.inl ⟨_, by rw [hf]⟩)
    | crash => exact Or.inr (Or.inr ⟨_, by rw [hf]⟩)
  | none =>
    rcases w.broker.unsubscribe_cases c t with ⟨s, hu, hs, hc, h⟩ | ⟨e, h⟩
    · exact Or.inl ⟨s, hu, hs, hc, by rw [through_ok hf h]; rfl⟩
    · exact Or.inr (Or.inl ⟨e, by rw [through_ok hf h]; rfl⟩)

theorem subscribe_turnout (w : Bench K V) (c : ChannelId) (q : String) (prefetch : Nat) (duty : Duty K V)
    (credits : Option Nat) :
    (∃ w', w.broker.usable c = .ok () ∧
      w.subscribe c q prefetch duty credits = (.ok (Broker.consumerTag w.broker.nextConsumer), w') ∧
      Alike { w with broker := w.broker.joined c q prefetch } w') ∨
    (∃ e w', w.subscribe c q prefetch duty credits = (.error e, w') ∧ Unmoved w w') ∨
    ∃ p, w.subscribe c q prefetch duty credits = (.panic p, w) := by
  unfold subscribe
  cases hf : w.faults.get? (c, .subscribe) with
  | some f =>
    unfold through
    cases f with
    | refuse => exact Or.inr (Or.inl ⟨_, w, by rw [hf], .refl w⟩)
    | crash => exact Or.inr (Or.inr ⟨_, by rw [hf]⟩)
  | none =>
    rcases w.broker.subscribe_cases c q prefetch w.unstarted with ⟨hu, -, -, h⟩ | ⟨e, k, h⟩
    · rw [through_ok hf h]
      exact Or.inl ⟨_, hu, rfl, rfl, rfl, rfl, rfl⟩
    · rw [through_ok hf h]
      exact Or.inr (Or.inl ⟨e, _, rfl, rfl, rfl, rfl, rfl, rfl, rfl⟩)

variable [DecidableEq K] [Debug K] {log : List (Entry K V)} {n : Nat} {h : Handler K V} {x : Consumer}

omit [DecidableEq K] [Debug K] in
theorem take_ok {α : Type} {l : Lock α} {refuse : String → QueueError} {a : α}
    (h : l.take refuse = .ok a) : l.value = a := by
  unfold Lock.take at h
  split at h
  · cases h
  · exact Except.ok.inj h

def started (w : Bench K V) (n : Nat) (x : Consumer) (q : String) : Bench K V :=
  { w with broker := w.broker.joined x.channel q x.prefetch }.setActive n
    (some ⟨Broker.consumerTag w.broker.nextConsumer, x.channel, q⟩)

def stopped (w : Bench K V) (n : Nat) (a : Handle) : Bench K V :=
  { w with broker := w.broker.left a.tag }.setActive n none

omit [DecidableEq K] [Debug K] in
theorem start_comes (hx : w.consumers[n]? = some x) (q : String) (decoder : Decoder V) (key : KeyFn K V)
    (policy : FailurePolicy) (credits : Option Nat) :
    Comes w (w.poisonActive n) (fun a w' => x.active.value = none ∧ w.broker.usable x.channel = .ok () ∧
      a = ⟨Broker.consumerTag w.broker.nextConsumer, x.channel, q⟩ ∧ Alike (w.started n x q) w')
      (w.start n q decoder key policy credits) := by
  unfold start
  simp only [hx]
  cases ht : x.active.take QueueError.synchronisation with
  | error e => exact .failed e w (.refl w)
  | ok active =>
    cases active with
    | some a => exact .failed _ w (.refl w)
    | none =>
      dsimp only
      have hnone := take_ok ht
      rcases (w.note _).subscribe_turnout x.channel q x.prefetch (.filing ⟨n, q, decoder, key, policy⟩)
        credits with ⟨w', hu, hs, hw⟩ | ⟨e, w', hs, hw⟩ | ⟨p, hs⟩
      · rw [hs]
        have begun := hw.onActive n (·.put (some ⟨Broker.consumerTag w.broker.nextConsumer, x.channel, q⟩))
        exact .done _ _ ⟨hnone, hu, rfl, begun.terms, begun.closed, begun.handlers, begun.desks⟩
      · rw [hs]
        exact .failed _ _ ⟨hw.handlers, hw.consumers, hw.subscriptions, hw.queues, hw.unacked, hw.closed⟩
      · rw [hs]
        exact .crashed _ _ ⟨rfl, rfl, rfl, rfl⟩

/-- Ending a subscription waits for its worker; or it fails, and does nothing. -/
theorem release_cases (w : Bench K V) (n : Nat) (x : Consumer) (a : Handle) :
    (∃ s, w.broker.usable x.channel = .ok () ∧ w.broker.subscription? a.tag = some s ∧
      s.channel = x.channel ∧ w.release n x a =
        (.ok (), ({ w with broker := w.broker.left a.tag }.retire a.tag).setActive n none)) ∨
    (∃ e, w.release n x a = (.error (.ofBroker e), w)) ∨ ∃ p, w.release n x a = (.panic p, w.poisonActive n) := by
  unfold release unsubscribe
  rcases w.leave_cases x.channel a.tag with ⟨s, hu, hs, hc, hl⟩ | ⟨e, hl⟩ | ⟨p, hl⟩ <;> rw [hl]
  · exact Or.inl ⟨s, hu, hs, hc, rfl⟩
  · exact Or.inr (Or.inl ⟨e, rfl⟩)
  · exact Or.inr (Or.inr ⟨p, rfl⟩)

theorem release_comes (staffed : w.scene.strangers = []) (n : Nat) (x : Consumer) (a : Handle) :
    Comes w (w.poisonActive n) (fun _ w' => Alike (w.stopped n a) w') (w.release n x a) := by
  rcases w.release_cases n x a with ⟨s, -, -, -, hr⟩ | ⟨e, hr⟩ | ⟨p, hr⟩ <;> rw [hr]
  · have retired := alike_retire (w := { w with broker := w.broker.left a.tag }) staffed a.tag
    exact .done _ _ (retired.onActive n (·.put none))
  · exact .failed _ _ (.refl w)
  · exact .crashed _ _ (.refl _)

/-- A cancel is let through with the handle of the running subscription; any other is refused, and so is every
one once the lock is poisoned. -/
theorem cancel_cases (hx : w.consumers[n]? = some x) (a : Handle) :
    (x.active = ⟨some a, false⟩ ∧ a.channel = x.channel ∧ w.cancel n a =
      (w.note (.debug ("cancelling consumer " ++ a.tag.text ++ " on " ++ a.queue))).release n x a) ∨
    (x.active.poisoned = false ∧ (x.active.value = some a → a.channel ≠ x.channel) ∧
      ∃ text, w.cancel n a = (.error (.subscriptionState text), w)) ∨
    (x.active.poisoned = true ∧ w.cancel n a = (.error (.synchronisation Lock.poisonText), w)) := by
  unfold cancel
  simp only [hx]
  rcases x.active with ⟨active, poisoned⟩
  cases poisoned with
  | true => exact Or.inr (Or.inr ⟨rfl, rfl⟩)
  | false =>
    cases active with
    | none => exact Or.inr (Or.inl ⟨rfl, nofun, _, rfl⟩)
    | some current =>
      rw [Lock.take, if_neg Bool.false_ne_true]
      dsimp only
      by_cases here : a.channel = x.channel
      · rw [if_neg (not_not.2 here)]
        by_cases same : current = a
        · rw [if_neg (not_not.2 same)]
          exact Or.inl ⟨same ▸ rfl, here, rfl⟩
        · rw [if_pos same]
          exact Or.inr (Or.inl ⟨rfl, fun he => absurd (Option.some.inj he) same, _, rfl⟩)
      · rw [if_pos here]
        exact Or.inr (Or.inl ⟨rfl, fun _ => here, _, rfl⟩)

theorem cancel_comes (staffed : w.scene.strangers = []) (hx : w.consumers[n]? = some x) (a : Handle) :
    Comes w (w.poisonActive n) (fun _ w' => x.active.value = some a ∧ Alike (w.stopped n a) w')
      (w.cancel n a) := by
  rcases cancel_cases hx a with ⟨mine, -, hc⟩ | ⟨-, -, text, hc⟩ | ⟨-, hc⟩ <;> rw [hc]
  · refine (release_comes (w := w.note _) staffed n x a).noted.imp fun _ w' h => ?_
    exact ⟨by rw [mine], h.terms, h.closed, h.handlers, h.desks⟩
  · exact .failed _ w (.refl w)
  · exact .failed _ w (.refl w)

theorem close_cases (hx : w.consumers[n]? = some x) :
    (∃ a, x.active.value = some a ∧ w.close n =
      (w.note (.debug ("closing consumer " ++ a.tag.text ++ " on " ++ a.queue))).release n x a) ∨
    (x.active.value = none ∧ w.close n = (.ok (), w)) ∨ ∃ e, w.close n = (.error e, w) := by
  unfold close
  simp only [hx]
  cases ht : x.active.take QueueError.synchronisation with
  | error e => exact Or.inr (Or.inr ⟨e, rfl⟩)
  | ok active =>
    cases active with
    | none => exact Or.inr (Or.inl ⟨take_ok ht, rfl⟩)
    | some a => exact Or.inl ⟨a, take_ok ht, rfl⟩

theorem close_comes (staffed : w.scene.strangers = []) (hx : w.consumers[n]? = some x) :
    Comes w (w.poisonActive n) (fun _ w' => (x.active.value = none ∧ Alike w w') ∨
      ∃ a, x.active.value = some a ∧ Alike (w.stopped n a) w') (w.close n) := by
  rcases close_cases hx with ⟨a, active, hc⟩ | ⟨idle, hc⟩ | ⟨e, hc⟩ <;> rw [hc]
  · refine (release_comes (w := w.note _) staffed n x a).noted.imp fun _ w' h => Or.inr ?_
    exact ⟨a, active, h.terms, h.closed, h.handlers, h.desks⟩
  · exact .done _ w (Or.inl ⟨idle, .refl w⟩)
  · exact .failed e w (.refl w)

omit [DecidableEq K] [Debug K] in
theorem takeOpen_ok {operation : String} {s : HandlerState} (hs : h.takeOpen operation = .ok s) :
    h.state.value ≠ .closed := by
  unfold Handler.takeOpen at hs
  split at hs
  · cases hs
  · cases hs
  · next hc hk => exact take_ok hk ▸ fun he => hc he

/-! Calls of a handler. -/

section Calls

variable (hh : w.handlers[n]? = some h) (hx : w.consumers[h.consumer]? = some x)

include hh hx

omit [DecidableEq K] [Debug K] in
theorem consume_comes (credits : Option Nat) : Comes w ((w.poisonActive h.consumer).poisonState n)
    (fun a w' => h.state.value ≠ .closed ∧ x.active.value = none ∧ w.broker.usable x.channel = .ok () ∧
      a = ⟨Broker.consumerTag w.broker.nextConsumer, x.channel, h.queue⟩ ∧
      Alike ((w.started h.consumer x h.queue).setState n .consuming) w') (w.consume n credits) := by
  unfold consume
  simp only [hh]
  cases ho : h.takeOpen "consume" with
  | error e => exact .failed e w (.refl w)
  | ok s =>
    refine ((start_comes hx h.queue h.decoder h.key h.policy credits).underLock n .consuming).imp ?_
    rintro a _ ⟨w', ⟨hnone, hu, ha, hw⟩, rfl⟩
    exact ⟨takeOpen_ok ho, hnone, hu, ha, hw.onHandler n _⟩

theorem handlerCancel_comes (run : Run log w) : Comes w ((w.poisonActive h.consumer).poisonState n)
    (fun _ w' => ∃ a, x.active.value = some a ∧
      Alike ((w.stopped h.consumer a).setState n .created) w') (w.handlerCancel n) := by
  unfold handlerCancel
  simp only [hh]
  cases h.takeOpen "cancel" with
  | error e => exact .failed e w (.refl w)
  | ok s =>
    dsimp only
    cases w.activeHandle h.consumer with
    | error e => exact .failed e w (.refl w)
    | ok active =>
      cases active with
      | none => exact .failed _ w (.refl w)
      | some a =>
        refine ((cancel_comes run.strangers hx a).underLock n .created).imp ?_
        rintro _ _ ⟨w', ⟨ha, hw⟩, rfl⟩
        exact ⟨a, ha, hw.onHandler n _⟩

theorem handlerClose_comes (run : Run log w) : Comes w ((w.poisonActive h.consumer).poisonState n)
    (fun _ w' => (h.state.value = .closed ∧ Alike w w') ∨
      (x.active.value = none ∧ Alike (w.setState n .closed) w') ∨
      ∃ a, x.active.value = some a ∧ Alike ((w.stopped h.consumer a).setState n .closed) w')
    (w.handlerClose n) := by
  unfold handlerClose
  simp only [hh]
  cases ht : h.state.take QueueError.synchronisation with
  | error e => exact .failed e w (.refl w)
  | ok s =>
    cases s with
    | closed => exact .done () w (Or.inl ⟨take_ok ht, .refl w⟩)
    | created | consuming =>
      refine ((close_comes (w := w.note _) run.strangers hx).noted.underLock n .closed).imp ?_
      rintro _ _ ⟨w', ⟨hnone, hw⟩ | ⟨a, ha, hw⟩, rfl⟩
      · have hset := hw.onHandler n fun h => { h with state := h.state.put .closed }
        exact Or.inr (Or.inl ⟨hnone, hset.terms, hset.closed, hset.handlers, hset.desks⟩)
      · have hset := hw.onHandler n fun h => { h with state := h.state.put .closed }
        exact Or.inr (Or.inr ⟨a, ha, hset.terms, hset.closed, hset.handlers, hset.desks⟩)

end Calls

omit [DecidableEq K] [Debug K] in
theorem alike_handlerPublish (w : Bench K V) (n : Nat) (batch : List (Message V)) (schedule : List Nat) :
    Alike w (w.handlerPublish n batch schedule).2 := by
  unfold handlerPublish
  split
  · exact .refl w
  · split
    · exact .refl w
    · exact alike_publish w _ _ batch schedule

end Bench

/-- What is asked of a handler in use. -/
inductive Wish (V : Type) where
  | consume (credits : Option Nat)
  | publish (batch : List (Message V)) (schedule : List Nat)
  | cancel
  | close

def Wish.of (n : Nat) : Wish V → Request K V
  | .consume credits => .consume n credits
  | .publish batch schedule => .publish n batch schedule
  | .cancel => .cancel n
  | .close => .close n

/-- All that a call of handler `n`, with consumer `x` of the same number, can do. -/
inductive Turnout (w : Bench K V) (n : Nat) (h : Handler K V) (x : Consumer) :
    Wish V → Bench K V → Prop where
  | same (i : Wish V) (w' : Bench K V) (alike : Alike w w') : Turnout w n h x i w'
  | spoiled (i : Wish V) (w' : Bench K V) (alike : Alike ((w.poisonActive n).poisonState n) w') :
      Turnout w n h x i w'
  | began (credits : Option Nat) (w' : Bench K V) (opened : h.state.value ≠ .closed)
      (idle : x.active.value = none) (usable : w.broker.usable x.channel = .ok ())
      (alike : Alike ((w.started n x h.queue).setState n .consuming) w') :
      Turnout w n h x (.consume credits) w'
  | ended (a : Handle) (w' : Bench K V) (active : x.active.value = some a)
      (alike : Alike ((w.stopped n a).setState n .created) w') : Turnout w n h x .cancel w'
  | closed (w' : Bench K V) (idle : x.active.value = none) (alike : Alike (w.setState n .closed) w') :
      Turnout w n h x .close w'
  | stopped (a : Handle) (w' : Bench K V) (active : x.active.value = some a)
      (alike : Alike ((w.stopped n a).setState n .closed) w') : Turnout w n h x .close w'

theorem turnout [DecidableEq K] [Debug K] {w : Bench K V} {log : List (Entry K V)} {n : Nat}
    {h : Handler K V} {x : Consumer} (run : Bench.Run log w) (hh : w.handlers[n]? = some h)
    (hn : h.consumer = n) (hx : w.consumers[n]? = some x) (i : Wish V) :
    Turnout w n h x i (w.request (i.of n)) := by
  subst hn
  cases i with
  | consume credits =>
    rcases (Bench.consume_comes hh hx credits).bench with hw | hw | ⟨a, hs, ha, hu, -, hw⟩
    · exact .same _ _ hw
    · exact .spoiled _ _ hw
    · exact .began credits _ hs ha hu hw
  | publish batch schedule => exact .same _ _ (Bench.alike_handlerPublish w _ batch schedule)
  | cancel =>
    rcases (Bench.handlerCancel_comes hh hx run).bench with hw | hw | ⟨-, a, ha, hw⟩
    · exact .same _ _ hw
    · exact .spoiled _ _ hw
    · exact .ended a _ ha hw
  | close =>
    rcases (Bench.handlerClose_comes hh hx run).bench with
      hw | hw | ⟨-, ⟨-, hw⟩ | ⟨ha, hw⟩ | ⟨a, ha, hw⟩⟩
    · exact .same _ _ hw
    · exact .spoiled _ _ hw
    · exact .same _ _ hw
    · exact .closed _ ha hw
    · exact .stopped a _ ha hw

end QueueProbe
