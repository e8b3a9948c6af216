import QueueProbe.Proofs.Handler.Incidents

/-! What ties a handler, its consumer and the broker together: the state is `consuming` as long as the
consumer has a handle, and of what the handler made the broker has just the subscription of that
handle, or nothing once the channel is closed. Each incident keeps every handler tied. -/

namespace QueueProbe

variable {K V : Type}

theorem Broker.open_of_usable {b : Broker} {c : ChannelId} (hu : b.usable c = .ok ()) :
    b.isClosed c = false := by
  cases hc : b.isClosed c with
  | false => rfl
  | true => simp [usable, hc] at hu

/-- The subscriptions that handler `n` made. -/
def Broker.ownSubscriptions (b : Broker) (made : List (Nat × ConsumerTag)) (n : Nat) : List Subscription :=
  b.subscriptions.filter fun s => (n, s.tag) ∈ made

def Broker.ownTerms (b : Broker) (made : List (Nat × ConsumerTag)) (n : Nat) : List Subscription :=
  b.terms.filter fun s => (n, s.tag) ∈ made

theorem Broker.ownTerms_eq (b : Broker) (made : List (Nat × ConsumerTag)) (n : Nat) :
    b.ownTerms made n = (b.ownSubscriptions made n).map fun s => { s with inFlight := 0 } := by
  simp [ownTerms, terms, ownSubscriptions, List.filter_map, Function.comp_def]

/-- The subscription that goes with a consumer's handle. -/
def Consumer.due (x : Consumer) (b : Broker) : List Subscription :=
  match x.active.value with
  | none => []
  | some a =>
    if b.isClosed a.channel then []
    else [{ tag := a.tag, queue := a.queue, channel := a.channel, prefetch := x.prefetch }]

structure Tied (made : List (Nat × ConsumerTag)) (b : Broker) (n : Nat) (h : Handler K V)
    (x : Consumer) : Prop where
  channel : x.channel = h.channel
  state : h.state.value = .consuming ↔ x.active.value.isSome = true
  handle : ∀ a, x.active.value = some a → a.channel = h.channel ∧ a.queue = h.queue ∧ (n, a.tag) ∈ made
  held : b.ownTerms made n = x.due b

variable {made made' : List (Nat × ConsumerTag)} {b b' : Broker} {n m : Nat} {h : Handler K V}
  {x x' : Consumer} {a : Handle}

theorem Consumer.due_congr (hc : b'.closed = b.closed) (x : Consumer) : x.due b' = x.due b := by
  have hclosed : b'.isClosed = b.isClosed := by
    funext c
    rw [Broker.isClosed, Broker.isClosed, hc]
  unfold due
  rw [hclosed]

theorem Consumer.due_shut (x : Consumer) (b : Broker) (c : ChannelId) :
    x.due (b.shut c) = (x.due b).filter (·.channel ≠ c) := by
  unfold due
  cases x.active.value with
  | none => rfl
  | some a =>
    have hshut : (b.shut c).isClosed a.channel = (b.isClosed a.channel || decide (a.channel = c)) := by
      simp [Broker.isClosed, Broker.shut]
    dsimp only
    rw [hshut]
    cases b.isClosed a.channel <;> by_cases hc : a.channel = c <;> simp [hc]

namespace Tied

theorem alike (t : Tied made b n h x) (ht : b'.terms = b.terms) (hc : b'.closed = b.closed)
    (hx : x'.desk = x.desk) : Tied made b' n h x' := by
  have hactive : x'.active = x.active := (congrArg Consumer.active hx :)
  have hchannel : x'.channel = x.channel := (congrArg Consumer.channel hx :)
  have hprefetch : x'.prefetch = x.prefetch := (congrArg Consumer.prefetch hx :)
  refine ⟨hchannel.trans t.channel, hactive ▸ t.state, hactive ▸ t.handle, ?_⟩
  have hdue : x'.due b' = x.due b := by
    rw [Consumer.due_congr hc]
    simp only [Consumer.due, hactive, hprefetch]
  rw [hdue, ← t.held, Broker.ownTerms, Broker.ownTerms, ht]

theorem shut (t : Tied made b n h x) (c : ChannelId) : Tied made (b.shut c) n h x where
  channel := t.channel
  state := t.state
  handle := t.handle
  held := by rw [x.due_shut, ← t.held, Broker.ownTerms, Broker.terms_shut, List.filter_comm]; rfl

theorem poison (t : Tied made b n h x) : Tied made b n { h with state := h.state.poison }
    { x with active := x.active.poison } := ⟨t.channel, t.state, t.handle, t.held⟩

theorem built (hc : x.channel = h.channel) (hs : h.state.value ≠ .consuming) (hx : x.active.value = none)
    (new : ∀ t, (n, t) ∉ made) : Tied made b n h x where
  channel := hc
  state := by simp [hs, hx]
  handle a ha := by simp [hx] at ha
  held := by simp [Broker.ownTerms, new, Consumer.due, hx]

/-- A consumer without a handle lets the state be anything but `consuming`. -/
theorem rest (t : Tied made b n h x) (hx : x.active.value = none) {s : HandlerState} (hs : s ≠ .consuming) :
    Tied made b n { h with state := h.state.put s } x where
  channel := t.channel
  state := by simp [hx, Lock.put, hs]
  handle := t.handle
  held := t.held

/-! A subscription more. -/

theorem ownTerms_joined (sound : b.Sound) (makers : Makers made b) (c : ChannelId) (q : String)
    (p n m : Nat) :
    (b.joined c q p).ownTerms (made ++ [(n, Broker.consumerTag b.nextConsumer)]) m =
      b.ownTerms made m ++ if m = n then
        [{ tag := Broker.consumerTag b.nextConsumer, queue := q, channel := c, prefetch := p }] else [] := by
  have hold : b.terms.filter (fun s => (m, s.tag) ∈ made ++ [(n, Broker.consumerTag b.nextConsumer)]) =
      b.ownTerms made m := by
    refine List.filter_congr fun s hs => ?_
    obtain ⟨r, hr, rfl⟩ := List.mem_map.1 hs
    simp [sound.fresh r hr]
  rw [Broker.ownTerms, Broker.terms_joined, List.filter_append, hold]
  by_cases hm : m = n <;> simp [hm, makers.fresh]

theorem joined (t : Tied made b m h x) (sound : b.Sound) (makers : Makers made b) (hm : m ≠ n)
    (c : ChannelId) (q : String) (p : Nat) :
    Tied (made ++ [(n, Broker.consumerTag b.nextConsumer)]) (b.joined c q p) m h x where
  channel := t.channel
  state := t.state
  handle a ha := by
    obtain ⟨hc, hq, hmade⟩ := t.handle a ha
    exact ⟨hc, hq, List.mem_append_left _ hmade⟩
  held := by
    rw [ownTerms_joined sound makers, if_neg hm, List.append_nil, t.held]
    exact (Consumer.due_congr rfl x).symm

theorem began (t : Tied made b n h x) (sound : b.Sound) (makers : Makers made b)
    (usable : b.usable x.channel = .ok ()) (idle : x.active.value = none) :
    Tied (made ++ [(n, Broker.consumerTag b.nextConsumer)]) (b.joined x.channel h.queue x.prefetch) n
      { h with state := h.state.put .consuming }
      { x with active := x.active.put (some ⟨Broker.consumerTag b.nextConsumer, x.channel, h.queue⟩) } where
  channel := t.channel
  state := by simp [Lock.put]
  handle a ha := by
    cases ha
    exact ⟨t.channel, rfl, by simp⟩
  held := by
    have hown : b.ownTerms made n = [] := by rw [t.held, Consumer.due, idle]
    have hopen : b.isClosed x.channel = false := Broker.open_of_usable usable
    have hclosed : (b.joined x.channel h.queue x.prefetch).isClosed x.channel = false := hopen
    rw [ownTerms_joined sound makers, if_pos rfl, hown]
    simp [Consumer.due, Lock.put, hclosed]

/-! A subscription less. -/

theorem ownTerms_left (b : Broker) (made : List (Nat × ConsumerTag)) (t : ConsumerTag) (m : Nat) :
    (b.left t).ownTerms made m = (b.ownTerms made m).filter (·.tag ≠ t) := by
  rw [Broker.ownTerms, Broker.terms_left, List.filter_comm]
  rfl

theorem left (t : Tied made b m h x) (makers : Makers made b) (hm : m ≠ n) {r : ConsumerTag}
    (hr : (n, r) ∈ made) : Tied made (b.left r) m h x where
  channel := t.channel
  state := t.state
  handle := t.handle
  held := by
    rw [ownTerms_left, List.filter_eq_self.2 fun s hs => ?_, t.held]
    · exact (Consumer.due_congr rfl x).symm
    · have hs : (m, s.tag) ∈ made := by simpa using (List.mem_filter.1 hs).2
      exact decide_eq_true fun heq => hm (makers.apart _ hs _ hr heq)

theorem ended (t : Tied made b n h x) (active : x.active.value = some a) {s : HandlerState}
    (hs : s ≠ .consuming) : Tied made (b.left a.tag) n { h with state := h.state.put s }
      { x with active := x.active.put none } where
  channel := t.channel
  state := by simp [Lock.put, hs]
  handle a ha := by cases ha
  held := by
    rw [ownTerms_left, t.held]
    unfold Consumer.due
    simp only [active, Lock.put]
    split <;> simp

end Tied

namespace Bench

variable [DecidableEq K] [Debug K] {w : Bench K V} {log : List (Entry K V)}

theorem Run.paired (run : Run log w) : w.consumers.length = w.handlers.length := by
  have hp := congrArg List.length run.invariant.2.2.places
  simpa [view] using hp

theorem Run.numbered (run : Run log w) (hh : w.handlers[n]? = some h) : h.consumer = n := by
  have hl : n < w.view.filings.length := by simpa [view] using (List.getElem?_eq_some_iff.1 hh).1
  have hn : (w.view.filings.map (·.consumer))[n]? = some n := by
    rw [run.invariant.2.2.numbered, List.getElem?_range hl]
  simpa [view, hh, Handler.filing] using hn

omit [DecidableEq K] [Debug K] in
theorem build_cases (w : Bench K V) (p : HandlerPlan K V) : (w.build p).2 = w ∨
    ∃ h x, (w.build p).2.handlers = w.handlers ++ [h] ∧ (w.build p).2.consumers = w.consumers ++ [x] ∧
      (w.build p).2.broker = w.broker ∧ x.channel = h.channel ∧ h.state.value = .created ∧
      x.active.value = none := by
  unfold build
  cases hp : p.complete w.consumers.length with
  | error e => exact Or.inl rfl
  | ok h =>
    have hb : (w.newStore.2.newConsumer h.channel w.newStore.1 p.prefetch).2.broker = w.broker := by
      unfold newConsumer
      dsimp only
      split <;> rfl
    exact Or.inr ⟨h, _, rfl, rfl, hb, rfl, (complete_new hp).2, rfl⟩

theorem request_unknown (hh : w.handlers[n]? = none) (i : Wish V) : w.request (i.of n) = w := by
  cases i <;> simp only [Wish.of, request, consume, handlerPublish, handlerCancel, handlerClose, hh]

end Bench

/-- Every handler is tied to the consumer of its number. -/
structure Kept (made : List (Nat × ConsumerTag)) (w : Bench K V) : Prop where
  tied : ∀ n h, w.handlers[n]? = some h → ∃ x, w.consumers[n]? = some x ∧ Tied made w.broker n h x
  known : ∀ e ∈ made, e.1 < w.handlers.length

namespace Kept

variable {w w' : Bench K V}

theorem alike (k : Kept made w) (ha : Alike w w') : Kept made w' where
  tied n h hh := by
    rw [ha.handlers] at hh
    obtain ⟨x, hx, t⟩ := k.tied n h hh
    obtain ⟨x', hx', hd⟩ := ha.symm.consumer hx
    exact ⟨x', hx', t.alike ha.terms ha.closed hd⟩
  known := ha.handlers ▸ k.known

theorem tied_at (k : Kept made w) (hh : w.handlers[n]? = some h) (hx : w.consumers[n]? = some x) :
    Tied made w.broker n h x := by
  obtain ⟨y, hy, t⟩ := k.tied n h hh
  obtain rfl := Option.some.inj (hx.symm.trans hy)
  exact t

section Calls

variable (k : Kept made w) (hh : w.handlers[n]? = some h) (hx : w.consumers[n]? = some x)

include k hh hx

theorem moved (b : Broker) (f : Handler K V → Handler K V) (g : Consumer → Consumer)
    (more : ∀ e ∈ made', e ∈ made ∨ e.1 = n) (own : Tied made' b n (f h) (g x))
    (others : ∀ m h x, m ≠ n → Tied made w.broker m h x → Tied (V := V) (K := K) made' b m h x) :
    Kept made' (({ w with broker := b }.onConsumer n g).onHandler n f) where
  tied m h' hh' := by
    simp only [Bench.onHandler, Bench.onConsumer, List.getElem?_modify] at hh' ⊢
    by_cases hm : n = m
    · subst hm
      obtain rfl : f h = h' := by simpa [hh] using hh'
      exact ⟨g x, by simp [hx], own⟩
    · obtain ⟨x, hx, t⟩ := k.tied m h' (by simpa [hm] using hh')
      exact ⟨x, by simp [hx, hm], others m h' x (Ne.symm hm) t⟩
  known e he := by
    simp only [Bench.onHandler, Bench.onConsumer, List.length_modify]
    rcases more e he with he | he
    · exact k.known e he
    · exact he ▸ (List.getElem?_eq_some_iff.1 hh).1

/-- Whatever comes of a call, all handlers stay tied. -/
theorem turnout (sound : w.broker.Sound) (makers : Makers made w.broker) {i : Wish V}
    (t : Turnout w n h x i w') :
    Kept (made ++ (w.broker.newcomers w'.broker).map fun t => (n, t)) w' := by
  have tied := k.tied_at hh hx
  -- a call that subscribes nobody makes nothing
  have nothing : ∀ {w₀ : Bench K V}, Alike w₀ w' → w.broker.newcomers w₀.broker = [] → Kept made w₀ →
      Kept (made ++ (w.broker.newcomers w'.broker).map fun t => (n, t)) w' := by
    intro w₀ ha hnew k₀
    rw [Broker.newcomers_of_terms ha.terms, hnew, List.map_nil, List.append_nil]
    exact k₀.alike ha
  have ending : ∀ {a : Handle} {s : HandlerState}, x.active.value = some a → s ≠ .consuming →
      Kept made ((w.stopped n a).setState n s) := fun ha hs =>
    k.moved hh hx _ _ _ (fun e he => Or.inl he) (tied.ended ha hs) fun m h y hm t =>
      t.left makers hm (tied.handle _ ha).2.2
  cases t with
  | same i w' ha => exact nothing ha (Broker.newcomers_self _) k
  | spoiled i w' ha =>
    refine nothing ha (Broker.newcomers_self _) ?_
    exact k.moved hh hx w.broker _ _ (fun e he => Or.inl he) tied.poison fun m h y hm t => t
  | began credits w' opened idle usable ha =>
    rw [Broker.newcomers_of_terms ha.terms]
    refine Kept.alike ?_ ha
    rw [show w.broker.newcomers ((w.started n x h.queue).setState n .consuming).broker = _ from
      Broker.newcomers_joined sound x.channel h.queue x.prefetch]
    refine k.moved hh hx _ _ _ (fun e he => ?_) (tied.began sound makers usable idle)
      fun m h y hm t => t.joined sound makers hm _ _ _
    exact (List.mem_append.1 he).imp id fun he => by rw [List.mem_singleton.1 he]
  | ended a w' active ha => exact nothing ha (Broker.newcomers_left _ _) (ending active (by decide))
  | stopped a w' active ha => exact nothing ha (Broker.newcomers_left _ _) (ending active (by decide))
  | closed w' idle ha =>
    have hk := k.moved hh hx w.broker (fun h => { h with state := h.state.put .closed }) id
      (fun e he => Or.inl he) (tied.rest idle (by decide)) fun m h y hm t => t
    have hid : w.onConsumer n id = w := by simp [Bench.onConsumer]
    exact nothing ha (Broker.newcomers_self _) (hid ▸ hk)

end Calls

variable [DecidableEq K] [Debug K] {log : List (Entry K V)}

theorem close (k : Kept made w) (c : ChannelId) : Kept made (w.perform (.close c)) := by
  simp only [Bench.perform, Broker.closeChannel]
  split
  · exact k
  · refine ⟨fun n h hh => ?_, k.known⟩
    obtain ⟨x, hx, t⟩ := k.tied n h hh
    exact ⟨x, hx, t.shut c⟩

theorem build (k : Kept made w) (run : Bench.Run log w) (p : HandlerPlan K V) : Kept made (w.build p).2 := by
  rcases w.build_cases p with hw | ⟨h, x, hhs, hcs, hb, hch, hst, hx⟩
  · rwa [hw]
  · have hl := run.paired
    refine ⟨fun n g hg => ?_, fun e he => ?_⟩
    · rw [hcs, hb]
      rw [hhs] at hg
      by_cases hn : n < w.handlers.length
      · obtain ⟨y, hy, t⟩ := k.tied n g (by rwa [List.getElem?_append_left hn] at hg)
        exact ⟨y, by rwa [List.getElem?_append_left (hl ▸ hn)], t⟩
      · obtain ⟨rfl, rfl⟩ : n = w.handlers.length ∧ h = g := by
          rw [List.getElem?_append_right (not_lt.1 hn), List.getElem?_singleton] at hg
          obtain ⟨h0, heq⟩ := Option.ite_none_right_eq_some.1 hg
          exact ⟨by omega, Option.some.inj heq⟩
        refine ⟨x, by simp [← hl], .built hch (by simp [hst]) hx fun t ht => ?_⟩
        exact (k.known _ ht).ne rfl
    · rw [hhs, List.length_append]
      exact (k.known e he).trans_le (Nat.le_add_right _ _)

theorem befell (k : Kept made w) (run : Bench.Run log w) (d : Deed K V) (whole : d.isWhole = true) :
    Kept made (w.perform d) := by
  rcases run.whole_cases d whole with ha | ⟨p, rfl⟩ | ⟨c, rfl⟩
  · exact k.alike ha
  · exact k.build run p
  · exact k.close c

end Kept

theorem Bench.Life.kept [DecidableEq K] [Debug K] {w : Bench K V} (life : Bench.Life made w) :
    Kept made w := by
  induction life with
  | nil => exact ⟨fun n h hh => by simp at hh, by simp⟩
  | @snoc made w i life ih =>
    obtain ⟨log, run⟩ := life.run
    cases i with
    | befell d whole =>
      have hk := ih.befell run d whole
      rwa [← List.append_nil made] at hk
    | asked n wish =>
      cases hh : w.handlers[n]? with
      | none =>
        simpa [Bench.makes, Bench.after, Bench.request_unknown hh, Broker.newcomers_self] using ih
      | some h =>
        obtain ⟨x, hx, -⟩ := ih.tied n h hh
        exact ih.turnout hh hx run.sound life.makers (turnout run hh (run.numbered hh) hx wish)

end QueueProbe
