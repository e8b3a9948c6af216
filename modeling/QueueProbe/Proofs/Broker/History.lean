import QueueProbe.Broker.Calls

/-! What befalls a broker: acts in any order, each of which may fail, and the events that come of
them. A run starts from the broker with nothing in it and grows by one act at a time. What an act
can do at all is said once, in `Change`; an act that fails is among `still` and `numbered`. -/

namespace QueueProbe

/-- What a sender hands over and a consumer is to receive. -/
structure Letter where
  body : Bytes
  properties : Properties
deriving DecidableEq, Repr

def Envelope.letter (e : Envelope) : Letter := ⟨e.body, e.properties⟩

def Delivery.letter (d : Delivery) : Letter := ⟨d.body, d.properties⟩

namespace Broker

inductive Act where
  | declare (queue : String)
  | declareAnonymous
  | openChannel
  /-- The connection is lost or back, and a dispatcher may be late for it. -/
  | connect (up : Bool) (late : Option ConsumerTag := none)
  | send (channel : ChannelId) (queue : String) (letter : Letter)
  | subscribe (channel : ChannelId) (queue : String) (prefetch : Nat)
    (unstarted : Option String := none)
  | unsubscribe (channel : ChannelId) (consumer : ConsumerTag)
  | deliver (consumer : ConsumerTag)
  | ack (channel : ChannelId) (tag : Nat)
  | reject (channel : ChannelId) (tag : Nat) (requeue : Bool)
  | close (channel : ChannelId)
deriving DecidableEq, Repr

inductive Event where
  | sent (queue : String) (letter : Letter)
  | delivered (subscription : Subscription) (delivery : Delivery)
  | acked (entry : Unacked)
  | rejected (entry : Unacked) (requeue : Bool)
  /-- Put back in front because its channel was closed. -/
  | restored (entry : Unacked)
deriving DecidableEq, Repr

def act (b : Broker) : Act → Broker
  | .declare q => (b.declareQueue q).2
  | .declareAnonymous => b.declareAnonymousQueue.2
  | .openChannel => b.openChannel.2
  | .connect up late => b.setConnected up late
  | .send c q l => (b.send c q l.body l.properties).2
  | .subscribe c q n unstarted => (b.subscribe c q n unstarted).2
  | .unsubscribe c t => (b.unsubscribe c t).2
  | .deliver t => ((b.deliver t).map (·.2)).getD b
  | .ack c n => (b.ack c n).2
  | .reject c n r => (b.reject c n r).2
  | .close c => b.closeChannel c

/-- What comes of an act; nothing if it fails. -/
def events (b : Broker) : Act → List Event
  | .send c q l =>
    match (b.send c q l.body l.properties).1 with
    | .ok () => [.sent q l]
    | .error _ => []
  | .deliver t =>
    match b.subscription? t, b.deliver t with
    | some s, some (d, _) => [.delivered s d]
    | _, _ => []
  | .ack c n =>
    match (b.ack c n).1 with
    | .ok () => (b.unacked? n).toList.map .acked
    | .error _ => []
  | .reject c n r =>
    match (b.reject c n r).1 with
    | .ok () => (b.unacked? n).toList.map fun u => .rejected u r
    | .error _ => []
  | .close c => if b.isClosed c then [] else (b.unacked.filter (·.channel = c)).map .restored
  | _ => []

inductive Run : List Event → Broker → Prop where
  | nil : Run [] {}
  | snoc {es : List Event} {b : Broker} (a : Act) : Run es b → Run (es ++ b.events a) (b.act a)

def posted (b : Broker) (q : String) (l : Letter) : Broker :=
  { b.onQueue q fun x =>
      { x with ready := x.ready ++ [{ body := l.body, properties := l.properties }] } with missed := none }

def joined (b : Broker) (c : ChannelId) (q : String) (prefetch : Nat) : Broker :=
  { b with
    nextConsumer := b.nextConsumer + 1
    subscriptions :=
      b.subscriptions ++ [{ tag := consumerTag b.nextConsumer, queue := q, channel := c, prefetch }] }

def left (b : Broker) (t : ConsumerTag) : Broker :=
  { b with subscriptions := b.subscriptions.filter (·.tag ≠ t), missed := none }

/-- The entry that a delivery of `e` to `s` makes. -/
def entry (b : Broker) (s : Subscription) (e : Envelope) : Unacked :=
  ⟨b.lastTag + 1, s.queue, s.channel, s.tag, { e with deliveryCount := e.deliveryCount + 1 }⟩

def told (u : Unacked) : Delivery :=
  ⟨u.tag, u.envelope.body, u.envelope.properties, u.envelope.deliveryCount > 1,
    u.envelope.deliveryCount⟩

/-- The broker once it delivered `e`, which stood in front of its queue, to `s`. -/
def handedOut (b : Broker) (s : Subscription) (e : Envelope) : Broker :=
  { (b.onQueue s.queue fun x => { x with ready := x.ready.drop 1 }).onSubscription s.tag
      fun s => { s with inFlight := s.inFlight + 1 } with
    lastTag := b.lastTag + 1
    unacked := b.unacked ++ [b.entry s e] }

/-- The broker once a delivery is settled: the entry is gone, and its consumer has room for one
more. -/
def settled (b : Broker) (u : Unacked) : Broker :=
  { { b with unacked := b.unacked.filter (·.tag ≠ u.tag) }.onSubscription u.consumer
      fun s => { s with inFlight := s.inFlight - 1 } with missed := none }

/-- The broker once a settled body is put back, or given up. -/
def refused (b : Broker) (u : Unacked) (requeue : Bool) : Broker :=
  b.onQueue u.queue fun x =>
    if requeue then { x with ready := x.ready ++ [u.envelope] }
    else { x with deadLetters := x.deadLetters ++ [u.envelope] }

def shut (b : Broker) (c : ChannelId) : Broker :=
  { b with
    closed := b.closed ++ [c]
    missed := none
    subscriptions := b.subscriptions.filter (·.channel ≠ c)
    unacked := b.unacked.filter (·.channel ≠ c)
    queues := b.queues.map fun x => { x with ready := b.orphans c x.name ++ x.ready } }

/-- All that an act can do. -/
inductive Change (b : Broker) : List Event → Broker → Prop where
  | still : Change b [] b
  | numbered (channels consumers anonymous : Nat) : Change b [] { b with
      nextChannel := b.nextChannel + channels
      nextConsumer := b.nextConsumer + consumers
      nextAnonymous := b.nextAnonymous + anonymous }
  | connected (up : Bool) (missed : Option ConsumerTag)
      (listed : ∀ t ∈ missed, ∃ s ∈ b.subscriptions, s.tag = t) :
      Change b [] { b with connected := up, missed }
  | declared (q : String) (anonymous : Nat) (new : b.hasQueue q = false) : Change b [] { b with
      queues := b.queues ++ [{ name := q }]
      nextAnonymous := b.nextAnonymous + anonymous }
  | sent (c : ChannelId) (q : String) (l : Letter) (usable : b.usable c = .ok ())
      (known : b.hasQueue q = true) : Change b [.sent q l] (b.posted q l)
  | subscribed (c : ChannelId) (q : String) (prefetch : Nat) (usable : b.usable c = .ok ())
      (known : b.hasQueue q = true) : Change b [] (b.joined c q prefetch)
  | unsubscribed (s : Subscription) (usable : b.usable s.channel = .ok ())
      (found : b.subscription? s.tag = some s) : Change b [] (b.left s.tag)
  | delivered (s : Subscription) (x : Queue) (e : Envelope) (rest : List Envelope)
      (found : b.subscription? s.tag = some s) (up : b.connected = true)
      (room : s.hasCapacity = true) (queue : b.queue? s.queue = some x) (front : x.ready = e :: rest) :
      Change b [.delivered s (told (b.entry s e))] (b.handedOut s e)
  | acked (u : Unacked) (usable : b.usable u.channel = .ok ()) (found : b.unacked? u.tag = some u) :
      Change b [.acked u] (b.settled u)
  | rejected (u : Unacked) (requeue : Bool) (usable : b.usable u.channel = .ok ())
      (found : b.unacked? u.tag = some u) :
      Change b [.rejected u requeue] ((b.settled u).refused u requeue)
  | closed (c : ChannelId) (still : b.isClosed c = false) :
      Change b ((b.unacked.filter (·.channel = c)).map .restored) (b.shut c)

theorem closeChannel_open {b : Broker} {c : ChannelId} (still : b.isClosed c = false) :
    b.closeChannel c = b.shut c := by
  rw [closeChannel, still]
  rfl

variable {α : Type}

theorem unacked?_tag {b : Broker} {n : Nat} {u : Unacked} (h : b.unacked? n = some u) : u.tag = n := by
  simpa using List.find?_some h

theorem subscription?_tag {b : Broker} {t : ConsumerTag} {s : Subscription}
    (h : b.subscription? t = some s) : s.tag = t := by
  simpa using List.find?_some h

/-! What each call comes to: it succeeds with a known answer and broker, or it fails and leaves the
broker as it was. -/

theorem through_cases (b : Broker) (c : ChannelId) (call : Answer α) :
    (b.usable c = .ok () ∧ b.through c call = call) ∨ ∃ e, b.through c call = (.error e, b) := by
  unfold through
  cases h : b.usable c with
  | ok => exact Or.inl ⟨rfl, rfl⟩
  | error e => exact Or.inr ⟨e, rfl⟩

theorem send_cases (b : Broker) (c : ChannelId) (q : String) (l : Letter) :
    (b.usable c = .ok () ∧ b.hasQueue q = true ∧
      b.send c q l.body l.properties = (.ok (), b.posted q l)) ∨
    ∃ e, b.send c q l.body l.properties = (.error e, b) := by
  unfold send
  rcases through_cases b c _ with ⟨hu, h⟩ | ⟨e, h⟩
  · rw [h]
    split
    · next hq => exact Or.inl ⟨hu, hq, rfl⟩
    · exact Or.inr ⟨_, rfl⟩
  · exact Or.inr ⟨e, h⟩

/-- A subscription that nobody can be started for is gone as if it had never been. -/
theorem subscribe_cases (b : Broker) (c : ChannelId) (q : String) (n : Nat) (unstarted : Option String) :
    (b.usable c = .ok () ∧ b.hasQueue q = true ∧ unstarted = none ∧
      b.subscribe c q n unstarted = (.ok (consumerTag b.nextConsumer), b.joined c q n)) ∨
    ∃ e k, b.subscribe c q n unstarted = (.error e, { b with nextConsumer := b.nextConsumer + k }) := by
  unfold subscribe
  rcases through_cases b c _ with ⟨hu, h⟩ | ⟨e, h⟩
  · rw [h]
    dsimp only
    split
    · next hq =>
      cases unstarted with
      | none => exact Or.inl ⟨hu, hq, rfl, rfl⟩
      | some why =>
        refine Or.inr ⟨unstartedError why, 1, ?_⟩
        simp only [List.dropLast_concat]
    · exact Or.inr ⟨_, 1, rfl⟩
  · exact Or.inr ⟨e, 0, h⟩

theorem unsubscribe_cases (b : Broker) (c : ChannelId) (t : ConsumerTag) :
    (∃ s, b.usable c = .ok () ∧ b.subscription? t = some s ∧ s.channel = c ∧
      b.unsubscribe c t = (.ok (), b.left t)) ∨
    ∃ e, b.unsubscribe c t = (.error e, b) := by
  unfold unsubscribe
  rcases through_cases b c _ with ⟨hu, h⟩ | ⟨e, h⟩
  · rw [h]
    cases hs : b.subscription? t with
    | none => exact Or.inr ⟨_, rfl⟩
    | some s =>
      by_cases hc : s.channel = c
      · exact Or.inl ⟨s, hu, rfl, hc, if_pos hc⟩
      · exact Or.inr ⟨_, if_neg hc⟩
  · exact Or.inr ⟨e, h⟩

theorem takeUnacked_cases (b : Broker) (c : ChannelId) (n : Nat) :
    (∃ u b', b.unacked? n = some u ∧ u.channel = c ∧ b.takeUnacked c n = (.ok u, b') ∧
      b'.notified = b.settled u) ∨
      ∃ e, b.takeUnacked c n = (.error e, b) := by
  unfold takeUnacked
  cases h : b.unacked? n with
  | none => exact Or.inr ⟨_, rfl⟩
  | some u =>
    by_cases hc : u.channel = c
    · refine Or.inl ⟨u, _, rfl, hc, if_pos hc, ?_⟩
      rw [settled, unacked?_tag h]
      rfl
    · exact Or.inr ⟨_, if_neg hc⟩

theorem ack_cases (b : Broker) (c : ChannelId) (n : Nat) :
    (∃ u, b.usable c = .ok () ∧ b.unacked? n = some u ∧ u.channel = c ∧
      b.ack c n = (.ok (), b.settled u)) ∨
    ∃ e, b.ack c n = (.error e, b) := by
  unfold ack
  rcases through_cases b c _ with ⟨hu, h⟩ | ⟨e, h⟩
  · rw [h]
    rcases takeUnacked_cases b c n with ⟨u, b', hn, hc, ht, hb⟩ | ⟨e, ht⟩
    · exact Or.inl ⟨u, hu, hn, hc, by rw [ht, ← hb]⟩
    · exact Or.inr ⟨e, by rw [ht]⟩
  · exact Or.inr ⟨e, h⟩

theorem reject_cases (b : Broker) (c : ChannelId) (n : Nat) (r : Bool) :
    (∃ u, b.usable c = .ok () ∧ b.unacked? n = some u ∧ u.channel = c ∧
      b.reject c n r = (.ok (), (b.settled u).refused u r)) ∨
    ∃ e, b.reject c n r = (.error e, b) := by
  unfold reject
  rcases through_cases b c _ with ⟨hu, h⟩ | ⟨e, h⟩
  · rw [h]
    rcases takeUnacked_cases b c n with ⟨u, b', hn, hc, ht, hb⟩ | ⟨e, ht⟩
    · exact Or.inl ⟨u, hu, hn, hc, by rw [ht, ← hb]; rfl⟩
    · exact Or.inr ⟨e, by rw [ht]⟩
  · exact Or.inr ⟨e, h⟩

theorem deliver_eq {b b' : Broker} {t : ConsumerTag} {d : Delivery} (h : b.deliver t = some (d, b')) :
    ∃ s x e rest, b.subscription? t = some s ∧ b.connected = true ∧ s.hasCapacity = true ∧
      b.queue? s.queue = some x ∧ x.ready = e :: rest ∧ d = told (b.entry s e) ∧
      b' = b.handedOut s e := by
  unfold deliver at h
  cases hs : b.subscription? t with
  | none => simp [hs] at h
  | some s =>
    obtain rfl := subscription?_tag hs
    simp only [hs, Bool.and_eq_true] at h
    split at h
    · next hgo =>
      obtain ⟨hcap, -⟩ := hgo
      cases hq : b.queue? s.queue with
      | none => simp [hq] at h
      | some x =>
        cases hx : x.ready with
        | nil => simp [hq, hx] at h
        | cons e rest =>
          simp only [hq, hx, Option.map_some, Option.some.injEq, Prod.mk.injEq] at h
          exact ⟨s, x, e, rest, rfl, hcap.1, hcap.2, hq, hx, h.1.symm, h.2.symm⟩
    · simp at h

theorem change_declare (b : Broker) (q : String) (k : Nat) :
    Change b [] (({ b with nextAnonymous := b.nextAnonymous + k } : Broker).declareQueue q).2 := by
  unfold declareQueue
  split
  · exact .numbered 0 0 k
  · split
    · exact .numbered 0 0 k
    · next h => exact .declared q k (by simpa [hasQueue] using h)

/-- Whatever is asked of a broker, one of the changes comes of it. -/
theorem change (b : Broker) (a : Act) : Change b (b.events a) (b.act a) := by
  cases a with
  | declare q => exact change_declare b q 0
  | declareAnonymous =>
    have h := change_declare b (anonymousName b.nextAnonymous) 1
    simp only [act, declareAnonymousQueue]
    split <;> next he => rw [he] at h; exact h
  | openChannel =>
    simp only [act, openChannel]
    split
    · exact .still
    · exact .numbered 1 0 0
  | connect up late =>
    refine .connected up _ fun t ht => ?_
    obtain ⟨-, ht⟩ := Option.filter_eq_some_iff.1 ht
    simp only [Bool.and_eq_true, Option.isSome_iff_exists] at ht
    obtain ⟨s, hs⟩ := ht.2
    exact ⟨s, List.mem_of_find?_eq_some hs, subscription?_tag hs⟩
  | send c q l =>
    rcases send_cases b c q l with ⟨hu, hq, h⟩ | ⟨e, h⟩
    · simpa [events, act, h] using Change.sent c q l hu hq
    · simpa [events, act, h] using Change.still
  | subscribe c q n unstarted =>
    rcases subscribe_cases b c q n unstarted with ⟨hu, hq, -, h⟩ | ⟨e, k, h⟩
    · simpa [events, act, h] using Change.subscribed c q n hu hq
    · simpa [events, act, h] using Change.numbered 0 k 0
  | unsubscribe c t =>
    rcases unsubscribe_cases b c t with ⟨s, hu, hs, rfl, h⟩ | ⟨e, h⟩
    · obtain rfl := subscription?_tag hs
      simpa [events, act, h] using Change.unsubscribed s hu hs
    · simpa [events, act, h] using Change.still
  | deliver t =>
    cases h : b.deliver t with
    | none => simpa [events, act, h] using Change.still
    | some a =>
      obtain ⟨s, x, e, rest, hs, hu, hr, hq, hx, hd, hb⟩ := deliver_eq h
      obtain rfl := subscription?_tag hs
      simpa [events, act, h, hs, hd, hb] using Change.delivered s x e rest hs hu hr hq hx
  | ack c n =>
    rcases ack_cases b c n with ⟨u, hu, hn, rfl, h⟩ | ⟨e, h⟩
    · obtain rfl := unacked?_tag hn
      simpa [events, act, h, hn] using Change.acked u hu hn
    · simpa [events, act, h] using Change.still
  | reject c n r =>
    rcases reject_cases b c n r with ⟨u, hu, hn, rfl, h⟩ | ⟨e, h⟩
    · obtain rfl := unacked?_tag hn
      simpa [events, act, h, hn] using Change.rejected u r hu hn
    · simpa [events, act, h] using Change.still
  | close c =>
    simp only [events, act, closeChannel]
    cases h : b.isClosed c with
    | true => exact .still
    | false => exact .closed c h

end Broker
end QueueProbe
