import QueueProbe.Broker.State

/-! The calls on the broker. Each gives its answer and the broker after it; a failing call moves no
body and touches no subscription, though it may use up a number for a name. Calls through a
channel first ask whether the channel is closed, then whether the broker is connected. A call is one
step here, from these questions, which are asked without the lock, to the end of what is done under
it: nothing comes in between, such as a close of the channel or the loss of the connection. -/

namespace QueueProbe.Broker

variable {α : Type}

abbrev Answer (α : Type) := Except BrokerError α × Broker

/-- Every dispatcher that waits is told to look again. -/
def notified (b : Broker) : Broker := { b with missed := none }

/-- Sets the connection and tells everybody, without the lock. So `late`, the one dispatcher that may
hold the lock meanwhile, goes to wait untold if it found the connection lost before it came back. -/
def setConnected (b : Broker) (up : Bool) (late : Option ConsumerTag := none) : Broker :=
  { b with
    connected := up
    missed := late.filter fun t =>
      up && (!b.connected || b.missed = some t) && (b.subscription? t).isSome }

def declareQueue (b : Broker) (q : String) : Answer Unit :=
  if !b.connected then (.error .connectionLost, b)
  else if b.hasQueue q then (.ok (), b)
  else (.ok (), { b with queues := b.queues ++ [{ name := q }] })

def anonymousName (n : Nat) : String := "amq.gen-" ++ toString n

/-- The number is used up even if the queue cannot be declared. -/
def declareAnonymousQueue (b : Broker) : Answer String :=
  let name := anonymousName b.nextAnonymous
  let numbered := { b with nextAnonymous := b.nextAnonymous + 1 }
  match numbered.declareQueue name with
  | (.ok (), b') => (.ok name, b')
  | (.error e, b') => (.error e, b')

def openChannel (b : Broker) : Answer ChannelId :=
  if !b.connected then (.error .connectionLost, b)
  else (.ok ⟨b.nextChannel⟩, { b with nextChannel := b.nextChannel + 1 })

def usable (b : Broker) (c : ChannelId) : Except BrokerError Unit :=
  if b.isClosed c then .error (.channelClosed c)
  else if b.connected then .ok ()
  else .error .connectionLost

def through (b : Broker) (c : ChannelId) (call : Answer α) : Answer α :=
  match b.usable c with
  | .ok () => call
  | .error e => (.error e, b)

def send (b : Broker) (c : ChannelId) (q : String) (body : Bytes) (p : Properties) : Answer Unit :=
  b.through c <|
    if b.hasQueue q then
      (.ok (), notified <| b.onQueue q fun x =>
        { x with ready := x.ready ++ [{ body, properties := p }] })
    else (.error (.unknownQueue q), b)

def consumerTag (n : Nat) : ConsumerTag := ⟨"amq.ctag-" ++ toString n⟩

def unstartedError (why : String) : BrokerError := .transport ("cannot start dispatcher thread: " ++ why)

/-- The tag's number is used up even if the queue does not exist. The subscription is entered before
its dispatcher is started; if no thread can be had for that, as `unstarted` says, it goes out again. -/
def subscribe (b : Broker) (c : ChannelId) (q : String) (prefetch : Nat)
    (unstarted : Option String := none) : Answer ConsumerTag :=
  b.through c <|
    let tag := consumerTag b.nextConsumer
    let numbered := { b with nextConsumer := b.nextConsumer + 1 }
    if b.hasQueue q then
      let entered := { numbered with
        subscriptions := b.subscriptions ++ [{ tag, queue := q, channel := c, prefetch }] }
      match unstarted with
      | none => (.ok tag, entered)
      | some why =>
        (.error (unstartedError why), { entered with subscriptions := entered.subscriptions.dropLast })
    else (.error (.unknownQueue q), numbered)

/-- Only the channel that made a subscription can end it. -/
def unsubscribe (b : Broker) (c : ChannelId) (t : ConsumerTag) : Answer Unit :=
  b.through c <|
    match b.subscription? t with
    | some s =>
      if s.channel = c then
        (.ok (), notified { b with subscriptions := b.subscriptions.filter (·.tag ≠ t) })
      else (.error (.unknownConsumer t), b)
    | none => (.error (.unknownConsumer t), b)

def takeUnacked (b : Broker) (c : ChannelId) (n : Nat) : Answer Unacked :=
  match b.unacked? n with
  | some u =>
    if u.channel = c then
      (.ok u, { b with unacked := b.unacked.filter (·.tag ≠ n) }.onSubscription u.consumer
        fun s => { s with inFlight := s.inFlight - 1 })
    else (.error (.unknownDeliveryTag n), b)
  | none => (.error (.unknownDeliveryTag n), b)

def ack (b : Broker) (c : ChannelId) (n : Nat) : Answer Unit :=
  b.through c <|
    match b.takeUnacked c n with
    | (.ok _, b') => (.ok (), b'.notified)
    | (.error e, b') => (.error e, b')

/-- A rejected body goes to the back of its queue, or to the dead letters. -/
def reject (b : Broker) (c : ChannelId) (n : Nat) (requeue : Bool) : Answer Unit :=
  b.through c <|
    match b.takeUnacked c n with
    | (.ok u, b') =>
      (.ok (), notified <| b'.onQueue u.queue fun x =>
        if requeue then { x with ready := x.ready ++ [u.envelope] }
        else { x with deadLetters := x.deadLetters ++ [u.envelope] })
    | (.error e, b') => (.error e, b')

/-- The unacked bodies of queue `q` that went to channel `c`, in the order of their tags. -/
def orphans (b : Broker) (c : ChannelId) (q : String) : List Envelope :=
  (b.unacked.filter fun u => u.channel = c && u.queue = q).map (·.envelope)

/-- Ends the subscriptions of a channel and puts its unacked bodies back in front. The first close
does this, connected or not; later ones do nothing. -/
def closeChannel (b : Broker) (c : ChannelId) : Broker :=
  if b.isClosed c then b
  else notified { b with
    closed := b.closed ++ [c]
    subscriptions := b.subscriptions.filter (·.channel ≠ c)
    unacked := b.unacked.filter (·.channel ≠ c)
    queues := b.queues.map fun x => { x with ready := b.orphans c x.name ++ x.ready } }

/-- The next delivery to a subscription: the front of its queue, if the broker is connected, the
subscription has room and its dispatcher is not left waiting. -/
def deliver (b : Broker) (t : ConsumerTag) : Option (Delivery × Broker) :=
  match b.subscription? t with
  | none => none
  | some s =>
    if b.connected && s.hasCapacity && b.missed ≠ some t then
      match (b.queue? s.queue).map (·.ready) with
      | some (e :: _) =>
        let envelope := { e with deliveryCount := e.deliveryCount + 1 }
        let tag := b.lastTag + 1
        let entry : Unacked := ⟨tag, s.queue, s.channel, t, envelope⟩
        let taken := b.onQueue s.queue fun x => { x with ready := x.ready.drop 1 }
        let counted := taken.onSubscription t fun s => { s with inFlight := s.inFlight + 1 }
        some (⟨tag, e.body, e.properties, envelope.deliveryCount > 1, envelope.deliveryCount⟩,
          { counted with lastTag := tag, unacked := b.unacked ++ [entry] })
      | _ => none
    else none

end QueueProbe.Broker
