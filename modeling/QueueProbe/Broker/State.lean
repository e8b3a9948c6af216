import QueueProbe.Failure
import QueueProbe.Message

/-! The state of the broker. Bodies of a queue are ready, unacked or dead letters; unacked ones
stand in the order of their delivery tags, each with the channel and the consumer it went to. A
dispatcher with nothing to take waits to be told of a change. All changes are made and told under one
lock, which it gives back only as it begins to wait, but for one: the connection is set without it. -/

namespace QueueProbe

structure Envelope where
  body : Bytes
  properties : Properties
  deliveryCount : UInt32 := 0
deriving DecidableEq, Repr

structure Queue where
  name : String
  ready : List Envelope := []
  deadLetters : List Envelope := []
deriving DecidableEq, Repr

structure Unacked where
  tag : Nat
  queue : String
  channel : ChannelId
  consumer : ConsumerTag
  envelope : Envelope
deriving DecidableEq, Repr

structure Subscription where
  tag : ConsumerTag
  queue : String
  channel : ChannelId
  /-- The most deliveries it may leave unacked; none of this bound if zero. -/
  prefetch : Nat
  inFlight : Nat := 0
deriving DecidableEq, Repr

namespace Subscription

def hasCapacity (s : Subscription) : Bool := s.prefetch == 0 || s.inFlight < s.prefetch

end Subscription

structure Delivery where
  tag : Nat
  body : Bytes
  properties : Properties
  redelivered : Bool
  count : UInt32
deriving DecidableEq, Repr

structure Broker where
  connected : Bool := true
  queues : List Queue := []
  unacked : List Unacked := []
  subscriptions : List Subscription := []
  closed : List ChannelId := []
  /-- The delivery tag issued last. -/
  lastTag : Nat := 0
  /-- Whose dispatcher found the connection lost and began to wait only after all were told that it
  is back: it waits until they are told of something else. -/
  missed : Option ConsumerTag := none
  nextChannel : Nat := 1
  nextConsumer : Nat := 1
  nextAnonymous : Nat := 1
deriving DecidableEq, Repr

namespace Broker

def queue? (b : Broker) (q : String) : Option Queue := b.queues.find? (·.name = q)

def hasQueue (b : Broker) (q : String) : Bool := b.queues.any (·.name = q)

def subscription? (b : Broker) (t : ConsumerTag) : Option Subscription :=
  b.subscriptions.find? (·.tag = t)

def unacked? (b : Broker) (n : Nat) : Option Unacked := b.unacked.find? (·.tag = n)

def isClosed (b : Broker) (c : ChannelId) : Bool := b.closed.contains c

def onQueue (b : Broker) (q : String) (f : Queue → Queue) : Broker :=
  { b with queues := b.queues.map fun x => if x.name = q then f x else x }

def onSubscription (b : Broker) (t : ConsumerTag) (f : Subscription → Subscription) : Broker :=
  { b with subscriptions := b.subscriptions.map fun s => if s.tag = t then f s else s }

/-! What can be asked of it from outside. -/

def queueDepth (b : Broker) (q : String) : Nat := ((b.queue? q).map (·.ready.length)).getD 0

def unackedCount (b : Broker) (q : String) : Nat := b.unacked.countP (·.queue = q)

def consumerCount (b : Broker) (q : String) : Nat := b.subscriptions.countP (·.queue = q)

def deadLetters (b : Broker) (q : String) : List Bytes :=
  ((b.queue? q).map fun x => x.deadLetters.map (·.body)).getD []

instance : Debug Broker := ⟨fun b => Text.record "InMemoryBroker" [("connected", debug b.connected)]⟩

def debugChannel (b : Broker) (c : ChannelId) : String :=
  Text.record "InMemoryChannel" [("id", debug c), ("closed", debug (b.isClosed c))]

end Broker
end QueueProbe
