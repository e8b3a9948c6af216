import QueueProbe.Broker.Calls
import QueueProbe.Codec
import QueueProbe.FailurePolicy
import QueueProbe.Journal.Level
import QueueProbe.Lock
import QueueProbe.Polling.Policy
import QueueProbe.Store

/-! The bench: a broker, the channels with the faults set on them, and everything that works on it.
Every subscription has a worker, which takes one delivery at a time and does with it what its duty
says: a listener reacts to it, a consumer files it. Consumers, stores and listeners are named by
their place in the bench's lists, so that a worker and an owner can share one. -/

namespace QueueProbe

/-- The calls of a channel that can be made to fail. -/
inductive Call where
  | ack
  | reject
  | send
  | subscribe
  | unsubscribe
deriving DecidableEq, Repr

namespace Call

def all : List Call := [ack, reject, send, subscribe, unsubscribe]

def name : Call → String
  | ack => "ack"
  | reject => "reject"
  | send => "send"
  | subscribe => "subscribe"
  | unsubscribe => "unsubscribe"

end Call

/-- A channel call with a fault does not reach the broker. -/
inductive Fault where
  | refuse
  | crash
deriving DecidableEq, Repr

/-- Too few threads: how many a call can start, and what it is told as it asks for one more. -/
structure Shortage where
  threads : Nat
  why : String
deriving DecidableEq, Repr

structure Dispatch where
  channel : ChannelId
  queue : String
  body : Bytes
  properties : Properties
deriving DecidableEq, Repr

/-- What a listener does with a delivery: it settles it, or leaves the queue. -/
inductive Reaction where
  | ack
  | reject (requeue : Bool)
  | leave
deriving DecidableEq, Repr

structure Sighting where
  delivery : Delivery
  /-- The answer to the last reaction, if there was any. -/
  settled : Option (Except BrokerError Unit)
deriving Repr

structure Listener where
  react : Delivery → List Reaction
  seen : List Sighting := []
  cancelled : List ConsumerTag := []

structure Handle where
  tag : ConsumerTag
  channel : ChannelId
  queue : String
deriving DecidableEq, Repr

instance : Debug Handle where
  debug h := Text.record "ConsumerHandle"
    [("tag", debug h.tag), ("channel", debug h.channel), ("queue", debug h.queue)]

structure Stats where
  delivered : Nat := 0
  stored : Nat := 0
  rejected : Nat := 0
  deadLettered : Nat := 0
  transportFailures : Nat := 0
deriving DecidableEq, Repr

structure Consumer where
  channel : ChannelId
  store : Nat
  prefetch : Nat
  active : Lock (Option Handle) := { value := none }
  stats : Stats := {}
deriving DecidableEq, Repr

structure Filing (K V : Type) where
  consumer : Nat
  queue : String
  decoder : Decoder V
  key : KeyFn K V
  policy : FailurePolicy

inductive Duty (K V : Type) where
  | listening (listener : Nat)
  | filing (how : Filing K V)

/-- Where a worker stands: waiting, holding a delivery, or about to settle one that is filed
(`none`: ack) or refused (`some`: reject, with or without requeue). -/
inductive Phase where
  | idle
  | holding (d : Delivery)
  | settling (d : Delivery) (requeue : Option Bool)
deriving DecidableEq, Repr

structure Worker (K V : Type) where
  tag : ConsumerTag
  channel : ChannelId
  duty : Duty K V
  /-- How many more deliveries it may handle while it is subscribed; without bound if absent. -/
  credits : Option Nat := none
  phase : Phase := .idle

inductive HandlerState where
  | created
  | consuming
  | closed
deriving DecidableEq, Repr

namespace HandlerState

def all : List HandlerState := [created, consuming, closed]

def name : HandlerState → String
  | created => "Created"
  | consuming => "Consuming"
  | closed => "Closed"

instance : Debug HandlerState := ⟨name⟩

end HandlerState

/-- A consumer and a publisher on one queue, with one life cycle. -/
structure Handler (K V : Type) where
  queue : String
  channel : ChannelId
  consumer : Nat
  decoder : Decoder V
  key : KeyFn K V
  encoder : Encoder V
  policy : FailurePolicy
  parallelism : Nat
  retry : RetryPolicy
  state : Lock HandlerState := { value := .created }

structure Bench (K V : Type) where
  broker : Broker := {}
  faults : Table (ChannelId × Call) Fault := []
  /-- A call can start all the threads that it needs if there is none. -/
  shortage : Option Shortage := none
  dispatches : List Dispatch := []
  listeners : List Listener := []
  stores : List (Store K V) := []
  consumers : List Consumer := []
  workers : List (Worker K V) := []
  /-- The newest subscription of each channel that was given credits. -/
  metered : Table ChannelId ConsumerTag := []
  handlers : List (Handler K V) := []
  journal : List Note := []

namespace Bench

variable {K V : Type}

def note (w : Bench K V) (n : Note) : Bench K V := { w with journal := w.journal ++ [n] }

/-- What keeps a call from starting that many threads. -/
def lack (w : Bench K V) (threads : Nat) : Option Shortage := w.shortage.filter (·.threads < threads)

def worker? (w : Bench K V) (t : ConsumerTag) : Option (Worker K V) := w.workers.find? (·.tag = t)

def onWorker (w : Bench K V) (t : ConsumerTag) (f : Worker K V → Worker K V) : Bench K V :=
  { w with workers := w.workers.map fun k => if k.tag = t then f k else k }

def onConsumer (w : Bench K V) (c : Nat) (f : Consumer → Consumer) : Bench K V :=
  { w with consumers := w.consumers.modify c f }

def onStore (w : Bench K V) (s : Nat) (f : Store K V → Store K V) : Bench K V :=
  { w with stores := w.stores.modify s f }

def onListener (w : Bench K V) (l : Nat) (f : Listener → Listener) : Bench K V :=
  { w with listeners := w.listeners.modify l f }

def onHandler (w : Bench K V) (h : Nat) (f : Handler K V → Handler K V) : Bench K V :=
  { w with handlers := w.handlers.modify h f }

def storeOf (w : Bench K V) (c : Nat) : Store K V :=
  ((w.consumers[c]?.bind fun k => w.stores[k.store]?)).getD {}

def statsOf (w : Bench K V) (c : Nat) : Stats := (w.consumers[c]?.map (·.stats)).getD {}

end Bench
end QueueProbe
