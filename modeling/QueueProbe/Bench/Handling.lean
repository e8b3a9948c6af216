import QueueProbe.Settings.Basic

/-! Queue handlers. A plan collects what a handler needs and is checked when it is built. The state
is kept under a lock, held for the whole of a consume, cancel or close, but let go before a
publish. -/

namespace QueueProbe

structure HandlerPlan (K V : Type) where
  channel : Option ChannelId := none
  queue : Option String := none
  key : Option (KeyFn K V) := none
  decoder : Option (Decoder V) := none
  encoder : Option (Encoder V) := none
  prefetch : Nat := Bench.defaultPrefetch
  parallelism : Nat := Publisher.defaultParallelism
  policy : FailurePolicy := .requeue
  retry : RetryPolicy := {}

namespace HandlerPlan

variable {K V : Type}

/-- Settings override the plan; a queue name only if they have one. -/
def withSettings (p : HandlerPlan K V) (s : Settings) : HandlerPlan K V :=
  { p with
    queue := s.queue.name.or p.queue
    prefetch := s.queue.prefetch
    parallelism := s.queue.publishParallelism
    policy := s.queue.failurePolicy
    retry := s.retry.toPolicy }

def need {α : Type} (x : Option α) (otherwise : String) : Except QueueError α :=
  match x with
  | some a => .ok a
  | none => .error (.configuration otherwise)

/-- The handler of a complete plan, for the consumer of the given number. -/
def complete (p : HandlerPlan K V) (consumer : Nat) : Except QueueError (Handler K V) := do
  let channel ← need p.channel "no broker channel given"
  let queue ← need (p.queue.filter fun q => !Text.allBlank q) "no queue name given"
  let key ← need p.key "no key function given (indexing_by)"
  let decoder ← need p.decoder "no decoder given (consuming_by)"
  let encoder ← need p.encoder "no encoder given (publishing_by)"
  if p.prefetch = 0 then throw (.configuration "prefetch must be greater than 0")
  if p.parallelism = 0 then throw (.configuration "publish parallelism must be greater than 0")
  return {
    queue, channel, consumer, decoder, key, encoder, policy := p.policy
    parallelism := p.parallelism, retry := p.retry }

end HandlerPlan

namespace Handler

variable {K V : Type}

def publisher (h : Handler K V) : Publisher V :=
  (Publisher.make h.channel h.encoder).withParallelism h.parallelism

def closedFor (h : Handler K V) (operation : String) : QueueError :=
  .illegalState ("cannot " ++ operation ++ " on " ++ h.queue ++ ": handler is closed")

/-- The lock taken on a handler that is not closed. -/
def takeOpen (h : Handler K V) (operation : String) : Except QueueError HandlerState :=
  match h.state.take .synchronisation with
  | .error e => .error e
  | .ok .closed => .error (h.closedFor operation)
  | .ok s => .ok s

/-- A poisoned handler counts as closed. -/
def visibleState (h : Handler K V) : HandlerState :=
  if h.state.poisoned then .closed else h.state.value

end Handler

namespace Bench

variable {K V : Type} [DecidableEq K] [Debug K]

def build (w : Bench K V) (p : HandlerPlan K V) : Except QueueError Nat × Bench K V :=
  match p.complete w.consumers.length with
  | .error e => (.error e, w)
  | .ok h =>
    let stored := w.newStore
    let made := stored.2.newConsumer h.channel stored.1 p.prefetch
    (.ok w.handlers.length, { made.2 with handlers := w.handlers ++ [h] }.note
      (.debug ("created queue handler for " ++ h.queue)))

def setState (w : Bench K V) (n : Nat) (s : HandlerState) : Bench K V :=
  w.onHandler n fun h => { h with state := h.state.put s }

def poisonState (w : Bench K V) (n : Nat) : Bench K V :=
  w.onHandler n fun h => { h with state := h.state.poison }

def unknownHandler : QueueError := .illegalState "no such handler"

/-- Ends a call made under the state lock: success sets the state, a panic poisons the lock. -/
def underLock {α : Type} (n : Nat) (next : HandlerState) :
    Outcome QueueError α × Bench K V → Outcome QueueError α × Bench K V
  | (.ok a, w) => (.ok a, w.setState n next)
  | (.error e, w) => (.error e, w)
  | (.panic p, w) => (.panic p, w.poisonState n)

def consume (w : Bench K V) (n : Nat) (credits : Option Nat) :
    Outcome QueueError Handle × Bench K V :=
  match w.handlers[n]? with
  | none => (.error unknownHandler, w)
  | some h =>
    match h.takeOpen "consume" with
    | .error e => (.error e, w)
    | .ok _ =>
      underLock n .consuming (w.start h.consumer h.queue h.decoder h.key h.policy credits)

def handlerPublish (w : Bench K V) (n : Nat) (batch : List (Message V)) (schedule : List Nat) :
    Outcome QueueError Nat × Bench K V :=
  match w.handlers[n]? with
  | none => (.error unknownHandler, w)
  | some h =>
    match h.takeOpen "publish" with
    | .error e => (.error e, w)
    | .ok _ => w.publish h.publisher h.queue batch schedule

def handlerPublishValues (w : Bench K V) (n : Nat) (values : List V) (schedule : List Nat) :
    Outcome QueueError Nat × Bench K V :=
  w.handlerPublish n (values.map fun v => ⟨v, {}⟩) schedule

def handlerCancel (w : Bench K V) (n : Nat) : Outcome QueueError Unit × Bench K V :=
  match w.handlers[n]? with
  | none => (.error unknownHandler, w)
  | some h =>
    match h.takeOpen "cancel" with
    | .error e => (.error e, w)
    | .ok _ =>
      match w.activeHandle h.consumer with
      | .error e => (.error e, w)
      | .ok none => (.error notStarted, w)
      | .ok (some active) => underLock n .created (w.cancel h.consumer active)

/-- Closing a closed handler does nothing. -/
def handlerClose (w : Bench K V) (n : Nat) : Outcome QueueError Unit × Bench K V :=
  match w.handlers[n]? with
  | none => (.error unknownHandler, w)
  | some h =>
    match h.state.take .synchronisation with
    | .error e => (.error e, w)
    | .ok .closed => (.ok (), w)
    | .ok _ =>
      underLock n .closed
        ((w.note (.debug ("closing queue handler for " ++ h.queue))).close h.consumer)

/-- A handler that goes while open ends its subscription; what goes wrong is only noted. Whatever
comes of it, the handler is closed then. -/
def dropHandler (w : Bench K V) (n : Nat) : Outcome QueueError Unit × Bench K V :=
  match w.handlers[n]? with
  | none => (.ok (), w)
  | some h =>
    if h.visibleState = .closed then (.ok (), w)
    else
      match w.close h.consumer with
      | (.error e, w') =>
        (.ok (), (w'.setState n .closed).note (.error ("while closing queue handler for " ++
          h.queue ++ " got " ++ e.message)))
      | (r, w') => (r, w'.setState n .closed)

def received (w : Bench K V) (n : Nat) : Store K V :=
  ((w.handlers[n]?).map fun h => w.storeOf h.consumer).getD {}

def handlerStats (w : Bench K V) (n : Nat) : Stats :=
  ((w.handlers[n]?).map fun h => w.statsOf h.consumer).getD {}

def debugHandler (w : Bench K V) (h : Handler K V) : String :=
  Text.record "QueueHandler" [("queue", debug h.queue), ("state", h.state.debug debug),
    ("consumer", ((w.consumers[h.consumer]?).map debug).getD ""), ("publisher", debug h.publisher)]

end Bench
end QueueProbe
