import QueueProbe.Bench.Handling
import QueueProbe.Proofs.Bench.Filing

/-! What happens on a bench of queue handlers, cut into deeds so small that any others can come
between: the calls of a handler that wait for a worker are several of them. The record of a run has
what the broker did and what became of each delivery that was handled. Nobody but the workers
settles a delivery. -/

namespace QueueProbe

variable {K V : Type}

def Handler.filing (h : Handler K V) : Filing K V := ⟨h.consumer, h.queue, h.decoder, h.key, h.policy⟩

@[simp] theorem Handler.filing_queue (h : Handler K V) : h.filing.queue = h.queue := rfl

inductive Deed (K V : Type) where
  | declare (queue : String)
  | declareAnonymous
  | openChannel
  | connect (up : Bool) (late : Option ConsumerTag := none)
  | fault (channel : ChannelId) (call : Call) (fault : Option Fault)
  | crowd (shortage : Option Shortage)
  | send (channel : ChannelId) (queue : String) (letter : Letter)
  | build (plan : HandlerPlan K V)
  /-- The consumer of a handler subscribes to its queue. -/
  | subscribe (handler : Nat) (credits : Option Nat)
  /-- A subscription is taken off the broker; its worker finds that out by itself. -/
  | leave (channel : ChannelId) (consumer : ConsumerTag)
  | close (channel : ChannelId)
  /-- The worker of a subscription makes a step, if it can. -/
  | work (consumer : ConsumerTag)
  | grant (channel : ChannelId) (credits : Nat)
  | note (note : Note)
  | active (consumer : Nat) (change : Lock (Option Handle) → Lock (Option Handle))
  | state (handler : Nat) (change : Lock HandlerState → Lock HandlerState)

/-- What a record is made of: what the broker did, a message put into the store of a consumer, and a
body that could not be filed. -/
inductive Entry (K V : Type) where
  | told (event : Broker.Event)
  | filed (tag : ConsumerTag) (how : Filing K V) (delivery : Delivery) (key : K) (message : Message V)
  | refused (tag : ConsumerTag) (how : Filing K V) (delivery : Delivery) (why : QueueError)

def Entry.event? : Entry K V → Option Broker.Event
  | .told e => some e
  | .filed .. | .refused .. => none

namespace Bench

/-- What the broker does for a call through a channel; nothing if there is a fault on it. -/
def heard (w : Bench K V) (c : ChannelId) (call : Call) (a : Broker.Act) : List (Entry K V) :=
  if (w.faults.get? (c, call)).isSome then [] else (w.broker.events a).map .told

def handled (t : ConsumerTag) (f : Filing K V) (d : Delivery) : Entry K V :=
  match index f d with
  | .ok (k, m) => .filed t f d k m
  | .error e => .refused t f d e

/-- What comes of a step of a worker. -/
def worked (w : Bench K V) (t : ConsumerTag) : List (Entry K V) :=
  match w.worker? t with
  | none => []
  | some k =>
    match k.phase, k.duty with
    | .idle, _ => (w.broker.events (.deliver t)).map .told
    | .holding d, .filing f => if w.mayHandle k then [handled t f d] else []
    | .holding _, .listening _ => []
    | .settling d none, _ => w.heard k.channel .ack (.ack k.channel d.tag)
    | .settling d (some r), _ => w.heard k.channel .reject (.reject k.channel d.tag r)

def entries (w : Bench K V) : Deed K V → List (Entry K V)
  | .send c q l => w.heard c .send (.send c q l)
  | .close c => (w.broker.events (.close c)).map .told
  | .work t => w.worked t
  | _ => []

variable [DecidableEq K] [Debug K]

def perform (w : Bench K V) : Deed K V → Bench K V
  | .declare q => (w.declareQueue q).2
  | .declareAnonymous => w.declareAnonymousQueue.2
  | .openChannel => w.openChannel.2
  | .connect up late => w.setConnected up late
  | .fault c call f => w.setFault c call f
  | .crowd shortage => { w with shortage }
  | .send c q l => (w.send c q l.body l.properties).2
  | .build p => (w.build p).2
  | .subscribe n credits =>
    match w.handlers[n]? with
    | none => w
    | some h =>
      match w.consumers[h.consumer]? with
      | none => w
      | some x => (w.subscribe x.channel h.queue x.prefetch (.filing h.filing) credits).2
  | .leave c t => (w.leave c t).2
  | .close c => { w with broker := w.broker.closeChannel c }
  | .work t => (w.advance t).getD w
  | .grant c n => w.grant c n
  | .note m => w.note m
  | .active n change => w.onConsumer n fun x => { x with active := change x.active }
  | .state n change => w.onHandler n fun h => { h with state := change h.state }

/-- The runs from an empty bench, with their records. -/
inductive Run : List (Entry K V) → Bench K V → Prop where
  | nil : Run [] {}
  | snoc {log : List (Entry K V)} {w : Bench K V} (d : Deed K V) :
      Run log w → Run (log ++ w.entries d) (w.perform d)

end Bench

/-- What matters of a bench here: not its books, journal, credits and locks. -/
structure View (K V : Type) where
  broker : Broker
  crew : List (Worker K V)
  stores : List (Store K V)
  /-- The store of each consumer. -/
  places : List Nat
  filings : List (Filing K V)

def Bench.view (w : Bench K V) : View K V where
  broker := w.broker
  crew := w.workers.map fun k => { k with credits := none }
  stores := w.stores
  places := w.consumers.map (·.store)
  filings := w.handlers.map (·.filing)

namespace View

def setPhase (v : View K V) (t : ConsumerTag) (p : Phase) : View K V :=
  { v with crew := v.crew.map fun k => if k.tag = t then { k with phase := p } else k }

def dismiss (v : View K V) (t : ConsumerTag) : View K V := { v with crew := v.crew.filter (·.tag ≠ t) }

def keep [DecidableEq K] (v : View K V) (c : Nat) (k : K) (m : Message V) : View K V :=
  match v.places[c]? with
  | some s => { v with stores := v.stores.modify s (·.put k m) }
  | none => v

@[simp] theorem broker_keep [DecidableEq K] (v : View K V) (c : Nat) (k : K) (m : Message V) :
    (v.keep c k m).broker = v.broker := by
  unfold keep
  split <;> rfl

@[simp] theorem crew_keep [DecidableEq K] (v : View K V) (c : Nat) (k : K) (m : Message V) :
    (v.keep c k m).crew = v.crew := by
  unfold keep
  split <;> rfl

@[simp] theorem filings_keep [DecidableEq K] (v : View K V) (c : Nat) (k : K) (m : Message V) :
    (v.keep c k m).filings = v.filings := by
  unfold keep
  split <;> rfl

@[simp] theorem tags_setPhase (v : View K V) (t : ConsumerTag) (p : Phase) :
    (v.setPhase t p).crew.map (·.tag) = v.crew.map (·.tag) := by
  simp only [setPhase, List.map_map]
  refine List.map_congr_left fun k _ => ?_
  simp only [Function.comp_apply]
  split <;> rfl

end View

namespace Bench

@[simp] theorem broker_view (w : Bench K V) : w.view.broker = w.broker := rfl

@[simp] theorem view_note (w : Bench K V) (m : Note) : (w.note m).view = w.view := rfl

@[simp] theorem view_broker (w : Bench K V) (b : Broker) :
    ({ w with broker := b } : Bench K V).view = { w.view with broker := b } := rfl

@[simp] theorem view_onConsumer (w : Bench K V) (n : Nat) (f : Consumer → Consumer)
    (hf : ∀ x, (f x).store = x.store) : (w.onConsumer n f).view = w.view := by
  simp only [view, onConsumer]
  congr 1
  refine List.ext_getElem? fun i => ?_
  simp only [List.getElem?_map, List.getElem?_modify]
  split <;> simp [Function.comp_def, hf]

@[simp] theorem view_count (w : Bench K V) (n : Nat) (f : Stats → Stats) : (w.count n f).view = w.view :=
  view_onConsumer _ _ _ fun _ => rfl

theorem view_onHandler (w : Bench K V) (n : Nat) (f : Handler K V → Handler K V)
    (hf : ∀ h, (f h).filing = h.filing) : (w.onHandler n f).view = w.view := by
  simp only [view, onHandler]
  congr 1
  refine List.ext_getElem? fun i => ?_
  simp only [List.getElem?_map, List.getElem?_modify]
  split <;> simp [Function.comp_def, hf]

@[simp] theorem view_setPhase (w : Bench K V) (t : ConsumerTag) (p : Phase) :
    (w.setPhase t p).view = w.view.setPhase t p := by
  simp only [view, setPhase, View.setPhase, onWorker, List.map_map]
  congr 2
  funext k
  simp only [Function.comp_apply]
  split <;> rfl

@[simp] theorem view_dismiss (w : Bench K V) (t : ConsumerTag) :
    (w.dismiss t).view = w.view.dismiss t := by
  simp [view, dismiss, View.dismiss, List.filter_map, Function.comp_def]

theorem view_credit (w : Bench K V) (t : ConsumerTag) (f : Option Nat → Option Nat) :
    (w.onWorker t fun k => { k with credits := f k.credits }).view = w.view := by
  simp only [view, onWorker, List.map_map]
  congr 2
  funext k
  simp only [Function.comp_apply]
  split <;> rfl

@[simp] theorem view_keep [DecidableEq K] (w : Bench K V) (c : Nat) (k : K) (m : Message V) :
    (w.keep c k m).view = w.view.keep c k m := by
  unfold keep View.keep
  have hp : w.view.places[c]? = w.consumers[c]?.map (·.store) := by simp [view]
  rw [hp]
  cases w.consumers[c]? <;> rfl

end Bench
end QueueProbe
