import QueueProbe.Bench.State

/-! Calls through a channel of the bench. A call with a fault set on it never reaches the broker:
it is refused, or it panics in its caller. -/

namespace QueueProbe.Bench

variable {K V α : Type}

def setFault (w : Bench K V) (c : ChannelId) (call : Call) (f : Option Fault) : Bench K V :=
  { w with faults := match f with
      | some f => w.faults.set (c, call) f
      | none => w.faults.drop (c, call) }

def through (w : Bench K V) (c : ChannelId) (call : Call) (run : Broker → Broker.Answer α) :
    Outcome BrokerError α × Bench K V :=
  match w.faults.get? (c, call) with
  | some .crash => (.panic (.message (call.name ++ " panicked")), w)
  | some .refuse => (.error (.transport (call.name ++ " refused")), w)
  | none => (.ofExcept (run w.broker).1, { w with broker := (run w.broker).2 })

def openChannel (w : Bench K V) : Except BrokerError ChannelId × Bench K V :=
  match w.broker.openChannel with
  | (.ok c, b) => (.ok c, { w with broker := b }.note (.debug ("opened channel " ++ c.text)))
  | (.error e, b) => (.error e, { w with broker := b })

def declareQueue (w : Bench K V) (q : String) : Except BrokerError Unit × Bench K V :=
  let a := w.broker.declareQueue q
  (a.1, { w with broker := a.2 })

def declareAnonymousQueue (w : Bench K V) : Except BrokerError String × Bench K V :=
  let a := w.broker.declareAnonymousQueue
  (a.1, { w with broker := a.2 })

/-- Only a worker without a delivery can be late for the connection's return. -/
def setConnected (w : Bench K V) (up : Bool) (late : Option ConsumerTag := none) : Bench K V :=
  let idle := late.filter fun t => (w.worker? t).any (·.phase = .idle)
  { w with broker := w.broker.setConnected up idle }

/-- An accepted send is remembered with its channel. -/
def send (w : Bench K V) (c : ChannelId) (q : String) (body : Bytes) (p : Properties) :
    Outcome BrokerError Unit × Bench K V :=
  match w.through c .send fun b => b.send c q body p with
  | (.ok (), w') => (.ok (), { w' with dispatches := w'.dispatches ++ [⟨c, q, body, p⟩] })
  | r => r

def ack (w : Bench K V) (c : ChannelId) (n : Nat) : Outcome BrokerError Unit × Bench K V :=
  w.through c .ack fun b => b.ack c n

def reject (w : Bench K V) (c : ChannelId) (n : Nat) (requeue : Bool) :
    Outcome BrokerError Unit × Bench K V :=
  w.through c .reject fun b => b.reject c n requeue

def unstarted (w : Bench K V) : Option String := (w.lack 1).map (·.why)

@[simp] theorem unstarted_note (w : Bench K V) (n : Note) : (w.note n).unstarted = w.unstarted := rfl

def subscribe (w : Bench K V) (c : ChannelId) (q : String) (prefetch : Nat) (duty : Duty K V)
    (credits : Option Nat) : Outcome BrokerError ConsumerTag × Bench K V :=
  match w.through c .subscribe fun b => b.subscribe c q prefetch w.unstarted with
  | (.ok t, w') =>
    (.ok t, { w' with
      workers := w'.workers ++ [{ tag := t, channel := c, duty, credits }]
      metered := if credits.isSome then w'.metered.set c t else w'.metered })
  | r => r

/-- Takes a subscription off the broker; its worker is left to find that out. -/
def leave (w : Bench K V) (c : ChannelId) (t : ConsumerTag) :
    Outcome BrokerError Unit × Bench K V :=
  w.through c .unsubscribe fun b => b.unsubscribe c t

end QueueProbe.Bench
