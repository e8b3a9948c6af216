import QueueProbe.Bench.Channel

/-! What workers do, in steps that others may come between: take a delivery, handle it, settle it,
and go once the subscription is gone. A worker with credits handles a delivery only as long as it
has some, but one whose subscription is gone handles what it still holds. -/

namespace QueueProbe.Bench

variable {K V : Type} [DecidableEq K] [Debug K]

def isSubscribed (w : Bench K V) (t : ConsumerTag) : Bool :=
  w.broker.subscriptions.any (·.tag = t)

def setPhase (w : Bench K V) (t : ConsumerTag) (p : Phase) : Bench K V :=
  w.onWorker t fun k => { k with phase := p }

def dismiss (w : Bench K V) (t : ConsumerTag) : Bench K V :=
  { w with workers := w.workers.filter (·.tag ≠ t) }

def take (w : Bench K V) (t : ConsumerTag) : Option (Bench K V) :=
  (w.broker.deliver t).map fun a => { w with broker := a.2 }.setPhase t (.holding a.1)

/-- A worker that goes tells whom it worked for. -/
def depart (w : Bench K V) (k : Worker K V) : Bench K V :=
  let gone := w.dismiss k.tag
  match k.duty with
  | .listening l => gone.onListener l fun x => { x with cancelled := x.cancelled ++ [k.tag] }
  | .filing f =>
    gone.note (.debug ("consumer " ++ k.tag.text ++ " on " ++ f.queue ++ " cancelled"))

/-- A body's key and message. A panic of the decoder or of the key function is contained here. -/
def index (f : Filing K V) (d : Delivery) : Except QueueError (K × Message V) :=
  match f.decoder d.body with
  | .error e => .error (.decode e)
  | .panic p => .error (.decode ("decoder panicked: " ++ p.text))
  | .ok v =>
    let m : Message V := ⟨v, d.properties⟩
    match f.key m with
    | .error e => .error (.keyDerivation e)
    | .panic p => .error (.keyDerivation ("key function panicked: " ++ p.text))
    | .ok k => .ok (k, m)

def count (w : Bench K V) (c : Nat) (f : Stats → Stats) : Bench K V :=
  w.onConsumer c fun x => { x with stats := f x.stats }

def keep (w : Bench K V) (c : Nat) (k : K) (m : Message V) : Bench K V :=
  match w.consumers[c]? with
  | some x => w.onStore x.store (·.put k m)
  | none => w

def file (w : Bench K V) (t : ConsumerTag) (f : Filing K V) (d : Delivery) : Bench K V :=
  let w := w.count f.consumer fun s => { s with delivered := s.delivered + 1 }
  match index f d with
  | .ok (k, m) =>
    ((w.keep f.consumer k m).count f.consumer fun s => { s with stored := s.stored + 1 })
      |>.note (.trace ("received message with key " ++ debug k ++ " from " ++ f.queue))
      |>.setPhase t (.settling d none)
  | .error e =>
    if f.policy.keeps d.count.toNat then
      (w.count f.consumer fun s => { s with rejected := s.rejected + 1 })
        |>.note (.warn ("skipping message from " ++ f.queue ++ " (delivery " ++ toString d.count ++
          "), requeueing: " ++ e.message))
        |>.setPhase t (.settling d (some true))
    else
      (w.count f.consumer fun s => { s with deadLettered := s.deadLettered + 1 })
        |>.note (.warn ("discarding message from " ++ f.queue ++ " after " ++ toString d.count ++
          " deliveries: " ++ e.message))
        |>.setPhase t (.settling d (some false))

def answer (w : Bench K V) (k : Worker K V) (d : Delivery) :
    Reaction → Outcome BrokerError Unit × Bench K V
  | .ack => w.ack k.channel d.tag
  | .reject requeue => w.reject k.channel d.tag requeue
  | .leave => w.leave k.channel k.tag

/-- Reactions in turn, with the answer to the last; none if one panics. -/
def answerAll (k : Worker K V) (d : Delivery) :
    List Reaction → Option (Except BrokerError Unit) → Bench K V →
      Option (Option (Except BrokerError Unit)) × Bench K V
  | [], last, w => (some last, w)
  | r :: rest, _, w =>
    match w.answer k d r with
    | (.panic _, w') => (none, w')
    | (.error e, w') => answerAll k d rest (some (.error e)) w'
    | (.ok (), w') => answerAll k d rest (some (.ok ())) w'

/-- A listener sees a delivery once it has reacted to it. A reaction that panics ends its worker. -/
def listen (w : Bench K V) (k : Worker K V) (l : Nat) (d : Delivery) : Bench K V :=
  let reactions := ((w.listeners[l]?).map fun x => x.react d).getD []
  match answerAll k d reactions none w with
  | (none, w') => w'.dismiss k.tag
  | (some settled, w') =>
    (w'.onListener l fun x => { x with seen := x.seen ++ [⟨d, settled⟩] }).setPhase k.tag .idle

def handle (w : Bench K V) (k : Worker K V) (d : Delivery) : Bench K V :=
  let w := w.onWorker k.tag fun x => { x with credits := x.credits.map (· - 1) }
  match k.duty with
  | .listening l => w.listen k l d
  | .filing f => w.file k.tag f d

/-- A failed settle is counted and noted; one that panics ends the worker, and its subscription
stays with nobody to serve it. -/
def settle (w : Bench K V) (k : Worker K V) (d : Delivery) (requeue : Option Bool) : Bench K V :=
  let a := match requeue with
    | none => w.ack k.channel d.tag
    | some r => w.reject k.channel d.tag r
  let verb := if requeue.isNone then "ack" else "reject"
  match a.1, k.duty with
  | .panic _, _ => a.2.dismiss k.tag
  | .error e, .filing f =>
    (a.2.count f.consumer fun s => { s with transportFailures := s.transportFailures + 1 })
      |>.note (.warn ("could not " ++ verb ++ " delivery " ++ toString d.tag ++ " from queue " ++
        f.queue ++ ": " ++ e.message))
      |>.setPhase k.tag .idle
  | _, _ => a.2.setPhase k.tag .idle

def mayHandle (w : Bench K V) (k : Worker K V) : Bool :=
  k.credits != some 0 || !w.isSubscribed k.tag

/-- One step of the worker of a subscription, if it can make one. -/
def advance (w : Bench K V) (t : ConsumerTag) : Option (Bench K V) :=
  match w.worker? t with
  | none => none
  | some k =>
    match k.phase with
    | .idle => if w.isSubscribed t then w.take t else some (w.depart k)
    | .holding d => if w.mayHandle k then some (w.handle k d) else none
    | .settling d r => some (w.settle k d r)

/-- The first step that any worker can make. -/
def step (w : Bench K V) : Option (Bench K V) := w.workers.findSome? fun k => w.advance k.tag

/-- Workers work until none can go on, or `fuel` steps are made. -/
def run (fuel : Nat) (w : Bench K V) : Bench K V :=
  match fuel with
  | 0 => w
  | fuel + 1 =>
    match w.step with
    | some w' => run fuel w'
    | none => w

/-- The worker of a subscription that is gone handles and settles what it holds, and departs. -/
def retire (w : Bench K V) (t : ConsumerTag) : Bench K V :=
  let next (w : Bench K V) : Bench K V := (w.advance t).getD w
  next (next (next w))

/-- Ends a subscription, once its worker is done with what it holds. -/
def unsubscribe (w : Bench K V) (c : ChannelId) (t : ConsumerTag) :
    Outcome BrokerError Unit × Bench K V :=
  match w.leave c t with
  | (.ok (), w') => (.ok (), w'.retire t)
  | r => r

/-- Closes a channel, and waits for the workers of the subscriptions it had. -/
def closeChannel (w : Bench K V) (c : ChannelId) : Bench K V :=
  if w.broker.isClosed c then w
  else
    let tags := (w.broker.subscriptions.filter (·.channel = c)).map (·.tag)
    let closed := { w with broker := w.broker.closeChannel c }
    (tags.foldl retire closed).note (.debug ("closed channel " ++ c.text))

/-- More credits for the newest subscription of a channel that was given some. One that is gone has
no use for them. -/
def grant (w : Bench K V) (c : ChannelId) (n : Nat) : Bench K V :=
  match w.metered.get? c with
  | some t => w.onWorker t fun x => { x with credits := x.credits.map (· + n) }
  | none => w

def listener (w : Bench K V) (react : Delivery → List Reaction) : Nat × Bench K V :=
  (w.listeners.length, { w with listeners := w.listeners ++ [{ react }] })

end QueueProbe.Bench
