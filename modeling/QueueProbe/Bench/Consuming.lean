import QueueProbe.Bench.Work

/-! Consumers: each files the deliveries of at most one subscription at a time. The handle of that
subscription is kept under a lock, held for the whole of a start, cancel or close, so a panic of
the channel in one of them poisons it. -/

namespace QueueProbe.Bench

variable {K V : Type} [DecidableEq K] [Debug K]

def defaultPrefetch : Nat := 16

def newStore (w : Bench K V) : Nat × Bench K V :=
  (w.stores.length, { w with stores := w.stores ++ [{}] })

/-- A prefetch of zero would mean no bound, so the default stands in for it. -/
def newConsumer (w : Bench K V) (c : ChannelId) (store prefetch : Nat) : Nat × Bench K V :=
  let fixed := if prefetch = 0 then defaultPrefetch else prefetch
  let noted := if prefetch = 0 then
      w.note (.warn ("prefetch 0 would disable backpressure, using " ++ toString defaultPrefetch))
    else w
  (w.consumers.length,
    { noted with consumers := w.consumers ++ [{ channel := c, store, prefetch := fixed }] })

def setActive (w : Bench K V) (n : Nat) (h : Option Handle) : Bench K V :=
  w.onConsumer n fun x => { x with active := x.active.put h }

def poisonActive (w : Bench K V) (n : Nat) : Bench K V :=
  w.onConsumer n fun x => { x with active := x.active.poison }

def alreadyStarted (h : Handle) : QueueError :=
  .subscriptionState ("consumer " ++ h.tag.text ++ " already started on " ++ h.queue)

def notStarted : QueueError := .subscriptionState "consumer not started"

def belongsElsewhere (h : Handle) (here : ChannelId) : QueueError :=
  .subscriptionState ("consumer " ++ h.tag.text ++ " belongs to " ++ h.channel.text ++ ", not " ++
    here.text)

def notActive (h current : Handle) : QueueError :=
  .subscriptionState ("consumer " ++ h.tag.text ++ " is not the active subscription " ++
    current.tag.text)

def unknownConsumer : QueueError := .illegalState "no such consumer"

def start (w : Bench K V) (n : Nat) (queue : String) (decoder : Decoder V) (key : KeyFn K V)
    (policy : FailurePolicy) (credits : Option Nat) : Outcome QueueError Handle × Bench K V :=
  match w.consumers[n]? with
  | none => (.error unknownConsumer, w)
  | some x =>
    match x.active.take .synchronisation with
    | .error e => (.error e, w)
    | .ok (some current) => (.error (alreadyStarted current), w)
    | .ok none =>
      let w := w.note (.debug ("setting up consumer on " ++ queue ++ " with prefetch " ++
        toString x.prefetch))
      match w.subscribe x.channel queue x.prefetch
          (.filing ⟨n, queue, decoder, key, policy⟩) credits with
      | (.panic p, w) => (.panic p, w.poisonActive n)
      | (.error e, w) => (.error (.ofBroker e), w)
      | (.ok tag, w) =>
        let h : Handle := ⟨tag, x.channel, queue⟩
        (.ok h, (w.note (.debug ("consumer " ++ tag.text ++ " started on " ++ queue))).setActive n h)

/-- Ends the subscription of `h`, and with it the consumer's activity. -/
def release (w : Bench K V) (n : Nat) (x : Consumer) (h : Handle) :
    Outcome QueueError Unit × Bench K V :=
  match w.unsubscribe x.channel h.tag with
  | (.panic p, w) => (.panic p, w.poisonActive n)
  | (.error e, w) => (.error (.ofBroker e), w)
  | (.ok (), w) => (.ok (), w.setActive n none)

/-- Only the handle of the running subscription cancels it. -/
def cancel (w : Bench K V) (n : Nat) (h : Handle) : Outcome QueueError Unit × Bench K V :=
  match w.consumers[n]? with
  | none => (.error unknownConsumer, w)
  | some x =>
    match x.active.take .synchronisation with
    | .error e => (.error e, w)
    | .ok none => (.error notStarted, w)
    | .ok (some current) =>
      if h.channel ≠ x.channel then (.error (belongsElsewhere h x.channel), w)
      else if current ≠ h then (.error (notActive h current), w)
      else
        (w.note (.debug ("cancelling consumer " ++ h.tag.text ++ " on " ++ h.queue))).release n x h

def close (w : Bench K V) (n : Nat) : Outcome QueueError Unit × Bench K V :=
  match w.consumers[n]? with
  | none => (.error unknownConsumer, w)
  | some x =>
    match x.active.take .synchronisation with
    | .error e => (.error e, w)
    | .ok none => (.ok (), w)
    | .ok (some h) =>
      (w.note (.debug ("closing consumer " ++ h.tag.text ++ " on " ++ h.queue))).release n x h

def activeHandle (w : Bench K V) (n : Nat) : Except QueueError (Option Handle) :=
  match w.consumers[n]? with
  | none => .error unknownConsumer
  | some x => x.active.take .synchronisation

def isConsuming (w : Bench K V) (n : Nat) : Bool :=
  match w.activeHandle n with
  | .ok (some _) => true
  | _ => false

instance : Debug Consumer where
  debug x := Text.record "MessageConsumer" [("channel", debug x.channel),
    ("prefetch", debug x.prefetch), ("active", x.active.debug debug)]

end QueueProbe.Bench
