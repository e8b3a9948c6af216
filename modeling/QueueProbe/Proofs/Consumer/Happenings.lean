import QueueProbe.Bench.Consuming
import QueueProbe.Proofs.Broker.Lanes

/-! What happens on a bench of consumers, in steps so small that any others can come between. A cancel
or close is some of them: the subscription is taken off the broker, its worker comes to an end, the
consumer forgets it. Others do with the broker what they like and settle what they can reach, but who
takes the deliveries of a consumer is its own worker. The log of a run says what was asked of the
broker and what became of each delivery that a worker took. -/

namespace QueueProbe

variable {K V : Type}

def Broker.Act.settle (c : ChannelId) (n : Nat) : Option Bool → Broker.Act
  | none => .ack c n
  | some requeue => .reject c n requeue

/-- What a worker works on: a subscription, and how it files. -/
structure Seat (K V : Type) where
  tag : ConsumerTag
  channel : ChannelId
  how : Filing K V

namespace Seat

def isOf (n : Nat) (s : Seat K V) : Bool := s.how.consumer = n

def hasTag (t : ConsumerTag) (s : Seat K V) : Bool := s.tag = t

end Seat

/-- How a delivery is to be settled. -/
structure Verdict (K V : Type) where
  seat : Seat K V
  delivery : Delivery
  /-- A reject with or without requeue, or else an ack. -/
  requeue : Option Bool

inductive Happening (K V : Type) where
  /-- Somebody else asks something of the broker. -/
  | act (act : Broker.Act)
  /-- What the consumers and the broker have no part in. -/
  | aside (change : Bench K V → Bench K V)
  | newStore
  | newConsumer (channel : ChannelId) (store prefetch : Nat)
  | start (consumer : Nat) (queue : String) (decoder : Decoder V) (key : KeyFn K V)
    (policy : FailurePolicy) (credits : Option Nat)
  /-- The worker of a subscription makes a step, if it can. -/
  | work (tag : ConsumerTag)
  | grant (channel : ChannelId) (credits : Nat)
  /-- A consumer forgets its subscription, once that is gone and so is its worker. -/
  | forget (consumer : Nat)
  /-- A panic spoils the lock of a consumer. -/
  | spoil (consumer : Nat)

inductive Mark (K V : Type) where
  | asked (act : Broker.Act)
  | joined (seat : Seat K V) (prefetch : Nat)
  | took (seat : Seat K V) (delivery : Delivery)
  | filed (seat : Seat K V) (delivery : Delivery) (key : K) (message : Message V)
  | refused (seat : Seat K V) (delivery : Delivery) (why : QueueError)
  | settled (verdict : Verdict K V) (answer : Outcome BrokerError Unit)

namespace Mark

/-- What was done with the broker. A settle that failed did nothing with it. -/
def act? : Mark K V → Option Broker.Act
  | asked a => some a
  | joined s prefetch => some (.subscribe s.channel s.how.queue prefetch)
  | took s _ => some (.deliver s.tag)
  | settled v (.ok ()) => some (.settle v.seat.channel v.delivery.tag v.requeue)
  | filed .. | refused .. | settled .. => none

def lease? : Mark K V → Option (Seat K V × Nat)
  | joined s prefetch => some (s, prefetch)
  | _ => none

def taking? : Mark K V → Option (Seat K V × Delivery)
  | took s d => some (s, d)
  | _ => none

/-- What a worker makes of a delivery: it is to be acked if filed, else rejected by the policy. -/
def verdict? : Mark K V → Option (Verdict K V)
  | filed s d _ _ => some ⟨s, d, none⟩
  | refused s d _ => some ⟨s, d, some (s.how.policy.keeps d.count.toNat)⟩
  | _ => none

def call? : Mark K V → Option (Verdict K V × Outcome BrokerError Unit)
  | settled v answer => some (v, answer)
  | _ => none

end Mark

/-- All that the broker was asked in vain or not, apart from settles in vain. -/
def acts (log : List (Mark K V)) : List Broker.Act := log.filterMap Mark.act?

/-- What the broker made of it. -/
def story (log : List (Mark K V)) : List Broker.Event := Broker.past (acts log)

/-- The subscriptions of consumers, each with its prefetch. -/
def leases (log : List (Mark K V)) : List (Seat K V × Nat) := log.filterMap Mark.lease?

section Selections

/-! Seats are selected by their consumer, or by their tag. -/

variable (p : Seat K V → Bool)

/-- The deliveries that workers took. -/
def takings (log : List (Mark K V)) : List (Seat K V × Delivery) :=
  (log.filterMap Mark.taking?).filter fun x => p x.1

/-- What workers made of the deliveries that they handled. -/
def verdicts (log : List (Mark K V)) : List (Verdict K V) :=
  (log.filterMap Mark.verdict?).filter fun v => p v.seat

/-- The settle calls that workers made, with their answers. -/
def calls (log : List (Mark K V)) : List (Verdict K V × Outcome BrokerError Unit) :=
  (log.filterMap Mark.call?).filter fun x => p x.1.seat

theorem takings_append (log new : List (Mark K V)) :
    takings p (log ++ new) = takings p log ++ takings p new := by
  simp [takings]

theorem verdicts_append (log new : List (Mark K V)) :
    verdicts p (log ++ new) = verdicts p log ++ verdicts p new := by
  simp [verdicts]

theorem calls_append (log new : List (Mark K V)) :
    calls p (log ++ new) = calls p log ++ calls p new := by
  simp [calls]

end Selections

theorem acts_append (log new : List (Mark K V)) : acts (log ++ new) = acts log ++ acts new :=
  List.filterMap_append

theorem leases_append (log new : List (Mark K V)) : leases (log ++ new) = leases log ++ leases new :=
  List.filterMap_append

namespace Bench

/-- Nobody takes the deliveries of a consumer but its worker, and nobody is late for the connection but a
worker without a delivery. -/
def reserved (w : Bench K V) : Broker.Act → Bool
  | .deliver t => w.consumers.any fun x => x.active.value.any (·.tag = t)
  | .connect _ (some t) => !(w.worker? t).any (·.phase = .idle)
  | _ => false

def settling (w : Bench K V) (c : ChannelId) (n : Nat) :
    Option Bool → Outcome BrokerError Unit × Bench K V
  | none => w.ack c n
  | some requeue => w.reject c n requeue

/-- What comes of a step of a worker. -/
def effort (w : Bench K V) (t : ConsumerTag) : List (Mark K V) :=
  match w.worker? t with
  | none => []
  | some k =>
    match k.duty with
    | .listening _ => []
    | .filing f =>
      let seat : Seat K V := ⟨t, k.channel, f⟩
      match k.phase with
      | .idle => ((w.broker.deliver t).map fun a => .took seat a.1).toList
      | .holding d =>
        if w.mayHandle k then
          match index f d with
          | .ok (key, m) => [.filed seat d key m]
          | .error e => [.refused seat d e]
        else []
      | .settling d r => [.settled ⟨seat, d, r⟩ (w.settling k.channel d.tag r).1]

variable [DecidableEq K] [Debug K]

def marks (w : Bench K V) : Happening K V → List (Mark K V)
  | .act a => if w.reserved a then [] else [.asked a]
  | .start n q decoder key policy _ =>
    match w.consumers[n]? with
    | none => []
    | some x =>
      match x.active.take QueueError.synchronisation, w.faults.get? (x.channel, .subscribe) with
      | .ok none, none =>
        match (w.broker.subscribe x.channel q x.prefetch w.unstarted).1 with
        | .ok t => [.joined ⟨t, x.channel, ⟨n, q, decoder, key, policy⟩⟩ x.prefetch]
        | .error _ => [.asked (.subscribe x.channel q x.prefetch w.unstarted)]
      | _, _ => []
  | .work t => w.effort t
  | _ => []

def undergo (w : Bench K V) : Happening K V → Bench K V
  | .act a => if w.reserved a then w else { w with broker := w.broker.act a }
  | .aside change =>
    { w with
      faults := (change w).faults
      shortage := (change w).shortage
      dispatches := (change w).dispatches
      listeners := (change w).listeners
      metered := (change w).metered
      handlers := (change w).handlers
      journal := (change w).journal }
  | .newStore => w.newStore.2
  | .newConsumer c store prefetch => (w.newConsumer c store prefetch).2
  | .start n q decoder key policy credits => (w.start n q decoder key policy credits).2
  | .work t => (w.advance t).getD w
  | .grant c n => w.grant c n
  | .forget n =>
    match (w.consumers[n]?).bind (·.active.value) with
    | some h => if w.isSubscribed h.tag || (w.worker? h.tag).isSome then w else w.setActive n none
    | none => w
  | .spoil n => w.poisonActive n

/-- The runs from a bench, with their logs. -/
inductive Sequel (w : Bench K V) : List (Mark K V) → Bench K V → Prop where
  | here : Sequel w [] w
  | snoc {log : List (Mark K V)} {w' : Bench K V} (h : Happening K V) :
      Sequel w log w' → Sequel w (log ++ w'.marks h) (w'.undergo h)

/-- The runs from the empty bench. -/
def History (log : List (Mark K V)) (w : Bench K V) : Prop := Sequel {} log w

theorem Sequel.trans {w w' w'' : Bench K V} {log new : List (Mark K V)} (h : Sequel w log w')
    (h' : Sequel w' new w'') : Sequel w (log ++ new) w'' := by
  induction h' with
  | here =>
    rw [List.append_nil]
    exact h
  | snoc a _ ih =>
    rw [← List.append_assoc]
    exact ih.snoc a

def undergoAll (w : Bench K V) (hs : List (Happening K V)) : Bench K V := hs.foldl undergo w

def chronicle (w : Bench K V) : List (Happening K V) → List (Mark K V)
  | [] => []
  | h :: hs => w.marks h ++ chronicle (w.undergo h) hs

theorem sequel_all (w : Bench K V) (hs : List (Happening K V)) :
    Sequel w (w.chronicle hs) (w.undergoAll hs) := by
  induction hs generalizing w with
  | nil => exact .here
  | cons h hs ih => exact Sequel.trans (Sequel.here.snoc h) (ih (w.undergo h))

end Bench
end QueueProbe
