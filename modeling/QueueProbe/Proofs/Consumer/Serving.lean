import QueueProbe.Proofs.Bench.Filing
import QueueProbe.Proofs.Broker.Contents
import QueueProbe.Proofs.Consumer.Course

/-! A consumer serving a queue that nobody else takes from. Its bench follows a `Course`: posting a
letter posts it there, and every third step of the worker, which takes, files and settles the
letter in front, is one step of the course. -/

namespace QueueProbe

variable {K V : Type}

/-- Who serves which queue, and through which channels letters go in and out. -/
structure Site (K V : Type) where
  filing : Filing K V
  channel : ChannelId
  sender : ChannelId
  tag : ConsumerTag
  prefetch : Nat
  /-- The delivery tag issued last before the service began. -/
  base : Nat

namespace Site

variable (s : Site K V)

def good (l : Letter) : Bool := (filedAs s.filing.decoder s.filing.key l).isSome

def puts (ls : List Letter) : List (K × Message V) :=
  ls.filterMap (filedAs s.filing.decoder s.filing.key)

def worker (phase : Phase) : Worker K V :=
  { tag := s.tag, channel := s.channel, duty := .filing s.filing, phase }

end Site

def Course.stats (c : Course) : Stats where
  delivered := c.delivered
  stored := c.kept.length
  rejected := c.rejected
  deadLettered := c.lost.length

/-- The broker's side: what is in line and lost, and how many deliveries are in the consumer's hands,
once it has subscribed. -/
structure Stocked (s : Site K V) (b : Broker) (line : List Item) (lost : List Letter)
    (busy : Option Nat) : Prop where
  up : b.connected = true
  awake : b.missed ≠ some s.tag
  opened : b.isClosed s.channel = false
  sending : b.isClosed s.sender = false
  sound : b.Sound
  known : b.hasQueue s.filing.queue = true
  subscribed : b.subscription? s.tag =
    busy.map fun n => ⟨s.tag, s.filing.queue, s.channel, s.prefetch, n⟩
  ready : b.readyOf s.filing.queue = line.map Item.envelope
  dead : (b.deadOf s.filing.queue).map Envelope.letter = lost

/-- The entry of the item in the consumer's hands, the only one of the queue. -/
structure InHand (s : Site K V) (b : Broker) (x : Item) (u : Unacked) : Prop where
  only : b.unackedOf s.filing.queue = [u]
  found : b.unacked? u.tag = some u
  queue : u.queue = s.filing.queue
  channel : u.channel = s.channel
  consumer : u.consumer = s.tag
  envelope : u.envelope = x.again.envelope

/-- The consumer's side: its books, and its worker's phase once it has started. -/
structure Staffed [DecidableEq K] (s : Site K V) (w : Bench K V) (phase : Option Phase)
    (stats : Stats) (kept : List Letter) : Prop where
  first : s.filing.consumer = 0
  calm : w.faults = []
  ample : w.shortage = none
  alone : w.workers = phase.toList.map s.worker
  books : w.consumers = [{
    channel := s.channel
    store := 0
    prefetch := s.prefetch
    active := { value := phase.map fun _ => ⟨s.tag, s.channel, s.filing.queue⟩ }
    stats }]
  store : w.stores = [Store.ofPuts (s.puts kept)]

/-- A bench that follows a course, and how many steps its worker has made on the item in front. -/
inductive Serving [DecidableEq K] (s : Site K V) (life : Nat) (w : Bench K V) (c : Course) :
    Nat → Prop where
  | idle (stock : Stocked s w.broker c.line c.lost (some 0))
      (free : w.broker.unackedOf s.filing.queue = [])
      (tags : w.broker.lastTag = s.base + c.delivered) (staff : Staffed s w (some .idle) c.stats c.kept) :
      Serving s life w c 0
  | holding (x : Item) (rest : List Item) (u : Unacked) (front : c.line = x :: rest)
      (stock : Stocked s w.broker rest c.lost (some 1)) (hand : InHand s w.broker x u)
      (tags : w.broker.lastTag = s.base + c.delivered + 1)
      (staff : Staffed s w (some (.holding (Broker.told u))) c.stats c.kept) : Serving s life w c 1
  | settling (x : Item) (rest : List Item) (u : Unacked) (front : c.line = x :: rest)
      (stock : Stocked s w.broker rest c.lost (some 1)) (hand : InHand s w.broker x u)
      (tags : w.broker.lastTag = s.base + c.delivered + 1)
      (staff : Staffed s w (some (.settling (Broker.told u)
        (if s.good x.letter then none else some (x.count + 1 < life))))
        (c.next s.good life).stats (c.next s.good life).kept) :
      Serving s life w c 2

/-- A bench whose consumer has not started yet; the tag it will get is the next. -/
structure Awaiting [DecidableEq K] (s : Site K V) (w : Bench K V) (c : Course) : Prop where
  stock : Stocked s w.broker c.line c.lost none
  staff : Staffed s w none c.stats c.kept
  free : w.broker.unackedOf s.filing.queue = []
  tags : w.broker.lastTag = s.base + c.delivered
  next : s.tag = Broker.consumerTag w.broker.nextConsumer

namespace Stocked

variable {s : Site K V} {b : Broker} {line rest : List Item} {lost : List Letter} {x : Item}
  {u : Unacked} {n : Option Nat}

theorem usable (h : Stocked s b line lost n) : b.usable s.channel = .ok () :=
  Broker.usable_of_open h.opened h.up

theorem post (h : Stocked s b line lost n) (l : Letter) (place : Nat) :
    Stocked s (b.posted s.filing.queue l) (line ++ [⟨place, l, 0⟩]) lost n := by
  have hc := Broker.Change.sent s.sender s.filing.queue l (Broker.usable_of_open h.sending h.up) h.known
  exact {
    up := h.up
    awake := (Option.some_ne_none _).symm
    opened := h.opened
    sending := h.sending
    sound := h.sound.change hc
    known := Broker.hasQueue_change hc h.known
    subscribed := h.subscribed
    ready := by simp [Broker.readyOf_posted h.known, h.ready, Item.envelope]
    dead := by rw [Broker.deadOf_posted]; exact h.dead }

theorem join (h : Stocked s b line lost none) (next : s.tag = Broker.consumerTag b.nextConsumer) :
    b.subscribe s.channel s.filing.queue s.prefetch =
      (.ok s.tag, b.joined s.channel s.filing.queue s.prefetch) ∧
    Stocked s (b.joined s.channel s.filing.queue s.prefetch) line lost (some 0) := by
  have hc := Broker.Change.subscribed s.channel s.filing.queue s.prefetch h.usable h.known
  refine ⟨next ▸ Broker.subscribe_ok h.usable h.known s.prefetch, ?_⟩
  exact {
    up := h.up
    awake := h.awake
    opened := h.opened
    sending := h.sending
    sound := h.sound.change hc
    known := h.known
    subscribed := by
      have hn : b.subscriptions.find? (fun r => decide (r.tag = s.tag)) = none := by
        simpa [Broker.subscription?] using h.subscribed
      simp [Broker.subscription?, Broker.joined, List.find?_append, hn, ← next]
    ready := h.ready
    dead := h.dead }

theorem take (h : Stocked s b (x :: rest) lost (some 0)) (free : b.unackedOf s.filing.queue = []) :
    ∃ b' u, b.deliver s.tag = some (Broker.told u, b') ∧ Stocked s b' rest lost (some 1) ∧
      InHand s b' x u ∧ b'.lastTag = b.lastTag + 1 := by
  obtain ⟨y, hy⟩ := Option.isSome_iff_exists.1 (Broker.hasQueue_eq b _ ▸ h.known)
  have hr : y.ready = x.envelope :: rest.map Item.envelope := by
    simpa [Broker.readyOf, hy] using h.ready
  have hcap : (⟨s.tag, s.filing.queue, s.channel, s.prefetch, 0⟩ : Subscription).hasCapacity = true := by
    simp [Subscription.hasCapacity, Nat.pos_iff_ne_zero, em]
  have hc := Broker.Change.delivered _ y x.envelope _ h.subscribed h.up hcap hy hr
  refine ⟨_, _, Broker.deliver_some h.subscribed h.up hcap h.awake h.ready, ?_, ?_, rfl⟩
  · exact {
      up := h.up
      awake := h.awake
      opened := h.opened
      sending := h.sending
      sound := h.sound.change hc
      known := Broker.hasQueue_change hc h.known
      subscribed := by simp [Broker.subscription?_handedOut, h.subscribed]
      ready := by simp [Broker.readyOf_handedOut, h.ready]
      dead := by rw [Broker.deadOf_handedOut]; exact h.dead }
  · exact {
      only := by simp [free]
      found := h.sound.unacked?_handedOut _ _
      queue := rfl
      channel := rfl
      consumer := rfl
      envelope := x.envelope_again }

theorem settle (h : Stocked s b line lost (some 1)) (hand : InHand s b x u) :
    Stocked s (b.settled u) line lost (some 0) ∧ (b.settled u).unackedOf s.filing.queue = [] := by
  have hc := Broker.Change.acked u (hand.channel ▸ h.usable) hand.found
  refine ⟨?_, by simp [Broker.unackedOf_settled, hand.only]⟩
  exact {
    up := h.up
    awake := (Option.some_ne_none _).symm
    opened := h.opened
    sending := h.sending
    sound := h.sound.change hc
    known := h.known
    subscribed := by simp [Broker.subscription?_settled, hand.consumer, h.subscribed]
    ready := h.ready
    dead := h.dead }

theorem ack (h : Stocked s b line lost (some 1)) (hand : InHand s b x u) :
    b.ack s.channel u.tag = (.ok (), b.settled u) := by
  have hu := hand.channel ▸ h.usable
  rw [← hand.channel]
  exact Broker.ack_ok hu hand.found

theorem reject (h : Stocked s b line lost (some 1)) (hand : InHand s b x u) (r : Bool) :
    b.reject s.channel u.tag r = (.ok (), (b.settled u).refused u r) := by
  have hu := hand.channel ▸ h.usable
  rw [← hand.channel]
  exact Broker.reject_ok hu hand.found r

theorem refuse (h : Stocked s b line lost (some 1)) (hand : InHand s b x u) (r : Bool) :
    Stocked s ((b.settled u).refused u r) (if r then line ++ [x.again] else line)
      (if r then lost else lost ++ [x.letter]) (some 0) ∧
    ((b.settled u).refused u r).unackedOf s.filing.queue = [] := by
  obtain ⟨hs, hn⟩ := h.settle hand
  have hc := Broker.Change.rejected u r (hand.channel ▸ h.usable) hand.found
  have housed : (b.settled u).hasQueue u.queue = true := hand.queue ▸ hs.known
  have hl : x.again.envelope.letter = x.letter := rfl
  refine ⟨?_, hn⟩
  exact {
    up := h.up
    awake := hs.awake
    opened := h.opened
    sending := h.sending
    sound := h.sound.change hc
    known := Broker.hasQueue_change hc h.known
    subscribed := hs.subscribed
    ready := by
      rw [Broker.readyOf_refused housed, hs.ready, hand.queue, hand.envelope]
      cases r <;> simp
    dead := by
      rw [Broker.deadOf_refused housed, List.map_append, hs.dead, hand.queue, hand.envelope]
      cases r <;> simp [hl] }

end Stocked
end QueueProbe
