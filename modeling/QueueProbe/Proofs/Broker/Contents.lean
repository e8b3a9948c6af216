import Mathlib.Data.Multiset.Filter
import QueueProbe.Proofs.Broker.History

/-! What a broker holds of a queue, and how each change touches it. A broker that can be reached is
`Sound`: its delivery tags and consumer tags are its own, each used once, and every unacked body has
a queue to go back to. -/

namespace QueueProbe.Broker

def readyOf (b : Broker) (q : String) : List Envelope := ((b.queue? q).map (·.ready)).getD []

def deadOf (b : Broker) (q : String) : List Envelope := ((b.queue? q).map (·.deadLetters)).getD []

def unackedOf (b : Broker) (q : String) : List Unacked := b.unacked.filter (·.queue = q)

theorem hasQueue_eq (b : Broker) (q : String) : b.hasQueue q = (b.queue? q).isSome := by
  rw [Bool.eq_iff_iff]
  simp [hasQueue, queue?]

theorem queue?_onQueue (b : Broker) (q r : String) (f : Queue → Queue) (hf : ∀ x, (f x).name = x.name) :
    (b.onQueue q f).queue? r = if r = q then (b.queue? r).map f else b.queue? r := by
  have hp : ((fun x : Queue => decide (x.name = r)) ∘ fun x => if x.name = q then f x else x) =
      fun x => decide (x.name = r) := by
    funext x
    simp only [Function.comp_apply]
    split <;> simp [hf]
  simp only [onQueue, queue?, List.find?_map, hp]
  cases h : b.queues.find? fun x => decide (x.name = r) with
  | none => simp
  | some x =>
    have hx : x.name = r := by simpa using List.find?_some h
    by_cases hr : r = q <;> simp [hx, hr]

@[simp] theorem queue?_onSubscription (b : Broker) (t : ConsumerTag) (f : Subscription → Subscription)
    (q : String) : (b.onSubscription t f).queue? q = b.queue? q := rfl

theorem queue?_posted (b : Broker) (q r : String) (l : Letter) :
    (b.posted q l).queue? r = if r = q then (b.queue? r).map fun x =>
      { x with ready := x.ready ++ [{ body := l.body, properties := l.properties }] }
    else b.queue? r := queue?_onQueue b q r _ fun _ => rfl

theorem queue?_handedOut (b : Broker) (s : Subscription) (e : Envelope) (r : String) :
    (b.handedOut s e).queue? r = if r = s.queue then
      (b.queue? r).map fun x => { x with ready := x.ready.drop 1 } else b.queue? r :=
  queue?_onQueue b s.queue r _ fun _ => rfl

@[simp] theorem queue?_settled (b : Broker) (u : Unacked) (r : String) :
    (b.settled u).queue? r = b.queue? r := rfl

theorem queue?_refused (b : Broker) (u : Unacked) (k : Bool) (r : String) :
    (b.refused u k).queue? r = if r = u.queue then (b.queue? r).map fun x =>
      if k then { x with ready := x.ready ++ [u.envelope] }
      else { x with deadLetters := x.deadLetters ++ [u.envelope] }
    else b.queue? r := queue?_onQueue b u.queue r _ fun x => by split <;> rfl

theorem queue?_shut (b : Broker) (c : ChannelId) (q : String) :
    (b.shut c).queue? q =
      (b.queue? q).map fun x => { x with ready := b.orphans c q ++ x.ready } := by
  have hp : ((fun x : Queue => decide (x.name = q)) ∘
      fun x : Queue => { x with ready := b.orphans c x.name ++ x.ready }) =
      fun x : Queue => decide (x.name = q) := rfl
  simp only [shut, queue?, List.find?_map, hp]
  cases h : b.queues.find? fun x => decide (x.name = q) with
  | none => rfl
  | some x =>
    have hx : x.name = q := by simpa using List.find?_some h
    simp [hx]

theorem queue?_declared {b : Broker} {q : String} (new : b.hasQueue q = false) (n : Nat) (r : String) :
    ({ b with queues := b.queues ++ [{ name := q }], nextAnonymous := n } : Broker).queue? r =
      if r = q then some { name := q } else b.queue? r := by
  have hq : b.queue? q = none := by simpa [hasQueue_eq] using new
  simp only [queue?] at hq ⊢
  by_cases hr : r = q
  · subst hr; simp [List.find?_append, hq]
  · have hn : ¬q = r := fun h => hr h.symm
    simp [List.find?_append, hr, hn]

theorem readyOf_posted {b : Broker} {q : String} (known : b.hasQueue q = true) (l : Letter) (r : String) :
    (b.posted q l).readyOf r = b.readyOf r ++
      if r = q then [{ body := l.body, properties := l.properties }] else [] := by
  rw [hasQueue_eq, Option.isSome_iff_exists] at known
  obtain ⟨x, hx⟩ := known
  by_cases hr : r = q
  · subst hr; simp [readyOf, queue?_posted, hx]
  · simp [readyOf, queue?_posted, hr]

@[simp] theorem deadOf_posted (b : Broker) (q r : String) (l : Letter) :
    (b.posted q l).deadOf r = b.deadOf r := by
  unfold deadOf
  rw [queue?_posted]
  split <;> simp [Function.comp_def]

theorem readyOf_handedOut (b : Broker) (s : Subscription) (e : Envelope) (r : String) :
    (b.handedOut s e).readyOf r = if r = s.queue then (b.readyOf r).drop 1 else b.readyOf r := by
  unfold readyOf
  rw [queue?_handedOut]
  split
  · cases b.queue? r <;> simp
  · rfl

@[simp] theorem deadOf_handedOut (b : Broker) (s : Subscription) (e : Envelope) (r : String) :
    (b.handedOut s e).deadOf r = b.deadOf r := by
  unfold deadOf
  rw [queue?_handedOut]
  split <;> simp [Function.comp_def]

@[simp] theorem readyOf_settled (b : Broker) (u : Unacked) (r : String) :
    (b.settled u).readyOf r = b.readyOf r := rfl

@[simp] theorem deadOf_settled (b : Broker) (u : Unacked) (r : String) :
    (b.settled u).deadOf r = b.deadOf r := rfl

theorem readyOf_refused {b : Broker} {u : Unacked} (housed : b.hasQueue u.queue = true) (k : Bool)
    (r : String) : (b.refused u k).readyOf r =
      b.readyOf r ++ if r = u.queue ∧ k = true then [u.envelope] else [] := by
  rw [hasQueue_eq, Option.isSome_iff_exists] at housed
  obtain ⟨x, hx⟩ := housed
  by_cases hr : r = u.queue
  · subst hr; cases k <;> simp [readyOf, queue?_refused, hx]
  · simp [readyOf, queue?_refused, hr]

theorem deadOf_refused {b : Broker} {u : Unacked} (housed : b.hasQueue u.queue = true) (k : Bool)
    (r : String) : (b.refused u k).deadOf r =
      b.deadOf r ++ if r = u.queue ∧ k = false then [u.envelope] else [] := by
  rw [hasQueue_eq, Option.isSome_iff_exists] at housed
  obtain ⟨x, hx⟩ := housed
  by_cases hr : r = u.queue
  · subst hr; cases k <;> simp [deadOf, queue?_refused, hx]
  · simp [deadOf, queue?_refused, hr]

theorem readyOf_shut {b : Broker} (housed : ∀ u ∈ b.unacked, b.hasQueue u.queue = true)
    (c : ChannelId) (q : String) : (b.shut c).readyOf q = b.orphans c q ++ b.readyOf q := by
  cases hx : b.queue? q with
  | some x => simp [readyOf, queue?_shut, hx]
  | none =>
    have ho : b.orphans c q = [] := by
      refine List.map_eq_nil_iff.2 (List.filter_eq_nil_iff.2 fun u hu hc => ?_)
      obtain ⟨-, rfl⟩ : u.channel = c ∧ u.queue = q := by simpa using hc
      simpa [hasQueue_eq, hx] using housed u hu
    simp [readyOf, queue?_shut, hx, ho]

@[simp] theorem deadOf_shut (b : Broker) (c : ChannelId) (q : String) :
    (b.shut c).deadOf q = b.deadOf q := by
  simp [deadOf, queue?_shut, Function.comp_def]

theorem readyOf_declared {b : Broker} {q : String} (new : b.hasQueue q = false) (n : Nat) (r : String) :
    ({ b with queues := b.queues ++ [{ name := q }], nextAnonymous := n } : Broker).readyOf r =
      b.readyOf r := by
  have hq : b.queue? q = none := by simpa [hasQueue_eq] using new
  unfold readyOf
  rw [queue?_declared new]
  split
  · next hr => subst hr; simp [hq]
  · rfl

theorem deadOf_declared {b : Broker} {q : String} (new : b.hasQueue q = false) (n : Nat) (r : String) :
    ({ b with queues := b.queues ++ [{ name := q }], nextAnonymous := n } : Broker).deadOf r =
      b.deadOf r := by
  have hq : b.queue? q = none := by simpa [hasQueue_eq] using new
  unfold deadOf
  rw [queue?_declared new]
  split
  · next hr => subst hr; simp [hq]
  · rfl

@[simp] theorem unackedOf_handedOut (b : Broker) (s : Subscription) (e : Envelope) (q : String) :
    (b.handedOut s e).unackedOf q = b.unackedOf q ++ if s.queue = q then [b.entry s e] else [] := by
  simp only [unackedOf, handedOut, List.filter_append, List.filter_cons, List.filter_nil, entry,
    decide_eq_true_eq]

theorem unackedOf_settled (b : Broker) (u : Unacked) (q : String) :
    (b.settled u).unackedOf q = (b.unackedOf q).filter (·.tag ≠ u.tag) := by
  simp only [unackedOf, settled, onSubscription]
  rw [List.filter_comm]

theorem unackedOf_shut (b : Broker) (c : ChannelId) (q : String) :
    (b.shut c).unackedOf q = (b.unackedOf q).filter (·.channel ≠ c) := by
  simp only [unackedOf, shut]
  rw [List.filter_comm]

theorem orphans_eq (b : Broker) (c : ChannelId) (q : String) :
    b.orphans c q = ((b.unackedOf q).filter (·.channel = c)).map (·.envelope) := by
  rw [orphans, unackedOf, List.filter_filter]

theorem subscription?_onSubscription (b : Broker) (t r : ConsumerTag)
    (f : Subscription → Subscription) (hf : ∀ s, (f s).tag = s.tag) :
    (b.onSubscription t f).subscription? r =
      if r = t then (b.subscription? r).map f else b.subscription? r := by
  have hp : ((fun s : Subscription => decide (s.tag = r)) ∘ fun s => if s.tag = t then f s else s) =
      fun s => decide (s.tag = r) := by
    funext s
    simp only [Function.comp_apply]
    split <;> simp [hf]
  simp only [onSubscription, subscription?, List.find?_map, hp]
  cases h : b.subscriptions.find? fun s => decide (s.tag = r) with
  | none => simp
  | some s =>
    have hs : s.tag = r := by simpa using List.find?_some h
    by_cases hr : r = t <;> simp [hs, hr]

theorem subscription?_handedOut (b : Broker) (s : Subscription) (e : Envelope) (r : ConsumerTag) :
    (b.handedOut s e).subscription? r = if r = s.tag then
      (b.subscription? r).map fun s => { s with inFlight := s.inFlight + 1 } else b.subscription? r :=
  subscription?_onSubscription _ s.tag r _ fun _ => rfl

theorem subscription?_settled (b : Broker) (u : Unacked) (r : ConsumerTag) :
    (b.settled u).subscription? r = if r = u.consumer then
      (b.subscription? r).map fun s => { s with inFlight := s.inFlight - 1 } else b.subscription? r :=
  subscription?_onSubscription _ u.consumer r _ fun _ => rfl

theorem mem_onSubscription {b : Broker} {t : ConsumerTag} {s : Subscription} {f : Nat → Nat}
    (hs : s ∈ (b.onSubscription t fun r => { r with inFlight := f r.inFlight }).subscriptions) :
    ∃ r ∈ b.subscriptions, s = { r with inFlight := if r.tag = t then f r.inFlight else r.inFlight } := by
  obtain ⟨r, hr, rfl⟩ := List.mem_map.1 hs
  refine ⟨r, hr, ?_⟩
  split <;> rfl

/-! When calls succeed. -/

theorem usable_of_open {b : Broker} {c : ChannelId} (hc : b.isClosed c = false)
    (hb : b.connected = true) : b.usable c = .ok () := by
  simp [usable, hc, hb]

theorem send_ok {b : Broker} {c : ChannelId} {q : String} (hu : b.usable c = .ok ())
    (hq : b.hasQueue q = true) (l : Letter) :
    b.send c q l.body l.properties = (.ok (), b.posted q l) := by
  simp [send, through, hu, hq, posted, notified]

theorem subscribe_ok {b : Broker} {c : ChannelId} {q : String} (hu : b.usable c = .ok ())
    (hq : b.hasQueue q = true) (n : Nat) :
    b.subscribe c q n = (.ok (consumerTag b.nextConsumer), b.joined c q n) := by
  simp [subscribe, through, hu, hq, joined]

theorem deliver_some {b : Broker} {s : Subscription} {e : Envelope} {rest : List Envelope}
    (found : b.subscription? s.tag = some s) (up : b.connected = true)
    (room : s.hasCapacity = true) (awake : b.missed ≠ some s.tag) (front : b.readyOf s.queue = e :: rest) :
    b.deliver s.tag = some (told (b.entry s e), b.handedOut s e) := by
  cases hq : b.queue? s.queue with
  | none => simp [readyOf, hq] at front
  | some x =>
    have hx : x.ready = e :: rest := by simpa [readyOf, hq] using front
    simp only [deliver, found, up, room, awake, ne_eq, not_false_eq_true, decide_true, Bool.and_self, if_true, hq,
      Option.map_some, hx]
    rfl

theorem deliver_none {b : Broker} {s : Subscription} (found : b.subscription? s.tag = some s)
    (empty : b.readyOf s.queue = []) : b.deliver s.tag = none := by
  cases h : b.deliver s.tag with
  | none => rfl
  | some a =>
    obtain ⟨r, x, e, rest, hr, -, -, hq, hx, -⟩ := deliver_eq h
    obtain rfl : s = r := Option.some.inj (found.symm.trans hr)
    simp [readyOf, hq, hx] at empty

theorem ack_ok {b : Broker} {u : Unacked} (hu : b.usable u.channel = .ok ())
    (found : b.unacked? u.tag = some u) : b.ack u.channel u.tag = (.ok (), b.settled u) := by
  simp [ack, through, hu, takeUnacked, found, settled, notified]

theorem reject_ok {b : Broker} {u : Unacked} (hu : b.usable u.channel = .ok ())
    (found : b.unacked? u.tag = some u) (r : Bool) :
    b.reject u.channel u.tag r = (.ok (), (b.settled u).refused u r) := by
  simp only [reject, through, hu, takeUnacked, found, if_true]
  rfl

/-! What a broker never loses. -/

theorem hasQueue_change {b b' : Broker} {es : List Event} (h : Change b es b') {q : String}
    (hq : b.hasQueue q = true) : b'.hasQueue q = true := by
  rw [hasQueue_eq] at hq ⊢
  cases h with
  | declared r n new =>
    rw [queue?_declared new]
    split <;> simp [hq]
  | sent c r l =>
    rw [queue?_posted]
    split <;> simpa using hq
  | delivered s x e rest =>
    rw [queue?_handedOut]
    split <;> simpa using hq
  | rejected u k =>
    rw [queue?_refused]
    split <;> simpa using hq
  | closed c => simpa [queue?_shut] using hq
  | _ => exact hq

theorem lastTag_change {b b' : Broker} {es : List Event} (h : Change b es b') :
    b.lastTag ≤ b'.lastTag := by
  cases h with
  | delivered s x e rest => exact Nat.le_succ _
  | _ => exact le_rfl

theorem nextConsumer_change {b b' : Broker} {es : List Event} (h : Change b es b') :
    b.nextConsumer ≤ b'.nextConsumer := by
  cases h with
  | numbered i j k => exact Nat.le_add_right _ _
  | subscribed c q n => exact Nat.le_succ _
  | _ => exact le_rfl

theorem unacked_change {b b' : Broker} {es : List Event} (h : Change b es b') {u : Unacked}
    (hu : u ∈ b'.unacked) : u ∈ b.unacked ∨ ∃ s e rest, b.subscription? s.tag = some s ∧
      b.readyOf s.queue = e :: rest ∧ u = b.entry s e ∧ b'.lastTag = b.lastTag + 1 := by
  cases h with
  | delivered s x e rest found up room queue front =>
    simp only [handedOut, List.mem_append, List.mem_singleton] at hu
    rcases hu with hu | rfl
    · exact Or.inl hu
    · exact Or.inr ⟨s, e, rest, found, by simp [readyOf, queue, front], rfl, rfl⟩
  | acked v => exact Or.inl (List.mem_filter.1 hu).1
  | rejected v k => exact Or.inl (List.mem_filter.1 hu).1
  | closed c => exact Or.inl (List.mem_filter.1 hu).1
  | _ => exact Or.inl hu

theorem toString_injective : Function.Injective (toString : Nat → String) := by
  intro n m h
  have hd : Nat.toDigits 10 n = Nat.toDigits 10 m := by
    simpa [Nat.repr_eq_ofList_toDigits, String.ofList_inj] using (show n.repr = m.repr from h)
  rw [← Nat.ofDigitChars_ten_toDigits (n := n), hd, Nat.ofDigitChars_ten_toDigits]

theorem consumerTag_injective : Function.Injective consumerTag := by
  intro n m h
  simp only [consumerTag, ConsumerTag.mk.injEq, String.append_right_inj] at h
  exact toString_injective h

structure Sound (b : Broker) : Prop where
  /-- Unacked bodies stand in the order of their deliveries. -/
  ordered : b.unacked.Pairwise (·.tag < ·.tag)
  issued : ∀ u ∈ b.unacked, u.tag ≤ b.lastTag
  housed : ∀ u ∈ b.unacked, b.hasQueue u.queue = true
  distinct : b.subscriptions.Pairwise (·.tag ≠ ·.tag)
  named : ∀ s ∈ b.subscriptions, ∃ n < b.nextConsumer, s.tag = consumerTag n

namespace Sound

variable {b b' : Broker} {es : List Event}

theorem empty : Sound {} := by constructor <;> simp

theorem notified (h : Sound b) : Sound b.notified := ⟨h.ordered, h.issued, h.housed, h.distinct, h.named⟩

theorem filter_unacked (h : Sound b) (p : Unacked → Bool) :
    Sound { b with unacked := b.unacked.filter p } where
  ordered := h.ordered.filter p
  issued u hu := h.issued u (List.mem_filter.1 hu).1
  housed u hu := h.housed u (List.mem_filter.1 hu).1
  distinct := h.distinct
  named := h.named

theorem filter_subscriptions (h : Sound b) (p : Subscription → Bool) :
    Sound { b with subscriptions := b.subscriptions.filter p } where
  ordered := h.ordered
  issued := h.issued
  housed := h.housed
  distinct := h.distinct.filter p
  named s hs := h.named s (List.mem_filter.1 hs).1

theorem onSubscription (h : Sound b) (t : ConsumerTag) (f : Subscription → Subscription)
    (hf : ∀ s, (f s).tag = s.tag) : Sound (b.onSubscription t f) where
  ordered := h.ordered
  issued := h.issued
  housed := h.housed
  distinct := by
    refine List.pairwise_map.2 (h.distinct.imp fun {s r} hne => ?_)
    split <;> split <;> simpa [hf] using hne
  named s hs := by
    obtain ⟨r, hr, rfl⟩ := List.mem_map.1 hs
    obtain ⟨n, hn, ht⟩ := h.named r hr
    exact ⟨n, hn, by split <;> simp [hf, ht]⟩

theorem unique (h : Sound b) {s r : Subscription} (hs : s ∈ b.subscriptions) (hr : r ∈ b.subscriptions)
    (ht : s.tag = r.tag) : s = r :=
  List.inj_on_of_nodup_map (List.pairwise_map.2 h.distinct) hs hr ht

theorem tags_nodup (h : Sound b) : (b.unacked.map (·.tag)).Nodup :=
  List.pairwise_map.2 (h.ordered.imp ne_of_lt)

theorem sole (h : Sound b) {u v : Unacked} (hu : u ∈ b.unacked) (hv : v ∈ b.unacked)
    (ht : u.tag = v.tag) : u = v :=
  List.inj_on_of_nodup_map h.tags_nodup hu hv ht

theorem subscription?_of_mem (h : Sound b) {s : Subscription} (hs : s ∈ b.subscriptions) :
    b.subscription? s.tag = some s := by
  cases hr : b.subscription? s.tag with
  | none => exact absurd (List.find?_eq_none.1 hr s hs) (by simp)
  | some r => rw [h.unique (List.mem_of_find?_eq_some hr) hs (subscription?_tag hr)]

theorem unacked?_of_mem (h : Sound b) {u : Unacked} (hu : u ∈ b.unacked) :
    b.unacked? u.tag = some u := by
  cases hr : b.unacked? u.tag with
  | none => exact absurd (List.find?_eq_none.1 hr u hu) (by simp)
  | some v => rw [h.sole (List.mem_of_find?_eq_some hr) hu (unacked?_tag hr)]

theorem unackedOf_tag (h : Sound b) {u : Unacked} (hu : u ∈ b.unacked) (q : String) :
    (b.unackedOf q).filter (·.tag = u.tag) = if u.queue = q then [u] else [] := by
  have hone : b.unacked.filter (·.tag = u.tag) = [u] := by
    have hcongr : b.unacked.filter (·.tag = u.tag) = b.unacked.filter (· = u) := by
      refine List.filter_congr fun v hv => decide_eq_decide.2 ⟨h.sole hv hu, ?_⟩
      rintro rfl
      rfl
    rw [hcongr, List.filter_eq, List.count_eq_one_of_mem h.tags_nodup.of_map hu]
    rfl
  rw [unackedOf, List.filter_comm, hone]
  by_cases hq : u.queue = q <;> simp [hq]

theorem tag_mem_iff (h : Sound b) {u : Unacked} (hu : u ∈ b.unacked) (c : ChannelId) :
    u.tag ∈ (b.unacked.filter (·.channel = c)).map (·.tag) ↔ u.channel = c := by
  constructor
  · intro ht
    obtain ⟨v, hv, ht⟩ := List.mem_map.1 ht
    obtain ⟨hv, hc⟩ := List.mem_filter.1 hv
    rw [← h.sole hv hu ht]
    exact of_decide_eq_true hc
  · intro hc
    exact List.mem_map_of_mem (List.mem_filter.2 ⟨hu, decide_eq_true hc⟩)

theorem unacked?_handedOut (h : Sound b) (s : Subscription) (e : Envelope) :
    (b.handedOut s e).unacked? (b.entry s e).tag = some (b.entry s e) := by
  have hn : b.unacked.find? (fun u => decide (u.tag = (b.entry s e).tag)) = none := by
    refine List.find?_eq_none.2 fun u hu => ?_
    have hu : u.tag ≠ b.lastTag + 1 := (Nat.lt_succ_of_le (h.issued u hu)).ne
    simp [entry, hu]
  simp only [unacked?, handedOut, List.find?_append, hn, Option.none_or]
  simp

theorem fresh (h : Sound b) : ∀ s ∈ b.subscriptions, s.tag ≠ consumerTag b.nextConsumer := by
  intro s hs he
  obtain ⟨n, hn, ht⟩ := h.named s hs
  exact absurd (consumerTag_injective (ht.symm.trans he)) hn.ne

theorem joined (h : Sound b) (c : ChannelId) (q : String) (n : Nat) : Sound (b.joined c q n) where
  ordered := h.ordered
  issued := h.issued
  housed := h.housed
  distinct := by
    refine List.pairwise_append.2 ⟨h.distinct, List.pairwise_singleton _ _, fun s hs r hr => ?_⟩
    rw [List.mem_singleton.1 hr]
    exact h.fresh s hs
  named s hs := by
    rcases List.mem_append.1 hs with hs | hs
    · obtain ⟨m, hm, ht⟩ := h.named s hs
      exact ⟨m, hm.trans (Nat.lt_succ_self _), ht⟩
    · rw [List.mem_singleton.1 hs]
      exact ⟨b.nextConsumer, Nat.lt_succ_self _, rfl⟩

theorem settled (h : Sound b) (u : Unacked) : Sound (b.settled u) :=
  have hs := (h.filter_unacked (·.tag ≠ u.tag)).onSubscription u.consumer
    (fun s => { s with inFlight := s.inFlight - 1 }) fun _ => rfl
  hs.notified

theorem handedOut (h : Sound b) {s : Subscription} {e : Envelope} (known : b.hasQueue s.queue = true)
    (housed : ∀ q, b.hasQueue q = true → (b.handedOut s e).hasQueue q = true) :
    Sound (b.handedOut s e) where
  ordered := by
    refine List.pairwise_append.2 ⟨h.ordered, List.pairwise_singleton _ _, fun u hu v hv => ?_⟩
    rw [List.mem_singleton.1 hv]
    exact Nat.lt_succ_of_le (h.issued u hu)
  issued u hu := by
    rcases List.mem_append.1 hu with hu | hu
    · exact (h.issued u hu).trans (Nat.le_succ _)
    · rw [List.mem_singleton.1 hu]
      exact le_rfl
  housed u hu := by
    rcases List.mem_append.1 hu with hu | hu
    · exact housed _ (h.housed u hu)
    · rw [List.mem_singleton.1 hu]
      exact housed _ known
  distinct := (h.onSubscription s.tag (fun s => { s with inFlight := s.inFlight + 1 }) fun _ => rfl).distinct
  named := (h.onSubscription s.tag (fun s => { s with inFlight := s.inFlight + 1 }) fun _ => rfl).named

/-- Every change keeps a broker sound. -/
theorem change (h : Sound b) (c : Change b es b') : Sound b' := by
  have kept : ∀ q, b.hasQueue q = true → b'.hasQueue q = true := fun q => hasQueue_change c
  cases c with
  | still => exact h
  | numbered i j k =>
    exact ⟨h.ordered, h.issued, h.housed, h.distinct, fun s hs =>
      (h.named s hs).imp fun n hn => ⟨hn.1.trans_le (Nat.le_add_right _ _), hn.2⟩⟩
  | connected up => exact ⟨h.ordered, h.issued, h.housed, h.distinct, h.named⟩
  | declared q n new =>
    exact ⟨h.ordered, h.issued, fun u hu => kept _ (h.housed u hu), h.distinct, h.named⟩
  | sent c q l =>
    exact ⟨h.ordered, h.issued, fun u hu => kept _ (h.housed u hu), h.distinct, h.named⟩
  | subscribed c q n => exact h.joined c q n
  | unsubscribed s => exact (h.filter_subscriptions _).notified
  | delivered s x e rest found up room queue front =>
    exact h.handedOut (by simp [hasQueue_eq, queue]) kept
  | acked u => exact h.settled u
  | rejected u k =>
    have hs := h.settled u
    exact ⟨hs.ordered, hs.issued, fun v hv => kept _ (hs.housed v hv), hs.distinct, hs.named⟩
  | closed c =>
    have hs := (h.filter_unacked (·.channel ≠ c)).filter_subscriptions (·.channel ≠ c)
    exact ⟨hs.ordered, hs.issued, fun u hu => kept _ (hs.housed u hu), hs.distinct, hs.named⟩

end Sound

theorem Run.sound {es : List Event} {b : Broker} (h : Run es b) : Sound b := by
  induction h with
  | nil => exact .empty
  | snoc a _ ih => exact ih.change (Broker.change _ a)

theorem missed_change {b b' : Broker} {es : List Event} (c : Change b es b') :
    ∀ t ∈ b'.missed, t ∈ b.missed ∨ ∃ s ∈ b.subscriptions, s.tag = t := by
  intro t ht
  cases c with
  | connected up missed listed => exact Or.inr (listed t ht)
  | sent | unsubscribed | acked | rejected | closed => cases ht
  | _ => exact Or.inl ht

/-- Whose dispatcher is left waiting has subscribed before. -/
theorem Run.missed_named {es : List Event} {b : Broker} (h : Run es b) :
    ∀ t ∈ b.missed, ∃ n < b.nextConsumer, t = consumerTag n := by
  induction h with
  | nil => simp
  | @snoc es b a run ih =>
    intro t ht
    have later := nextConsumer_change (Broker.change b a)
    rcases missed_change (Broker.change b a) t ht with old | ⟨s, hs, rfl⟩
    · exact (ih t old).imp fun n hn => ⟨hn.1.trans_le later, hn.2⟩
    · exact (run.sound.named s hs).imp fun n hn => ⟨hn.1.trans_le later, hn.2⟩

theorem Run.awake {es : List Event} {b : Broker} (h : Run es b) :
    b.missed ≠ some (consumerTag b.nextConsumer) := by
  intro ht
  obtain ⟨n, hn, he⟩ := h.missed_named _ ht
  exact absurd (consumerTag_injective he) hn.ne'

/-- Nothing hangs on a channel that is closed. -/
structure Attached (b : Broker) : Prop where
  subscriptions : ∀ s ∈ b.subscriptions, b.isClosed s.channel = false
  unacked : ∀ u ∈ b.unacked, b.isClosed u.channel = false

theorem isClosed_of_usable {b : Broker} {c : ChannelId} (h : b.usable c = .ok ()) :
    b.isClosed c = false := by
  unfold usable at h
  cases hc : b.isClosed c with
  | false => rfl
  | true => simp [hc] at h

theorem isClosed_shut {b : Broker} {c d : ChannelId} (still : b.isClosed d = false) (other : d ≠ c) :
    (b.shut c).isClosed d = false := by
  simp only [isClosed, List.contains_eq_mem, decide_eq_false_iff_not] at still ⊢
  simp [shut, still, other]

namespace Attached

variable {b b' : Broker} {es : List Event}

theorem onSubscription (h : Attached b) (t : ConsumerTag) (f : Nat → Nat) :
    Attached (b.onSubscription t fun s => { s with inFlight := f s.inFlight }) := by
  refine ⟨fun s hs => ?_, h.unacked⟩
  obtain ⟨r, hr, rfl⟩ := mem_onSubscription hs
  exact h.subscriptions r hr

theorem settled (h : Attached b) (u : Unacked) : Attached (b.settled u) := by
  have hs := h.onSubscription u.consumer (· - 1)
  exact ⟨hs.subscriptions, fun v hv => h.unacked v (List.mem_filter.1 hv).1⟩

theorem change (h : Attached b) (c : Change b es b') : Attached b' := by
  cases c with
  | subscribed c q n usable known =>
    refine ⟨fun s hs => ?_, h.unacked⟩
    rcases List.mem_append.1 hs with hs | hs
    · exact h.subscriptions s hs
    · rw [List.mem_singleton.1 hs]
      exact isClosed_of_usable usable
  | unsubscribed s => exact ⟨fun r hr => h.subscriptions r (List.mem_filter.1 hr).1, h.unacked⟩
  | delivered s x e rest found up room queue front =>
    have hs := h.onSubscription s.tag (· + 1)
    refine ⟨hs.subscriptions, fun u hu => ?_⟩
    rcases List.mem_append.1 hu with hu | hu
    · exact h.unacked u hu
    · rw [List.mem_singleton.1 hu]
      exact h.subscriptions s (List.mem_of_find?_eq_some found)
  | acked u => exact h.settled u
  | rejected u k =>
    have hs := h.settled u
    exact ⟨hs.subscriptions, hs.unacked⟩
  | closed c =>
    constructor
    · intro s hs
      obtain ⟨hs, hc⟩ := List.mem_filter.1 hs
      exact isClosed_shut (h.subscriptions s hs) (of_decide_eq_true hc)
    · intro u hu
      obtain ⟨hu, hc⟩ := List.mem_filter.1 hu
      exact isClosed_shut (h.unacked u hu) (of_decide_eq_true hc)
  | _ => exact ⟨h.subscriptions, h.unacked⟩

end Attached

theorem Run.attached {es : List Event} {b : Broker} (h : Run es b) : Attached b := by
  induction h with
  | nil => constructor <;> simp
  | snoc a _ ih => exact ih.change (Broker.change _ a)

end QueueProbe.Broker
