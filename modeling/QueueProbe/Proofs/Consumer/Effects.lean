import QueueProbe.Proofs.Consumer.Happenings

/-! All that a happening can do to what matters of a bench: the broker, the workers without their
credits, the stores and the consumers. -/

namespace QueueProbe

variable {K V : Type}

def Seat.handle (s : Seat K V) : Handle := ⟨s.tag, s.channel, s.how.queue⟩

structure Clerk (K V : Type) extends Seat K V where
  phase : Phase

def Worker.clerk? (k : Worker K V) : Option (Clerk K V) :=
  match k.duty with
  | .filing f => some ⟨⟨k.tag, k.channel, f⟩, k.phase⟩
  | .listening _ => none

/-- The tag of a worker that files for no consumer. -/
def Worker.stranger? (k : Worker K V) : Option ConsumerTag :=
  match k.duty with
  | .filing _ => none
  | .listening _ => some k.tag

structure Scene (K V : Type) where
  broker : Broker
  crew : List (Clerk K V)
  strangers : List ConsumerTag
  stores : List (Store K V)
  consumers : List Consumer

def Bench.scene (w : Bench K V) : Scene K V where
  broker := w.broker
  crew := w.workers.filterMap Worker.clerk?
  strangers := w.workers.filterMap Worker.stranger?
  stores := w.stores
  consumers := w.consumers

namespace Stats

/-- The books once a delivery is handled, by what is to be done with it. -/
def handled (s : Stats) : Option Bool → Stats
  | none => { s with delivered := s.delivered + 1, stored := s.stored + 1 }
  | some true => { s with delivered := s.delivered + 1, rejected := s.rejected + 1 }
  | some false => { s with delivered := s.delivered + 1, deadLettered := s.deadLettered + 1 }

def failed (s : Stats) : Stats := { s with transportFailures := s.transportFailures + 1 }

end Stats

namespace Scene

def setPhase (s : Scene K V) (t : ConsumerTag) (p : Phase) : Scene K V :=
  { s with crew := s.crew.map fun k => if k.tag = t then { k with phase := p } else k }

def dismiss (s : Scene K V) (t : ConsumerTag) : Scene K V :=
  { s with crew := s.crew.filter (·.tag ≠ t), strangers := s.strangers.filter (· ≠ t) }

def tally (s : Scene K V) (n : Nat) (f : Stats → Stats) : Scene K V :=
  { s with consumers := s.consumers.modify n fun x => { x with stats := f x.stats } }

def onActive (s : Scene K V) (n : Nat) (f : Lock (Option Handle) → Lock (Option Handle)) : Scene K V :=
  { s with consumers := s.consumers.modify n fun x => { x with active := f x.active } }

def keep [DecidableEq K] (s : Scene K V) (n : Nat) (key : K) (m : Message V) : Scene K V :=
  match s.consumers[n]? with
  | some x => { s with stores := s.stores.modify x.store (·.put key m) }
  | none => s

def nextSeat (s : Scene K V) (x : Consumer) (f : Filing K V) : Seat K V :=
  ⟨Broker.consumerTag s.broker.nextConsumer, x.channel, f⟩

def join (s : Scene K V) (x : Consumer) (f : Filing K V) : Scene K V :=
  let manned : Scene K V := { s with
    broker := s.broker.joined x.channel f.queue x.prefetch
    crew := s.crew ++ [⟨s.nextSeat x f, .idle⟩] }
  manned.onActive f.consumer (·.put (some (s.nextSeat x f).handle))

theorem tags_setPhase (s : Scene K V) (t : ConsumerTag) (p : Phase) :
    (s.setPhase t p).crew.map (·.tag) = s.crew.map (·.tag) := by
  rw [setPhase, List.map_map]
  refine List.map_congr_left fun k _ => ?_
  simp only [Function.comp_apply]
  split <;> rfl

theorem consumers_onActive (s : Scene K V) (n : Nat) (f : Lock (Option Handle) → Lock (Option Handle))
    (i : Nat) : (s.onActive n f).consumers[i]? = if n = i then (s.consumers[i]?).map fun y =>
      { y with active := f y.active } else s.consumers[i]? := by
  simp only [Scene.onActive, List.getElem?_modify]
  split
  · rfl
  · cases s.consumers[i]? <;> rfl

theorem tally_tally (s : Scene K V) (n : Nat) (f g : Stats → Stats) :
    (s.tally n f).tally n g = s.tally n (g ∘ f) := by
  simp only [tally, List.modify_modify_eq]
  rfl

theorem keep_eq [DecidableEq K] (s : Scene K V) (n : Nat) (key : K) (m : Message V) :
    s.keep n key m = { s with stores := (s.keep n key m).stores } := by
  unfold keep
  split <;> rfl

@[simp] theorem broker_keep [DecidableEq K] (s : Scene K V) (n : Nat) (key : K) (m : Message V) :
    (s.keep n key m).broker = s.broker := by rw [keep_eq]

@[simp] theorem crew_keep [DecidableEq K] (s : Scene K V) (n : Nat) (key : K) (m : Message V) :
    (s.keep n key m).crew = s.crew := by rw [keep_eq]

@[simp] theorem consumers_keep [DecidableEq K] (s : Scene K V) (n : Nat) (key : K) (m : Message V) :
    (s.keep n key m).consumers = s.consumers := by rw [keep_eq]

theorem keep_tally [DecidableEq K] (s : Scene K V) (n : Nat) (f : Stats → Stats) (key : K)
    (m : Message V) : (s.tally n f).keep n key m = (s.keep n key m).tally n f := by
  simp only [keep, tally, List.getElem?_modify_eq]
  cases s.consumers[n]? <;> rfl

end Scene

/-- What a happening comes to. -/
inductive Effect [DecidableEq K] (s : Scene K V) : List (Mark K V) → Scene K V → Prop where
  | still : Effect s [] s
  | acted (a : Broker.Act) (free : ∀ t, a = .deliver t → ∀ x ∈ s.consumers, ∀ h,
      x.active.value = some h → h.tag ≠ t) : Effect s [.asked a] { s with broker := s.broker.act a }
  | stored : Effect s [] { s with stores := s.stores ++ [{}] }
  | enrolled (x : Consumer) (idle : x.active.value = none) (clean : x.stats = {})
      (bounded : 0 < x.prefetch) : Effect s [] { s with consumers := s.consumers ++ [x] }
  | joined (f : Filing K V) (x : Consumer) (found : s.consumers[f.consumer]? = some x)
      (idle : x.active.value = none) (usable : s.broker.usable x.channel = .ok ())
      (housed : s.broker.hasQueue f.queue = true) :
      Effect s [.joined (s.nextSeat x f) x.prefetch] (s.join x f)
  | spoiled (n : Nat) : Effect s [] (s.onActive n (·.poison))
  | forgot (n : Nat) (x : Consumer) (h : Handle) (found : s.consumers[n]? = some x)
      (active : x.active.value = some h) (gone : s.broker.subscription? h.tag = none)
      (nobody : ∀ k ∈ s.crew, k.tag ≠ h.tag) : Effect s [] (s.onActive n (·.put none))
  | took (k : Clerk K V) (d : Delivery) (b : Broker) (found : k ∈ s.crew) (free : k.phase = .idle)
      (delivered : s.broker.deliver k.tag = some (d, b)) :
      Effect s [.took k.toSeat d] ({ s with broker := b }.setPhase k.tag (.holding d))
  | filed (k : Clerk K V) (d : Delivery) (key : K) (m : Message V) (found : k ∈ s.crew)
      (held : k.phase = .holding d) (good : Bench.index k.how d = .ok (key, m)) :
      Effect s [.filed k.toSeat d key m]
        (((s.keep k.how.consumer key m).tally k.how.consumer (·.handled none)).setPhase k.tag
          (.settling d none))
  | refused (k : Clerk K V) (d : Delivery) (e : QueueError) (found : k ∈ s.crew)
      (held : k.phase = .holding d) (bad : Bench.index k.how d = .error e) :
      Effect s [.refused k.toSeat d e]
        ((s.tally k.how.consumer (·.handled (some (k.how.policy.keeps d.count.toNat)))).setPhase k.tag
          (.settling d (some (k.how.policy.keeps d.count.toNat))))
  | settled (k : Clerk K V) (d : Delivery) (r : Option Bool) (u : Unacked) (found : k ∈ s.crew)
      (due : k.phase = .settling d r) (usable : s.broker.usable u.channel = .ok ())
      (entry : s.broker.unacked? u.tag = some u) (tag : u.tag = d.tag) (channel : u.channel = k.channel) :
      Effect s [.settled ⟨k.toSeat, d, r⟩ (.ok ())]
        ({ s with broker := s.broker.act (.settle k.channel d.tag r) }.setPhase k.tag .idle)
  | failed (k : Clerk K V) (d : Delivery) (r : Option Bool) (e : BrokerError) (found : k ∈ s.crew)
      (due : k.phase = .settling d r) :
      Effect s [.settled ⟨k.toSeat, d, r⟩ (.error e)]
        ((s.tally k.how.consumer (·.failed)).setPhase k.tag .idle)
  | crashed (k : Clerk K V) (d : Delivery) (r : Option Bool) (p : Panic) (found : k ∈ s.crew)
      (due : k.phase = .settling d r) :
      Effect s [.settled ⟨k.toSeat, d, r⟩ (.panic p)] (s.dismiss k.tag)
  | departed (k : Clerk K V) (found : k ∈ s.crew) (free : k.phase = .idle)
      (gone : s.broker.subscription? k.tag = none) : Effect s [] (s.dismiss k.tag)

theorem Effect.strangers [DecidableEq K] {s s' : Scene K V} {new : List (Mark K V)}
    (h : Effect s new s') (none : s.strangers = []) : s'.strangers = [] := by
  cases h with
  | crashed k | departed k => simp [Scene.dismiss, none]
  | filed k d key m =>
    have kept : (s.keep k.how.consumer key m).strangers = s.strangers := by rw [Scene.keep_eq]
    exact kept.trans none
  | _ => exact none

namespace Bench

@[simp] theorem broker_scene (w : Bench K V) : w.scene.broker = w.broker := rfl

@[simp] theorem consumers_scene (w : Bench K V) : w.scene.consumers = w.consumers := rfl

@[simp] theorem stores_scene (w : Bench K V) : w.scene.stores = w.stores := rfl

@[simp] theorem scene_note (w : Bench K V) (m : Note) : (w.note m).scene = w.scene := rfl

@[simp] theorem scene_broker (w : Bench K V) (b : Broker) :
    ({ w with broker := b } : Bench K V).scene = { w.scene with broker := b } := rfl

@[simp] theorem scene_count (w : Bench K V) (n : Nat) (f : Stats → Stats) :
    (w.count n f).scene = w.scene.tally n f := rfl

@[simp] theorem scene_keep [DecidableEq K] (w : Bench K V) (n : Nat) (key : K) (m : Message V) :
    (w.keep n key m).scene = w.scene.keep n key m := by
  unfold keep Scene.keep
  rw [consumers_scene]
  cases w.consumers[n]? <;> rfl

theorem scene_credit (w : Bench K V) (t : ConsumerTag) (f : Option Nat → Option Nat) :
    (w.onWorker t fun k => { k with credits := f k.credits }).scene = w.scene := by
  simp only [scene, onWorker, List.filterMap_map]
  congr 2 <;> funext k <;> simp only [Function.comp_apply] <;> split <;> rfl

@[simp] theorem scene_setPhase (w : Bench K V) (t : ConsumerTag) (p : Phase) :
    (w.setPhase t p).scene = w.scene.setPhase t p := by
  simp only [scene, setPhase, Scene.setPhase, onWorker, List.filterMap_map, List.map_filterMap]
  congr 2
  · funext k
    simp only [Function.comp_apply, Worker.clerk?]
    cases hd : k.duty <;> by_cases ht : k.tag = t <;> simp [hd, ht]
  · funext k
    simp only [Function.comp_apply, Worker.stranger?]
    cases hd : k.duty <;> by_cases ht : k.tag = t <;> simp [hd, ht]

@[simp] theorem scene_dismiss (w : Bench K V) (t : ConsumerTag) :
    (w.dismiss t).scene = w.scene.dismiss t := by
  simp only [scene, dismiss, Scene.dismiss, List.filterMap_filter, List.filter_filterMap]
  congr 2
  · funext k
    simp only [Worker.clerk?]
    cases hd : k.duty <;> by_cases ht : k.tag = t <;> simp [Option.filter, ht]
  · funext k
    simp only [Worker.stranger?]
    cases hd : k.duty <;> by_cases ht : k.tag = t <;> simp [Option.filter, ht]

section Steps

variable {w : Bench K V} {k : Worker K V} {f : Filing K V} {d : Delivery} {r : Option Bool}

theorem clerk_mem (hk : k ∈ w.workers) (duty : k.duty = .filing f) :
    ⟨⟨k.tag, k.channel, f⟩, k.phase⟩ ∈ w.scene.crew :=
  List.mem_filterMap.2 ⟨k, hk, by simp [Worker.clerk?, duty]⟩

theorem clerk_of_mem {c : Clerk K V} (hc : c ∈ w.scene.crew) :
    ∃ k ∈ w.workers, k.duty = .filing c.how ∧ k.tag = c.tag ∧ k.channel = c.channel ∧
      k.phase = c.phase := by
  obtain ⟨k, hk, hc⟩ := List.mem_filterMap.1 hc
  cases duty : k.duty with
  | listening l => simp [Worker.clerk?, duty] at hc
  | filing f =>
    obtain rfl : ⟨⟨k.tag, k.channel, f⟩, k.phase⟩ = c := by simpa [Worker.clerk?, duty] using hc
    exact ⟨k, hk, duty, rfl, rfl, rfl⟩

theorem duty_of_mem (staffed : w.scene.strangers = []) (hk : k ∈ w.workers) :
    ∃ f, k.duty = .filing f := by
  have none := List.filterMap_eq_nil_iff.1 staffed k hk
  cases duty : k.duty with
  | listening l => simp [Worker.stranger?, duty] at none
  | filing f => exact ⟨f, rfl⟩

theorem isSubscribed_false {t : ConsumerTag} (h : w.isSubscribed t = false) :
    w.broker.subscription? t = none := by
  simpa [isSubscribed, Broker.subscription?] using h

/-- A settle reaches the broker and does what it asks, or it does nothing at all. -/
theorem settling_cases (w : Bench K V) (c : ChannelId) (n : Nat) (r : Option Bool) :
    (∃ u, w.broker.usable u.channel = .ok () ∧ w.broker.unacked? u.tag = some u ∧ u.tag = n ∧
      u.channel = c ∧ w.settling c n r = (.ok (), { w with broker := w.broker.act (.settle c n r) })) ∨
    (∃ e, w.settling c n r = (.error e, w)) ∨ ∃ p, w.settling c n r = (.panic p, w) := by
  cases r with
  | none =>
    simp only [settling, ack, through]
    cases w.faults.get? (c, .ack) with
    | some g => cases g <;> simp
    | none =>
      rcases w.broker.ack_cases c n with ⟨u, hu, hn, rfl, h⟩ | ⟨e, h⟩
      · obtain rfl := Broker.unacked?_tag hn
        exact Or.inl ⟨u, hu, hn, rfl, rfl, by simp [h, Outcome.ofExcept, Broker.Act.settle, Broker.act]⟩
      · exact Or.inr (Or.inl ⟨e, by simp [h, Outcome.ofExcept]⟩)
  | some k =>
    simp only [settling, reject, through]
    cases w.faults.get? (c, .reject) with
    | some g => cases g <;> simp
    | none =>
      rcases w.broker.reject_cases c n k with ⟨u, hu, hn, rfl, h⟩ | ⟨e, h⟩
      · obtain rfl := Broker.unacked?_tag hn
        exact Or.inl ⟨u, hu, hn, rfl, rfl, by simp [h, Outcome.ofExcept, Broker.Act.settle, Broker.act]⟩
      · exact Or.inr (Or.inl ⟨e, by simp [h, Outcome.ofExcept]⟩)

theorem settle_scene (duty : k.duty = .filing f) : (w.settle k d r).scene =
    match w.settling k.channel d.tag r with
    | (.ok (), w') => w'.scene.setPhase k.tag .idle
    | (.error _, w') => (w'.scene.tally f.consumer (·.failed)).setPhase k.tag .idle
    | (.panic _, w') => w'.scene.dismiss k.tag := by
  unfold settle settling
  rw [duty]
  cases r with
  | none =>
    dsimp only
    obtain ⟨a, w'⟩ := w.ack k.channel d.tag
    cases a <;> simp [Stats.failed]
  | some requeue =>
    dsimp only
    obtain ⟨a, w'⟩ := w.reject k.channel d.tag requeue
    cases a <;> simp [Stats.failed]

variable [DecidableEq K]

theorem settle_effect (hk : k ∈ w.workers) (duty : k.duty = .filing f) (due : k.phase = .settling d r) :
    Effect w.scene [.settled ⟨⟨k.tag, k.channel, f⟩, d, r⟩ (w.settling k.channel d.tag r).1]
      (w.settle k d r).scene := by
  have found := clerk_mem hk duty
  rw [due] at found
  rw [settle_scene duty]
  rcases w.settling_cases k.channel d.tag r with ⟨u, hu, hn, ht, hc, h⟩ | ⟨e, h⟩ | ⟨p, h⟩
  · rw [h]
    exact .settled _ d r u found rfl hu hn ht hc
  · rw [h]
    exact .failed _ d r e found rfl
  · rw [h]
    exact .crashed _ d r p found rfl

theorem take_effect (hk : k ∈ w.workers) (duty : k.duty = .filing f) (free : k.phase = .idle) :
    Effect w.scene ((w.broker.deliver k.tag).map fun a => .took ⟨k.tag, k.channel, f⟩ a.1).toList
      ((w.take k.tag).getD w).scene := by
  have found := clerk_mem hk duty
  rw [free] at found
  unfold take
  cases h : w.broker.deliver k.tag with
  | none => exact .still
  | some a =>
    have ht := Effect.took _ a.1 a.2 found rfl h
    simpa using ht

theorem start_effect (w : Bench K V) (n : Nat) (q : String) (decoder : Decoder V) (key : KeyFn K V)
    (policy : FailurePolicy) (credits : Option Nat) :
    Effect w.scene (w.marks (.start n q decoder key policy credits))
      (w.start n q decoder key policy credits).2.scene := by
  simp only [marks, start]
  cases hx : w.consumers[n]? with
  | none => exact .still
  | some x =>
    dsimp only
    cases ht : x.active.take QueueError.synchronisation with
    | error e => exact .still
    | ok active =>
      cases active with
      | some a => exact .still
      | none =>
        have idle : x.active.value = none := by
          unfold Lock.take at ht
          split at ht
          · cases ht
          · exact Except.ok.inj ht
        unfold subscribe through
        rw [unstarted_note]
        cases hf : w.faults.get? (x.channel, .subscribe) with
        | some g =>
          simp only [note, hf]
          cases g with
          | refuse => exact .still
          | crash => exact .spoiled n
        | none =>
          rcases w.broker.subscribe_cases x.channel q x.prefetch w.unstarted with
            ⟨hu, hq, -, hs⟩ | ⟨e, j, hs⟩
          · have h := Effect.joined (s := w.scene) ⟨n, q, decoder, key, policy⟩ x hx idle hu hq
            simpa [note, hf, hs, Outcome.ofExcept, Scene.join, scene, List.filterMap_cons, Worker.clerk?,
              Worker.stranger?, setActive, onConsumer, Scene.onActive, Scene.nextSeat, Seat.handle] using h
          · have h := Effect.acted (s := w.scene) (.subscribe x.channel q x.prefetch w.unstarted) (by simp)
            simpa [note, hf, hs, Outcome.ofExcept, Broker.act, scene] using h

theorem newConsumer_effect (w : Bench K V) (c : ChannelId) (store prefetch : Nat) :
    Effect w.scene [] (w.newConsumer c store prefetch).2.scene := by
  unfold newConsumer
  by_cases hp : prefetch = 0
  · have h := Effect.enrolled (s := w.scene) { channel := c, store, prefetch := defaultPrefetch }
      rfl rfl (Nat.succ_pos _)
    simpa [hp, scene, note] using h
  · have h := Effect.enrolled (s := w.scene) { channel := c, store, prefetch } rfl rfl
      (Nat.pos_of_ne_zero hp)
    simpa [hp, scene] using h

variable [Debug K]

theorem file_effect (hk : k ∈ w.workers) (duty : k.duty = .filing f) (held : k.phase = .holding d) :
    Effect w.scene
      (match index f d with
        | .ok (key, m) => [.filed ⟨k.tag, k.channel, f⟩ d key m]
        | .error e => [.refused ⟨k.tag, k.channel, f⟩ d e])
      (w.handle k d).scene := by
  have found := clerk_mem hk duty
  rw [held] at found
  have spent := w.scene_credit k.tag fun c => c.map (· - 1)
  simp only [handle, duty, file]
  cases hi : index f d with
  | ok a =>
    obtain ⟨key, m⟩ := a
    simp only [scene_setPhase, scene_note, scene_count, scene_keep, spent, Scene.keep_tally,
      Scene.tally_tally]
    exact .filed _ d key m found rfl hi
  | error e =>
    have h := Effect.refused _ d e found rfl hi
    dsimp only
    split
    · next hp =>
      simp only [hp] at h
      simp only [scene_setPhase, scene_note, scene_count, spent, Scene.tally_tally]
      exact h
    · next hp =>
      simp only [Bool.eq_false_iff.2 hp] at h
      simp only [scene_setPhase, scene_note, scene_count, spent, Scene.tally_tally]
      exact h

theorem work_effect (staffed : w.scene.strangers = []) (t : ConsumerTag) :
    Effect w.scene (w.effort t) ((w.advance t).getD w).scene := by
  unfold effort advance
  cases hw : w.worker? t with
  | none => exact .still
  | some k =>
    have hk : k ∈ w.workers := List.mem_of_find?_eq_some hw
    obtain rfl : k.tag = t := by simpa using List.find?_some hw
    obtain ⟨f, duty⟩ := duty_of_mem staffed hk
    simp only [duty]
    cases hp : k.phase with
    | idle =>
      dsimp only
      cases hs : w.isSubscribed k.tag with
      | true => exact take_effect hk duty hp
      | false =>
        have gone := isSubscribed_false hs
        have none : w.broker.deliver k.tag = none := by simp [Broker.deliver, gone]
        have found := clerk_mem hk duty
        rw [hp] at found
        have h := Effect.departed _ found rfl gone
        simpa [none, depart, duty] using h
    | holding d =>
      dsimp only
      split
      · exact file_effect hk duty hp
      · exact .still
    | settling d r => exact settle_effect hk duty hp

theorem act_effect (w : Bench K V) (a : Broker.Act) :
    Effect w.scene (w.marks (.act a)) (w.undergo (.act a)).scene := by
  simp only [marks, undergo]
  cases hr : w.reserved a with
  | true => exact .still
  | false =>
    refine Effect.acted (s := w.scene) a fun t ha x hx h active ht => ?_
    subst ha
    have taken : w.reserved (.deliver t) = true :=
      List.any_eq_true.2 ⟨x, hx, by simp [active, ht]⟩
    exact Bool.noConfusion (hr.symm.trans taken)

theorem forget_effect (w : Bench K V) (n : Nat) : Effect w.scene [] (w.undergo (.forget n)).scene := by
  simp only [undergo]
  cases hx : w.consumers[n]? with
  | none => exact .still
  | some x =>
    cases active : x.active.value with
    | none => simpa [active] using Effect.still (s := w.scene)
    | some h =>
      simp only [Option.bind_some, active]
      split
      · exact .still
      · next hg =>
        rw [Bool.not_eq_true, Bool.or_eq_false_iff, Option.isSome_eq_false_iff,
          Option.isNone_iff_eq_none] at hg
        refine Effect.forgot n x h hx active (isSubscribed_false hg.1) fun c hc => ?_
        obtain ⟨k, hk, -, ht, -⟩ := clerk_of_mem hc
        rw [← ht]
        simpa using List.find?_eq_none.1 hg.2 k hk

theorem effect (staffed : w.scene.strangers = []) (h : Happening K V) :
    Effect w.scene (w.marks h) (w.undergo h).scene := by
  cases h with
  | act a => exact w.act_effect a
  | aside change => exact .still
  | newStore => exact .stored
  | newConsumer c store prefetch => exact w.newConsumer_effect c store prefetch
  | start n q decoder key policy credits => exact w.start_effect n q decoder key policy credits
  | work t => exact work_effect staffed t
  | grant c n =>
    simp only [undergo, grant]
    split
    · rw [scene_credit]
      exact .still
    · exact .still
  | forget n => exact w.forget_effect n
  | spoil n => exact .spoiled n

end Steps

variable [DecidableEq K] [Debug K] {w w' : Bench K V} {log new : List (Mark K V)}

theorem Sequel.staffed (h : Sequel w log w') (staffed : w.scene.strangers = []) :
    w'.scene.strangers = [] := by
  induction h with
  | here => exact staffed
  | snoc a _ ih => exact (effect ih a).strangers ih

/-- What every effect keeps, every run from the empty bench has. -/
theorem History.induct {P : List (Mark K V) → Scene K V → Prop} (h : History log w)
    (empty : P [] ({} : Bench K V).scene)
    (step : ∀ {log new s s'}, Effect s new s' → P log s → P (log ++ new) s') : P log w.scene := by
  induction h with
  | here => exact empty
  | snoc a run ih => exact step (effect (Sequel.staffed run rfl) a) ih

end Bench
end QueueProbe
