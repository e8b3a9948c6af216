import Mathlib.Data.List.Nodup
import QueueProbe.Proofs.Broker.Contents
import QueueProbe.Proofs.Handler.Upshots

/-! Custody. A worker's delivery is of the queue its handler consumes, with the body and the count
that the broker has for it, and the record has how the worker came by it. No deed changes that,
whatever befalls the channel or the connection meanwhile. -/

namespace QueueProbe

variable {K V : Type}

def eventsIn (log : List (Entry K V)) : List Broker.Event := log.filterMap Entry.event?

@[simp] theorem eventsIn_append (log new : List (Entry K V)) :
    eventsIn (log ++ new) = eventsIn log ++ eventsIn new :=
  List.filterMap_append

@[simp] theorem eventsIn_told (es : List Broker.Event) :
    eventsIn (es.map (Entry.told (K := K) (V := V))) = es := by
  simp [eventsIn, Entry.event?, Function.comp_def]

@[simp] theorem mem_eventsIn {log : List (Entry K V)} {e : Broker.Event} :
    e ∈ eventsIn log ↔ .told e ∈ log := by
  refine ⟨fun h => ?_, fun h => List.mem_filterMap.2 ⟨_, h, rfl⟩⟩
  obtain ⟨x, hx, he⟩ := List.mem_filterMap.1 h
  cases x <;> cases he
  exact hx

namespace Broker

theorem subscription_change {b b' : Broker} {es : List Event} (h : Change b es b') {s : Subscription}
    (hs : s ∈ b'.subscriptions) : (∃ r ∈ b.subscriptions, r.tag = s.tag ∧ r.queue = s.queue) ∨
      s.tag = consumerTag b.nextConsumer := by
  have counted : ∀ (t : ConsumerTag) (f : Nat → Nat),
      s ∈ b.subscriptions.map (fun r => if r.tag = t then { r with inFlight := f r.inFlight } else r) →
      ∃ r ∈ b.subscriptions, r.tag = s.tag ∧ r.queue = s.queue := by
    intro t f hs
    obtain ⟨r, hr, rfl⟩ := List.mem_map.1 hs
    refine ⟨r, hr, ?_⟩
    split <;> exact ⟨rfl, rfl⟩
  cases h with
  | subscribed c q n =>
    rcases List.mem_append.1 hs with hs | hs
    · exact Or.inl ⟨s, hs, rfl, rfl⟩
    · exact Or.inr (by rw [List.mem_singleton.1 hs])
  | unsubscribed r => exact Or.inl ⟨s, (List.mem_filter.1 hs).1, rfl, rfl⟩
  | closed c => exact Or.inl ⟨s, (List.mem_filter.1 hs).1, rfl, rfl⟩
  | delivered r x e rest => exact Or.inl (counted r.tag (· + 1) hs)
  | acked u => exact Or.inl (counted u.consumer (· - 1) hs)
  | rejected u k => exact Or.inl (counted u.consumer (· - 1) hs)
  | _ => exact Or.inl ⟨s, hs, rfl, rfl⟩

end Broker

/-- What the broker has of a delivery, if it has it still, is what was delivered from the queue of `f`. -/
structure Matches (b : Broker) (f : Filing K V) (d : Delivery) : Prop where
  issued : d.tag ≤ b.lastTag
  entry : ∀ u ∈ b.unacked, u.tag = d.tag →
    u.queue = f.queue ∧ u.envelope.letter = d.letter ∧ u.envelope.deliveryCount = d.count

/-- How a worker with tag `t` came to its phase. -/
inductive Standing (log : List (Entry K V)) (b : Broker) (f : Filing K V) (t : ConsumerTag) :
    Phase → Prop where
  | idle : Standing log b f t .idle
  | holding (s : Subscription) (d : Delivery) (entry : Matches b f d)
      (delivered : .told (.delivered s d) ∈ log) (tag : s.tag = t) (queue : s.queue = f.queue) : Standing log b f t (.holding d)
  | filed (d : Delivery) (key : K) (m : Message V) (entry : Matches b f d)
      (filed : .filed t f d key m ∈ log) : Standing log b f t (.settling d none)
  | refused (d : Delivery) (e : QueueError) (entry : Matches b f d) (refused : .refused t f d e ∈ log) :
      Standing log b f t (.settling d (some (f.policy.keeps d.count.toNat)))

/-- A worker that is a handler's, takes from the handler's queue only, and came duly to its phase. -/
def Duly (log : List (Entry K V)) (v : View K V) (k : Worker K V) : Prop :=
  ∃ f ∈ v.filings, k.duty = .filing f ∧
    (∀ s ∈ v.broker.subscriptions, s.tag = k.tag → s.queue = f.queue) ∧
    Standing log v.broker f k.tag k.phase

structure Manned (log : List (Entry K V)) (v : View K V) : Prop where
  run : Broker.Run (eventsIn log) v.broker
  distinct : (v.crew.map (·.tag)).Nodup
  issued : ∀ k ∈ v.crew, ∃ n < v.broker.nextConsumer, k.tag = Broker.consumerTag n
  duly : ∀ k ∈ v.crew, Duly log v k

variable {log new : List (Entry K V)} {v v' : View K V} {b b' : Broker} {es : List Broker.Event}
  {f : Filing K V} {d : Delivery} {k : Worker K V} {t : ConsumerTag} {p : Phase}

theorem Matches.change (h : Matches b f d) (c : Broker.Change b es b') : Matches b' f d where
  issued := h.issued.trans (Broker.lastTag_change c)
  entry u hu ht := by
    rcases Broker.unacked_change c hu with hu | ⟨s, e, rest, -, -, rfl, -⟩
    · exact h.entry u hu ht
    · have := h.issued
      simp only [Broker.entry] at ht
      omega

theorem Standing.change (h : Standing log b f t p) (c : Broker.Change b es b') :
    Standing (log ++ new) b' f t p := by
  cases h with
  | idle => exact .idle
  | holding s d entry delivered tag queue =>
    exact .holding s d (entry.change c) (List.mem_append_left _ delivered) tag queue
  | filed d key m entry filed => exact .filed d key m (entry.change c) (List.mem_append_left _ filed)
  | refused d e entry refused => exact .refused d e (entry.change c) (List.mem_append_left _ refused)

/-- Workers keep what they have whatever the broker does, as no tag is issued twice. -/
theorem Duly.change (h : Duly log v k) (c : Broker.Change v.broker es b')
    (issued : ∃ n < v.broker.nextConsumer, k.tag = Broker.consumerTag n) (hb : v'.broker = b')
    (hf : v.filings ⊆ v'.filings) : Duly (log ++ new) v' k := by
  subst hb
  obtain ⟨f, known, duty, served, standing⟩ := h
  refine ⟨f, hf known, duty, fun s hs ht => ?_, standing.change c⟩
  rcases Broker.subscription_change c hs with ⟨r, hr, hrt, hrq⟩ | hnew
  · rw [← hrq]
    exact served r hr (hrt.trans ht)
  · obtain ⟨n, hn, hk⟩ := issued
    exact absurd (Broker.consumerTag_injective (hk.symm.trans (ht.symm.trans hnew))) hn.ne

variable [DecidableEq K]

/-- An upshot is at most one act of the broker. -/
theorem Upshot.act (h : Upshot v new v') : (v'.broker = v.broker ∧ eventsIn new = []) ∨
    ∃ a, v'.broker = v.broker.act a ∧ eventsIn new = v.broker.events a := by
  cases h with
  | acted a mild => exact Or.inr ⟨a, rfl, eventsIn_told _⟩
  | joined f c prefetch known usable housed =>
    refine Or.inr ⟨.subscribe c f.queue prefetch, ?_, rfl⟩
    simp [Broker.act, Broker.subscribe_ok usable housed]
  | took k found d b delivered =>
    refine Or.inr ⟨.deliver k.tag, ?_, eventsIn_told _⟩
    simp [Broker.act, delivered, View.setPhase]
  | filed k f d key m => exact Or.inl ⟨View.broker_keep _ _ _ _, rfl⟩
  | acked k d u found due usable entry tag =>
    refine Or.inr ⟨.ack u.channel u.tag, ?_, ?_⟩
    · simp [Broker.act, Broker.ack_ok usable entry, View.setPhase]
    · simp [Broker.events, Broker.ack_ok usable entry, entry, eventsIn, Entry.event?]
  | rejected k d u r found due usable entry tag =>
    refine Or.inr ⟨.reject u.channel u.tag r, ?_, ?_⟩
    · simp [Broker.act, Broker.reject_ok usable entry, View.setPhase]
    · simp [Broker.events, Broker.reject_ok usable entry, entry, eventsIn, Entry.event?]
  | _ => exact Or.inl ⟨rfl, rfl⟩

theorem Upshot.change (h : Upshot v new v') : Broker.Change v.broker (eventsIn new) v'.broker := by
  rcases h.act with ⟨hb, hn⟩ | ⟨a, hb, hn⟩
  · rw [hb, hn]
    exact .still
  · rw [hb, hn]
    exact v.broker.change a

theorem Upshot.filings (h : Upshot v new v') : v.filings ⊆ v'.filings := by
  cases h with
  | built f next => exact List.subset_append_left _ _
  | filed k f d key m => simp [View.setPhase]
  | _ => exact List.Subset.refl _

theorem Upshot.tags (h : Upshot v new v') : (v'.crew.map (·.tag)).Sublist (v.crew.map (·.tag)) ∨
    v'.crew.map (·.tag) = v.crew.map (·.tag) ++ [Broker.consumerTag v.broker.nextConsumer] ∧
      v'.broker.nextConsumer = v.broker.nextConsumer + 1 := by
  cases h with
  | joined f c prefetch known usable housed => exact Or.inr ⟨by simp, rfl⟩
  | dismissed t => exact Or.inl (List.filter_sublist.map _)
  | took | filed | refused | acked | rejected | dropped => exact Or.inl (by simp)
  | _ => exact Or.inl (List.Sublist.refl _)

namespace Manned

omit [DecidableEq K] in
theorem unique (h : Manned log v) {k k' : Worker K V} (hk : k ∈ v.crew) (hk' : k' ∈ v.crew)
    (ht : k.tag = k'.tag) : k = k' := List.inj_on_of_nodup_map h.distinct hk hk' ht

omit [DecidableEq K] in
theorem holding (h : Manned log v) (found : k ∈ v.crew) (duty : k.duty = .filing f)
    (held : k.phase = .holding d) :
    Matches v.broker f d ∧ ∃ s, .told (.delivered s d) ∈ log ∧ s.tag = k.tag ∧ s.queue = f.queue := by
  obtain ⟨f', -, duty', -, standing⟩ := h.duly k found
  obtain rfl : f = f' := by simpa [duty] using duty'
  rw [held] at standing
  cases standing with
  | holding s _ entry delivered tag queue => exact ⟨entry, s, delivered, tag, queue⟩

theorem rephase (h : Manned log v) (hup : Upshot v new v')
    (hcrew : v'.crew = v.crew.map fun k => if k.tag = t then { k with phase := p } else k)
    (hp : ∀ k ∈ v.crew, k.tag = t → ∀ f, k.duty = .filing f → Standing (log ++ new) v'.broker f t p) :
    ∀ k ∈ v'.crew, Duly (log ++ new) v' k := by
  intro k' hk'
  rw [hcrew] at hk'
  obtain ⟨k, hk, rfl⟩ := List.mem_map.1 hk'
  have hduly : Duly (log ++ new) v' k := (h.duly k hk).change hup.change (h.issued k hk) rfl hup.filings
  split
  · next ht =>
    obtain ⟨f, known, duty, served, -⟩ := hduly
    exact ⟨f, known, duty, served, ht ▸ hp k hk ht f duty⟩
  · exact hduly

theorem rephase_one (h : Manned log v) (hup : Upshot v new v') (hk : k ∈ v.crew)
    (hcrew : v'.crew = v.crew.map fun k' => if k'.tag = k.tag then { k' with phase := p } else k')
    (hp : ∀ f, k.duty = .filing f → Standing (log ++ new) v'.broker f k.tag p) :
    ∀ k ∈ v'.crew, Duly (log ++ new) v' k := by
  refine h.rephase hup hcrew fun k' hk' ht f hf => ?_
  obtain rfl := h.unique hk' hk ht
  exact hp f hf

theorem duly_upshot (h : Manned log v) (hup : Upshot v new v') : ∀ k ∈ v'.crew, Duly (log ++ new) v' k := by
  have kept : ∀ k ∈ v.crew, Duly (log ++ new) v' k := fun k hk =>
    (h.duly k hk).change hup.change (h.issued k hk) rfl hup.filings
  have ht := hup
  cases hup with
  | still => exact kept
  | acted a mild => exact kept
  | joined f c prefetch known usable housed =>
    intro k hk
    rcases List.mem_append.1 hk with hk | hk
    · exact kept k hk
    · rw [List.mem_singleton.1 hk]
      refine ⟨f, known, rfl, fun s hs htag => ?_, .idle⟩
      rcases List.mem_append.1 hs with hs | hs
      · exact absurd htag (h.run.sound.fresh s hs)
      · rw [List.mem_singleton.1 hs]
  | built f next => exact kept
  | took k found d b delivered =>
    obtain ⟨s, x, e, rest, hs, -, -, -, -, rfl, rfl⟩ := Broker.deliver_eq delivered
    have htag := Broker.subscription?_tag hs
    refine h.rephase_one ht found rfl fun f duty => ?_
    obtain ⟨f', -, duty', served, -⟩ := h.duly k found
    obtain rfl : f' = f := by simpa [duty] using duty'.symm
    have hq := served s (List.mem_of_find?_eq_some hs) htag
    have hd : .told (.delivered s (Broker.told (v.broker.entry s e))) ∈
        log ++ (v.broker.events (.deliver k.tag)).map (Entry.told (K := K) (V := V)) := by
      simp [Broker.events, hs, delivered]
    refine .holding s _ ⟨le_rfl, fun u hu hut => ?_⟩ hd htag hq
    rcases List.mem_append.1 hu with hu | hu
    · exact absurd hut (Nat.lt_succ_of_le (h.run.sound.issued u hu)).ne
    · rw [List.mem_singleton.1 hu]
      exact ⟨hq, rfl, rfl⟩
  | filed k f d key m found duty held good =>
    refine h.rephase_one (p := .settling d none) ht found (by simp [View.setPhase]) fun f' duty' => ?_
    obtain rfl : f = f' := by simpa [duty] using duty'
    exact .filed d key m ((h.holding found duty held).1.change ht.change) (by simp)
  | refused k f d e found duty held bad =>
    refine h.rephase_one ht found rfl fun f' duty' => ?_
    obtain rfl : f = f' := by simpa [duty] using duty'
    exact .refused d e ((h.holding found duty held).1.change ht.change) (by simp)
  | acked k d u found => exact h.rephase ht rfl fun _ _ _ _ _ => .idle
  | rejected k d u r found => exact h.rephase ht rfl fun _ _ _ _ _ => .idle
  | dropped t => exact h.rephase ht rfl fun _ _ _ _ _ => .idle
  | dismissed t => exact fun k hk => kept k (List.mem_filter.1 hk).1

omit [DecidableEq K] in
theorem empty : Manned [] ({} : Bench K V).view where
  run := .nil
  distinct := List.nodup_nil
  issued := fun k hk => absurd hk (by simp [Bench.view])
  duly := fun k hk => absurd hk (by simp [Bench.view])

theorem upshot (h : Manned log v) (hup : Upshot v new v') : Manned (log ++ new) v' where
  run := by
    rw [eventsIn_append]
    rcases hup.act with ⟨hb, hn⟩ | ⟨a, hb, hn⟩
    · rw [hb, hn, List.append_nil]
      exact h.run
    · rw [hb, hn]
      exact h.run.snoc a
  distinct := by
    rcases hup.tags with ht | ⟨ht, -⟩
    · exact h.distinct.sublist ht
    · rw [ht, List.nodup_append]
      refine ⟨h.distinct, by simp, fun t ht t' ht' => ?_⟩
      obtain ⟨k, hk, rfl⟩ := List.mem_map.1 ht
      obtain ⟨n, hn, hkn⟩ := h.issued k hk
      obtain rfl := List.mem_singleton.1 ht'
      rw [hkn]
      exact fun he => hn.ne (Broker.consumerTag_injective he)
  issued k hk := by
    have old : ∀ t ∈ v.crew.map (·.tag), ∃ n < v'.broker.nextConsumer, t = Broker.consumerTag n := by
      intro t ht
      obtain ⟨k, hk, rfl⟩ := List.mem_map.1 ht
      exact (h.issued k hk).imp fun n hn => ⟨hn.1.trans_le (Broker.nextConsumer_change hup.change), hn.2⟩
    have hk := List.mem_map_of_mem (f := (·.tag)) hk
    rcases hup.tags with ht | ⟨ht, hb⟩
    · exact old _ (ht.subset hk)
    · rw [ht] at hk
      rcases List.mem_append.1 hk with hk | hk
      · exact old _ hk
      · exact ⟨_, by rw [hb]; exact Nat.lt_succ_self _, List.mem_singleton.1 hk⟩
  duly := h.duly_upshot hup

omit [DecidableEq K] in
theorem staffed (h : Manned log v) : v.Staffed := by
  intro k hk
  obtain ⟨f, known, duty, -, -⟩ := h.duly k hk
  exact ⟨f, known, duty⟩

end Manned
end QueueProbe
