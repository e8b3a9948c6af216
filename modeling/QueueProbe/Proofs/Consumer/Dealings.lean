import QueueProbe.Proofs.Broker.Receipts
import QueueProbe.Proofs.Consumer.Errands

/-! What consumers know and what the broker knows. The deliveries that the broker made to a consumer are
those that its workers took; and if nobody else settles them, what the broker has of acks and rejects
of them are the settle calls that did not fail. -/

namespace QueueProbe

variable {K V : Type}

/-- The seat that a mark is about. -/
def Mark.seat? : Mark K V → Option (Seat K V)
  | asked _ => none
  | joined s _ | took s _ | filed s _ _ _ | refused s _ _ => some s
  | settled v _ => some v.seat

namespace Broker

variable {b b' : Broker} {new : List Event} {s : Subscription} {d : Delivery}

/-- The delivery that is settled and how, if it went to one of these consumers. -/
def Event.settlement (p : ConsumerTag → Bool) : Event → Option (Delivery × Option Bool)
  | .acked u => if p u.consumer then some (told u, none) else none
  | .rejected u r => if p u.consumer then some (told u, some r) else none
  | _ => none

def settlements (p : ConsumerTag → Bool) (es : List Event) : List (Delivery × Option Bool) :=
  es.filterMap (Event.settlement p)

theorem delivered_of_events {a : Act} (h : .delivered s d ∈ b.events a) : a = .deliver s.tag ∧
    b.subscription? s.tag = some s ∧ ∃ b', b.deliver s.tag = some (d, b') := by
  cases a with
  | deliver t =>
    simp only [events] at h
    split at h
    · next r x b' hs hd =>
      obtain ⟨rfl, rfl⟩ : s = r ∧ d = x := by simpa using h
      obtain rfl := subscription?_tag hs
      exact ⟨rfl, hs, b', hd⟩
    · cases h
  | send c q l =>
    simp only [events] at h
    split at h <;> simp at h
  | ack c n | reject c n k =>
    simp only [events] at h
    split at h <;> simp at h
  | close c =>
    simp only [events] at h
    split at h <;> simp at h
  | _ => cases h

theorem received_events {a : Act} {t : ConsumerTag} (other : a ≠ .deliver t) :
    received t (b.events a) = [] := by
  refine List.eq_nil_iff_forall_not_mem.2 fun d hd => ?_
  obtain ⟨s, hs, ht⟩ := mem_received.1 hd
  exact other (ht ▸ (delivered_of_events hs).1)

theorem events_deliver (h : b.deliver s.tag = some (d, b')) (hs : b.subscription? s.tag = some s) :
    b.events (.deliver s.tag) = [.delivered s d] := by
  simp [events, hs, h]

theorem events_settle {u : Unacked} (usable : b.usable u.channel = .ok ())
    (found : b.unacked? u.tag = some u) (r : Option Bool) :
    b.events (.settle u.channel u.tag r) = [r.elim (.acked u) (.rejected u)] := by
  cases r with
  | none => simp [Act.settle, events, ack_ok usable found, found]
  | some k => simp [Act.settle, events, reject_ok usable found, found]

end Broker

open Broker

/-- What somebody else settles by it of what went to one of these consumers. -/
def Mark.intrusion (p : ConsumerTag → Bool) (b : Broker) : Mark K V → List Event
  | asked a => (b.events a).filter fun e => (e.settlement p).isSome
  | _ => []

/-- What others settled of what went to one of these consumers. -/
def intrusions (p : ConsumerTag → Bool) (b : Broker) : List (Mark K V) → List Event
  | [] => []
  | m :: log => m.intrusion p b ++ intrusions p ((m.act?.map b.act).getD b) log

/-- Nobody but the consumers themselves settles what went to one of these. -/
def Alone (p : ConsumerTag → Bool) (log : List (Mark K V)) : Prop := intrusions p {} log = []

instance (p : ConsumerTag → Bool) (log : List (Mark K V)) : Decidable (Alone p log) :=
  inferInstanceAs (Decidable (intrusions p {} log = []))

theorem intrusions_append (p : ConsumerTag → Bool) (b : Broker) (log new : List (Mark K V)) :
    intrusions p b (log ++ new) = intrusions p b log ++ intrusions p ((acts log).foldl Broker.act b) new := by
  induction log generalizing b with
  | nil => rfl
  | cons m log ih =>
    have hm : (acts (m :: log)).foldl Broker.act b =
        (acts log).foldl Broker.act ((m.act?.map b.act).getD b) := by
      cases h : m.act? <;> simp [acts, h]
    rw [List.cons_append, intrusions, intrusions, ih, hm, List.append_assoc]

section Story

variable {log : List (Mark K V)} {m : Mark K V} {a : Act}

theorem story_act (ha : m.act? = some a) :
    story (log ++ [m]) = story log ++ (after (acts log)).events a := by
  have hs : acts (log ++ [m]) = acts log ++ [a] := by simp [acts, ha]
  rw [story, hs, past_snoc]
  rfl

theorem story_quiet (quiet : m.act? = none) : story (log ++ [m]) = story log := by
  have hs : acts (log ++ [m]) = acts log := by simp [acts, quiet]
  rw [story, hs]
  rfl

theorem story_run (log : List (Mark K V)) : Run (story log) (after (acts log)) := run_after _

end Story

/-- What the log says of consumers agrees with what the broker says. -/
structure Dealt (log : List (Mark K V)) : Prop where
  seated : ∀ m ∈ log, ∀ s, m.seat? = some s → ∃ p, (s, p) ∈ leases log
  received : ∀ l ∈ leases log,
    received l.1.tag (story log) = (takings (Seat.hasTag l.1.tag) log).map (·.2)
  placed : ∀ l ∈ leases log, ∀ s d, .delivered s d ∈ story log → s.tag = l.1.tag →
    s.queue = l.1.how.queue ∧ s.channel = l.1.channel

namespace Dealt

variable {log new : List (Mark K V)} {s s' : Scene K V} {m : Mark K V}

theorem empty : Dealt ([] : List (Mark K V)) := by constructor <;> simp [leases]

theorem aside (h : Dealt log) (lease : m.lease? = none) (taking : m.taking? = none)
    (known : ∀ s, m.seat? = some s → ∃ p, (s, p) ∈ leases log) {es : List Event}
    (grown : story (log ++ [m]) = story log ++ es) (mute : ∀ l ∈ leases log, Broker.received l.1.tag es = []) :
    Dealt (log ++ [m]) := by
  have hl : leases (log ++ [m]) = leases log := by simp [leases, lease]
  have ht : ∀ p, takings p (log ++ [m]) = takings p log := by simp [takings, taking]
  refine ⟨?_, ?_, ?_⟩ <;> rw [hl]
  · intro j hj s hs
    rcases List.mem_append.1 hj with hj | hj
    · exact h.seated j hj s hs
    · rw [List.mem_singleton.1 hj] at hs
      exact known s hs
  · intro l hl
    rw [grown, received_append, mute l hl, List.append_nil, ht]
    exact h.received l hl
  · intro l hl r d hd hr
    rw [grown] at hd
    rcases List.mem_append.1 hd with hd | hd
    · exact h.placed l hl r d hd hr
    · have hm := mem_received.2 ⟨r, hd, hr⟩
      rw [mute l hl] at hm
      cases hm

theorem quiet (h : Dealt log) (act : m.act? = none) (lease : m.lease? = none) (taking : m.taking? = none)
    (known : ∀ s, m.seat? = some s → ∃ p, (s, p) ∈ leases log) : Dealt (log ++ [m]) :=
  h.aside lease taking known (by rw [story_quiet act, List.append_nil]) fun _ _ => rfl

theorem acted (h : Dealt log) (tenancy : Tenancy log s) {a : Act}
    (free : ∀ t, a = .deliver t → ∀ x ∈ s.consumers, ∀ h, x.active.value = some h → h.tag ≠ t) :
    Dealt (log ++ [.asked a]) := by
  refine h.aside rfl rfl (by simp [Mark.seat?]) (story_act rfl) fun l hl => ?_
  refine List.eq_nil_iff_forall_not_mem.2 fun d hd => ?_
  obtain ⟨r, hr, ht⟩ := mem_received.1 hd
  obtain ⟨ha, live, -⟩ := delivered_of_events hr
  rw [← tenancy.broker] at live
  obtain ⟨x, hx, active⟩ := tenancy.engaged l hl (Or.inl ⟨r, List.mem_of_find?_eq_some live, ht⟩)
  exact free r.tag ha x (List.mem_of_getElem? hx) _ active ht.symm

theorem unnamed (tenancy : Tenancy log s) {r : Subscription} {d : Delivery}
    (ht : r.tag = consumerTag s.broker.nextConsumer) : .delivered r d ∉ story log := by
  intro hd
  obtain ⟨i, hi, hti⟩ := (story_run log).named hd
  rw [← tenancy.broker] at hi
  exact hi.ne (consumerTag_injective (hti.symm.trans ht))

theorem joined (h : Dealt log) (tenancy : Tenancy log s) (x : Consumer) (f : Filing K V) :
    Dealt (log ++ [.joined (s.nextSeat x f) x.prefetch]) := by
  have grown : story (log ++ [.joined (s.nextSeat x f) x.prefetch]) = story log :=
    (story_act rfl).trans (List.append_nil _)
  have hl : leases (log ++ [.joined (s.nextSeat x f) x.prefetch]) =
      leases log ++ [(s.nextSeat x f, x.prefetch)] := leases_append _ _
  have ht : ∀ p, takings p (log ++ [.joined (s.nextSeat x f) x.prefetch]) = takings p log := by
    simp [takings, Mark.taking?]
  refine ⟨?_, ?_, ?_⟩ <;> rw [hl]
  · intro j hj r hr
    rcases List.mem_append.1 hj with hj | hj
    · obtain ⟨p, hp⟩ := h.seated j hj r hr
      exact ⟨p, List.mem_append_left _ hp⟩
    · rw [List.mem_singleton.1 hj] at hr
      obtain rfl := Option.some.inj hr
      exact ⟨x.prefetch, List.mem_append_right _ (List.mem_singleton_self _)⟩
  · intro l hl
    rw [grown, ht]
    rcases List.mem_append.1 hl with hl | hl
    · exact h.received l hl
    · rw [List.mem_singleton.1 hl]
      have none : Broker.received (s.nextSeat x f).tag (story log) = [] := by
        refine List.eq_nil_iff_forall_not_mem.2 fun d hd => ?_
        obtain ⟨r, hr, hrt⟩ := mem_received.1 hd
        exact unnamed tenancy hrt hr
      have untaken : takings (Seat.hasTag (s.nextSeat x f).tag) log = [] := by
        refine List.filter_eq_nil_iff.2 fun y hy hty => ?_
        obtain ⟨m, hm, hmy⟩ := List.mem_filterMap.1 hy
        cases m with
        | took r d =>
          obtain rfl := Option.some.inj hmy
          obtain ⟨p, hp⟩ := h.seated _ hm r rfl
          exact tenancy.fresh hp (of_decide_eq_true hty)
        | _ => cases hmy
      rw [none, untaken]
      rfl
  · intro l hl r d hd hr
    rw [grown] at hd
    rcases List.mem_append.1 hl with hl | hl
    · exact h.placed l hl r d hd hr
    · rw [List.mem_singleton.1 hl] at hr
      exact absurd hd (unnamed tenancy hr)

theorem took (h : Dealt log) (tenancy : Tenancy log s) {k : Clerk K V} {d : Delivery} {b : Broker}
    (found : k ∈ s.crew) (delivered : s.broker.deliver k.tag = some (d, b)) :
    Dealt (log ++ [.took k.toSeat d]) := by
  obtain ⟨r, -, -, -, hr, -⟩ := deliver_eq delivered
  obtain ⟨q, hk⟩ := tenancy.leased k found
  have hrt := subscription?_tag hr
  have grown : story (log ++ [.took k.toSeat d]) = story log ++ [.delivered r d] := by
    rw [story_act rfl, ← tenancy.broker]
    rw [← hrt] at delivered hr
    exact congrArg _ (hrt ▸ events_deliver delivered hr)
  have same : leases (log ++ [.took k.toSeat d]) = leases log := by simp [leases, Mark.lease?]
  refine ⟨?_, ?_, ?_⟩ <;> rw [same]
  · intro j hj y hy
    rcases List.mem_append.1 hj with hj | hj
    · exact h.seated j hj y hy
    · rw [List.mem_singleton.1 hj] at hy
      obtain rfl := Option.some.inj hy
      exact ⟨q, hk⟩
  · intro l hl
    rw [grown, received_append, takings_append, List.map_append, h.received l hl]
    congr 1
    by_cases ht : k.tag = l.1.tag <;>
      simp [Broker.received, Event.receivedBy, takings, Mark.taking?, Seat.hasTag, hrt, ht]
  · intro l hl y e he hy
    rw [grown] at he
    rcases List.mem_append.1 he with he | he
    · exact h.placed l hl y e he hy
    · obtain ⟨rfl, rfl⟩ : y = r ∧ e = d := by simpa using he
      obtain ⟨hq, hc, -⟩ := tenancy.listed l hl y (List.mem_of_find?_eq_some hr) hy
      exact ⟨hq, hc⟩

theorem step [DecidableEq K] (tenancy : Tenancy log s) (e : Effect s new s') (h : Dealt log) :
    Dealt (log ++ new) := by
  have known : ∀ {k : Clerk K V}, k ∈ s.crew → ∀ y, some k.toSeat = some y → ∃ p, (y, p) ∈ leases log := by
    rintro k hk y hy
    obtain rfl := Option.some.inj hy
    exact tenancy.leased k hk
  cases e with
  | acted a free => exact h.acted tenancy free
  | joined f x => exact h.joined tenancy x f
  | took k d b found free delivered => exact h.took tenancy found delivered
  | filed k d key m found => exact h.quiet rfl rfl rfl (known found)
  | refused k d why found => exact h.quiet rfl rfl rfl (known found)
  | settled k d r u found =>
    refine h.aside rfl rfl (known found) (story_act rfl) fun l hl => received_events ?_
    cases r <;> simp [Act.settle]
  | failed k d r why found => exact h.quiet rfl rfl rfl (known found)
  | crashed k d r cause found => exact h.quiet rfl rfl rfl (known found)
  | _ => rwa [List.append_nil]

end Dealt

/-- All that is kept about the workers at any time. -/
structure Register (log : List (Mark K V)) (s : Scene K V) : Prop where
  tenancy : Tenancy log s
  handed : ∀ {p : Seat K V → Bool}, Solitary p → Handed p log s.crew
  dealt : Dealt log

namespace Register

variable [DecidableEq K] {log new : List (Mark K V)} {s s' : Scene K V}

omit [DecidableEq K] in
theorem empty : Register [] ({} : Bench K V).scene := ⟨.empty, fun _ => ⟨rfl, rfl⟩, .empty⟩

theorem step (e : Effect s new s') (h : Register log s) : Register (log ++ new) s' :=
  ⟨h.tenancy.step e, fun single => (h.handed single).step single h.tenancy e, h.dealt.step h.tenancy e⟩

end Register

namespace Bench.History

variable [DecidableEq K] [Debug K] {log : List (Mark K V)} {w : Bench K V}

theorem register (h : Bench.History log w) : Register log w.scene := h.induct .empty Register.step

/-- What every effect keeps in a scene that a run can come to. -/
theorem grow {P : List (Mark K V) → Scene K V → Prop} (h : Bench.History log w)
    (empty : P [] ({} : Bench K V).scene)
    (step : ∀ {log new s s'}, Register log s → Effect s new s' → P log s → P (log ++ new) s') :
    P log w.scene := by
  have both := h.induct (P := fun log s => Register log s ∧ P log s) ⟨.empty, empty⟩
    fun e h => ⟨h.1.step e, step h.1 e h.2⟩
  exact both.2

end Bench.History
end QueueProbe
