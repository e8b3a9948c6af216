import QueueProbe.Proofs.Broker.Settlement
import QueueProbe.Proofs.Handler.Deeds

/-! All that a deed can do to what matters of a bench, as long as every worker files for a handler. -/

namespace QueueProbe

variable {K V : Type}

/-- Every worker files for a handler. -/
def View.Staffed (v : View K V) : Prop := ∀ k ∈ v.crew, ∃ f ∈ v.filings, k.duty = .filing f

/-- What a deed comes to. -/
inductive Upshot [DecidableEq K] (v : View K V) : List (Entry K V) → View K V → Prop where
  | still : Upshot v [] v
  | acted (a : Broker.Act) (mild : ∀ e ∈ v.broker.events a, e.settled? = none) :
      Upshot v ((v.broker.events a).map .told) { v with broker := v.broker.act a }
  | joined (f : Filing K V) (c : ChannelId) (prefetch : Nat) (known : f ∈ v.filings)
      (usable : v.broker.usable c = .ok ()) (housed : v.broker.hasQueue f.queue = true) :
      Upshot v [] { v with
        broker := v.broker.joined c f.queue prefetch
        crew := v.crew ++
          [{ tag := Broker.consumerTag v.broker.nextConsumer, channel := c, duty := .filing f }] }
  | built (f : Filing K V) (next : f.consumer = v.places.length) : Upshot v [] { v with
      stores := v.stores ++ [{}], places := v.places ++ [v.stores.length], filings := v.filings ++ [f] }
  | took (k : Worker K V) (found : k ∈ v.crew) (d : Delivery) (b : Broker)
      (delivered : v.broker.deliver k.tag = some (d, b)) :
      Upshot v ((v.broker.events (.deliver k.tag)).map .told)
        ({ v with broker := b }.setPhase k.tag (.holding d))
  | filed (k : Worker K V) (f : Filing K V) (d : Delivery) (key : K) (m : Message V) (found : k ∈ v.crew)
      (duty : k.duty = .filing f) (held : k.phase = .holding d) (good : Bench.index f d = .ok (key, m)) :
      Upshot v [.filed k.tag f d key m] ((v.keep f.consumer key m).setPhase k.tag (.settling d none))
  | refused (k : Worker K V) (f : Filing K V) (d : Delivery) (e : QueueError) (found : k ∈ v.crew)
      (duty : k.duty = .filing f) (held : k.phase = .holding d) (bad : Bench.index f d = .error e) :
      Upshot v [.refused k.tag f d e]
        (v.setPhase k.tag (.settling d (some (f.policy.keeps d.count.toNat))))
  | acked (k : Worker K V) (d : Delivery) (u : Unacked) (found : k ∈ v.crew)
      (due : k.phase = .settling d none) (usable : v.broker.usable u.channel = .ok ())
      (entry : v.broker.unacked? u.tag = some u) (tag : d.tag = u.tag) :
      Upshot v [.told (.acked u)] ({ v with broker := v.broker.settled u }.setPhase k.tag .idle)
  | rejected (k : Worker K V) (d : Delivery) (u : Unacked) (r : Bool) (found : k ∈ v.crew)
      (due : k.phase = .settling d (some r)) (usable : v.broker.usable u.channel = .ok ())
      (entry : v.broker.unacked? u.tag = some u) (tag : d.tag = u.tag) :
      Upshot v [.told (.rejected u r)]
        ({ v with broker := (v.broker.settled u).refused u r }.setPhase k.tag .idle)
  | dropped (t : ConsumerTag) : Upshot v [] (v.setPhase t .idle)
  | dismissed (t : ConsumerTag) : Upshot v [] (v.dismiss t)

namespace Bench

variable [DecidableEq K] [Debug K] {w : Bench K V}

omit [DecidableEq K] [Debug K] in
theorem mem_crew {k : Worker K V} (h : k ∈ w.workers) : { k with credits := none } ∈ w.view.crew :=
  List.mem_map_of_mem h

omit [Debug K] in
/-- A call through a channel reaches the broker unless there is a fault on it. -/
theorem through_upshot {α : Type} (w : Bench K V) (c : ChannelId) (call : Call) (a : Broker.Act)
    (run : Broker → Broker.Answer α) (hrun : (run w.broker).2 = w.broker.act a)
    (mild : ∀ e ∈ w.broker.events a, e.settled? = none) :
    Upshot w.view (w.heard c call a) (w.through c call run).2.view := by
  unfold heard through
  cases w.faults.get? (c, call) with
  | none =>
    simp only [Option.isSome_none, Bool.false_eq_true, if_false, view_broker, hrun]
    exact .acted a mild
  | some f => cases f <;> exact .still

omit [Debug K] in
theorem send_upshot (w : Bench K V) (c : ChannelId) (q : String) (l : Letter) :
    Upshot w.view (w.entries (.send c q l)) (w.send c q l.body l.properties).2.view := by
  have hmild : ∀ e ∈ w.broker.events (.send c q l), e.settled? = none := by
    intro e he
    simp only [Broker.events] at he
    split at he
    · rw [List.mem_singleton.1 he]; rfl
    · simp at he
  have h := w.through_upshot c .send (.send c q l) (fun b => b.send c q l.body l.properties) rfl hmild
  unfold send
  split
  · next hs => rw [hs] at h; exact h
  · exact h

omit [DecidableEq K] [Debug K] in
theorem complete_new {p : HandlerPlan K V} {n : Nat} {h : Handler K V} (hp : p.complete n = .ok h) :
    h.consumer = n ∧ h.state.value = .created := by
  simp only [HandlerPlan.complete, bind, Except.bind] at hp
  repeat' split at hp
  all_goals first
    | contradiction
    | (cases hp; exact ⟨rfl, rfl⟩)

omit [Debug K] in
theorem build_upshot (w : Bench K V) (p : HandlerPlan K V) : Upshot w.view [] (w.build p).2.view := by
  unfold build
  cases hp : p.complete w.consumers.length with
  | error e => exact .still
  | ok h =>
    have ht := Upshot.built (v := w.view) h.filing ((complete_new hp).1.trans (by simp [view]))
    unfold newConsumer
    dsimp only
    split <;> simpa [view, newStore, note] using ht

theorem subscribe_upshot (w : Bench K V) (n : Nat) (credits : Option Nat) :
    Upshot w.view [] (w.perform (.subscribe n credits)).view := by
  simp only [perform]
  cases hn : w.handlers[n]? with
  | none => exact .still
  | some h =>
    dsimp only
    cases hc : w.consumers[h.consumer]? with
    | none => exact .still
    | some x =>
      have known : h.filing ∈ w.view.filings := List.mem_map_of_mem (List.mem_of_getElem? hn)
      dsimp only
      unfold subscribe through
      cases w.faults.get? (x.channel, .subscribe) with
      | some f => cases f <;> exact .still
      | none =>
        rcases w.broker.subscribe_cases x.channel h.queue x.prefetch w.unstarted with
          ⟨hu, hq, -, hs⟩ | ⟨e, k, hs⟩
        · have ht := Upshot.joined h.filing x.channel x.prefetch known hu hq
          simpa [hs, Outcome.ofExcept, view] using ht
        · have ht := Upshot.acted (v := w.view) (.subscribe x.channel h.queue x.prefetch w.unstarted)
            (by simp [Broker.events])
          simpa [hs, Outcome.ofExcept, view, Broker.events, Broker.act] using ht

omit [Debug K] in
theorem depart_upshot (w : Bench K V) (k : Worker K V) : Upshot w.view [] (w.depart k).view := by
  have h : (w.depart k).view = w.view.dismiss k.tag := by
    unfold depart
    split
    · exact view_dismiss w k.tag
    · exact view_dismiss w k.tag
  rw [h]
  exact .dismissed k.tag

omit [Debug K] in
theorem take_upshot {k : Worker K V} (hk : k ∈ w.workers) :
    Upshot w.view ((w.broker.events (.deliver k.tag)).map .told) ((w.take k.tag).getD w).view := by
  unfold take
  cases h : w.broker.deliver k.tag with
  | none =>
    have he : w.broker.events (.deliver k.tag) = [] := by
      simp only [Broker.events, h]
      split <;> simp_all
    rw [he]
    exact .still
  | some a =>
    rw [Option.map_some, Option.getD_some, view_setPhase]
    exact Upshot.took (v := w.view) _ (mem_crew hk) a.1 a.2 h

theorem handle_upshot {k : Worker K V} {f : Filing K V} {d : Delivery} (hk : k ∈ w.workers)
    (duty : k.duty = .filing f) (held : k.phase = .holding d) :
    Upshot w.view [handled k.tag f d] (w.handle k d).view := by
  have hw : (w.onWorker k.tag fun x => { x with credits := x.credits.map (· - 1) }).view = w.view :=
    view_credit w k.tag _
  simp only [handle, duty, file, handled]
  cases hi : index f d with
  | ok a =>
    have ht := Upshot.filed (v := w.view) _ f d a.1 a.2 (mem_crew hk) duty held hi
    simpa [hw] using ht
  | error e =>
    have ht := Upshot.refused (v := w.view) _ f d e (mem_crew hk) duty held hi
    dsimp only
    split <;> next hp => simpa [hw, hp] using ht

omit [DecidableEq K] [Debug K] in
/-- Whatever the answer to a settle, its worker is idle then, or gone if there was none. -/
theorem settle_view (w : Bench K V) (k : Worker K V) (d : Delivery) (r : Option Bool) :
    (w.settle k d r).view =
      let a := match r with
        | none => w.ack k.channel d.tag
        | some r => w.reject k.channel d.tag r
      match a.1 with
      | .panic _ => a.2.view.dismiss k.tag
      | .ok _ | .error _ => a.2.view.setPhase k.tag .idle := by
  unfold settle
  cases r with
  | none =>
    dsimp only
    rcases w.ack k.channel d.tag with ⟨_ | _ | _, w'⟩ <;> cases k.duty <;> simp
  | some r =>
    dsimp only
    rcases w.reject k.channel d.tag r with ⟨_ | _ | _, w'⟩ <;> cases k.duty <;> simp

omit [Debug K] in
theorem settle_upshot {k : Worker K V} {d : Delivery} {r : Option Bool} (hk : k ∈ w.workers)
    (due : k.phase = .settling d r) : Upshot w.view (match r with
      | none => w.heard k.channel .ack (.ack k.channel d.tag)
      | some r => w.heard k.channel .reject (.reject k.channel d.tag r)) (w.settle k d r).view := by
  rw [settle_view]
  cases r with
  | none =>
    simp only [ack, through, heard]
    cases w.faults.get? (k.channel, .ack) with
    | some f =>
      cases f with
      | refuse => exact .dropped k.tag
      | crash => exact .dismissed k.tag
    | none =>
      rcases w.broker.ack_cases k.channel d.tag with ⟨u, hu, hn, hc, h⟩ | ⟨e, h⟩
      · have htag := Broker.unacked?_tag hn
        have ht := Upshot.acked (v := w.view) _ d u (mem_crew hk) due (hc ▸ hu) (htag ▸ hn) htag.symm
        simpa [h, hn, Outcome.ofExcept, Broker.events] using ht
      · simp only [h, Outcome.ofExcept, Broker.events, Option.isSome_none, Bool.false_eq_true, if_false,
          List.map_nil]
        exact .dropped k.tag
  | some r =>
    simp only [reject, through, heard]
    cases w.faults.get? (k.channel, .reject) with
    | some f =>
      cases f with
      | refuse => exact .dropped k.tag
      | crash => exact .dismissed k.tag
    | none =>
      rcases w.broker.reject_cases k.channel d.tag r with ⟨u, hu, hn, hc, h⟩ | ⟨e, h⟩
      · have htag := Broker.unacked?_tag hn
        have ht := Upshot.rejected (v := w.view) _ d u r (mem_crew hk) due (hc ▸ hu) (htag ▸ hn) htag.symm
        simpa [h, hn, Outcome.ofExcept, Broker.events] using ht
      · simp only [h, Outcome.ofExcept, Broker.events, Option.isSome_none, Bool.false_eq_true, if_false,
          List.map_nil]
        exact .dropped k.tag

theorem work_upshot (clerks : w.view.Staffed) (t : ConsumerTag) :
    Upshot w.view (w.worked t) ((w.advance t).getD w).view := by
  unfold advance worked
  cases hk : w.worker? t with
  | none => exact .still
  | some k =>
    have hmem := List.mem_of_find?_eq_some hk
    obtain rfl : k.tag = t := by simpa using List.find?_some hk
    dsimp only
    cases hp : k.phase with
    | idle =>
      dsimp only
      split
      · exact take_upshot hmem
      · next hs =>
        have he : w.broker.events (.deliver k.tag) = [] := by
          rw [isSubscribed_eq, Bool.not_eq_true, Option.isSome_eq_false_iff, Option.isNone_iff_eq_none] at hs
          simp [Broker.events, hs]
        rw [he]
        exact depart_upshot w k
    | holding d =>
      obtain ⟨f, -, duty⟩ := clerks _ (mem_crew hmem)
      have duty : k.duty = .filing f := duty
      simp only [duty]
      split
      · exact handle_upshot hmem duty hp
      · exact .still
    | settling d r => cases r <;> exact settle_upshot hmem hp

theorem deed_upshot (clerks : w.view.Staffed) (d : Deed K V) :
    Upshot w.view (w.entries d) (w.perform d).view := by
  have silent : ∀ {a : Broker.Act}, w.broker.events a = [] →
      Upshot w.view [] { w.view with broker := w.broker.act a } := by
    intro a ha
    have h := Upshot.acted (v := w.view) a (by rw [broker_view, ha]; simp)
    rwa [broker_view, ha] at h
  cases d with
  | declare q => exact silent (a := .declare q) rfl
  | declareAnonymous => exact silent (a := .declareAnonymous) rfl
  | openChannel =>
    have h := silent (a := .openChannel) rfl
    simp only [Broker.act] at h
    simp only [perform, Bench.openChannel, entries]
    split
    · next hb => rw [hb] at h; exact h
    · next hb => rw [hb] at h; exact h
  | connect up late => exact silent (a := .connect up _) rfl
  | fault c call f => exact .still
  | crowd shortage => exact .still
  | send c q l => exact w.send_upshot c q l
  | build p => exact w.build_upshot p
  | subscribe n credits => exact w.subscribe_upshot n credits
  | leave c t =>
    have h := w.through_upshot c .unsubscribe (.unsubscribe c t) (fun b => b.unsubscribe c t) rfl
      (by simp [Broker.events])
    simpa [entries, perform, Bench.leave, heard, Broker.events] using h
  | close c =>
    refine .acted (.close c) fun e he => ?_
    simp only [Broker.events] at he
    split at he
    · simp at he
    · obtain ⟨u, -, rfl⟩ := List.mem_map.1 he
      rfl
  | work t => exact work_upshot clerks t
  | grant c n =>
    simp only [perform, grant, entries]
    split
    · rw [view_credit]; exact .still
    · exact .still
  | note m => exact .still
  | active n change =>
    have h := view_onConsumer w n (fun x => { x with active := change x.active }) fun _ => rfl
    rw [perform, h]
    exact .still
  | state n change =>
    have h := view_onHandler w n (fun h => { h with state := change h.state }) fun _ => rfl
    rw [perform, h]
    exact .still

end Bench
end QueueProbe
