import QueueProbe.Proofs.Handler.Turnouts

/-! Hands. A worker comes by a delivery when the broker makes it, holds it, and handles it once. So what
the workers of a handler handle in some time is among what they held before and what they were given
meanwhile. Nobody is given anything while subscriptions end: then workers handle at most what they
hold, one delivery each. -/

namespace QueueProbe

variable {K V : Type}

def Broker.Event.delivery? : Broker.Event → Option Delivery
  | .delivered _ d => some d
  | _ => none

/-- The delivery that an entry filed or refused for consumer `n`. -/
def Entry.handled? (n : Nat) : Entry K V → Option Delivery
  | .filed _ f d _ _ | .refused _ f d _ => if f.consumer = n then some d else none
  | .told _ => none

/-- The deliveries that consumer `n` handled, in the order in which it did. -/
def handledBy (n : Nat) (log : List (Entry K V)) : List Delivery := log.filterMap (Entry.handled? n)

/-- The deliveries that the broker made, to whomever. -/
def given (log : List (Entry K V)) : List Delivery := (eventsIn log).filterMap Broker.Event.delivery?

/-- What a worker of consumer `n` has taken and not handled yet. -/
def Worker.held? (n : Nat) (k : Worker K V) : Option Delivery :=
  match k.duty, k.phase with
  | .filing f, .holding d => if f.consumer = n then some d else none
  | _, _ => none

def View.held (n : Nat) (v : View K V) : List Delivery := v.crew.filterMap (Worker.held? n)

def Bench.held (n : Nat) (w : Bench K V) : List Delivery := w.workers.filterMap (Worker.held? n)

theorem handledBy_append (n : Nat) (log new : List (Entry K V)) :
    handledBy n (log ++ new) = handledBy n log ++ handledBy n new := List.filterMap_append

@[simp] theorem handledBy_told (n : Nat) (es : List Broker.Event) :
    handledBy n (es.map (Entry.told (K := K) (V := V))) = [] := by
  simp [handledBy, Entry.handled?]

theorem given_append (log new : List (Entry K V)) : given (log ++ new) = given log ++ given new := by
  simp [given]

@[simp] theorem given_nil : given ([] : List (Entry K V)) = [] := rfl

@[simp] theorem given_told (es : List Broker.Event) :
    given (es.map (Entry.told (K := K) (V := V))) = es.filterMap Broker.Event.delivery? := by
  simp [given]

@[simp] theorem held_view (n : Nat) (w : Bench K V) : w.view.held n = w.held n := by
  simp only [View.held, Bench.held, Bench.view, List.filterMap_map]
  rfl

theorem Worker.held?_holding (n : Nat) (k : Worker K V) (d : Delivery) :
    ((({ k with phase := .holding d } : Worker K V).held? n).toList : Multiset Delivery) ≤ [d] := by
  unfold held?
  cases k.duty with
  | listening l => exact Multiset.zero_le _
  | filing f =>
    dsimp only
    split
    · exact le_rfl
    · exact Multiset.zero_le _

theorem Worker.held?_settling (n : Nat) (k : Worker K V) (d : Delivery) (r : Option Bool) :
    ({ k with phase := .settling d r } : Worker K V).held? n = none := by
  unfold held?
  cases k.duty <;> rfl

theorem Worker.held?_idle (n : Nat) (k : Worker K V) :
    ({ k with phase := .idle } : Worker K V).held? n = none := by
  unfold held?
  cases k.duty <;> rfl

namespace View

variable {v : View K V} {k : Worker K V}

theorem crew_setPhase (distinct : (v.crew.map (·.tag)).Nodup) (found : k ∈ v.crew) (p : Phase) :
    ∃ xs ys, v.crew = xs ++ k :: ys ∧ (v.setPhase k.tag p).crew = xs ++ { k with phase := p } :: ys := by
  obtain ⟨xs, ys, hs⟩ := List.append_of_mem found
  refine ⟨xs, ys, hs, ?_⟩
  rw [hs, List.map_append, List.map_cons, List.nodup_middle, List.nodup_cons] at distinct
  have others : ∀ l : List (Worker K V), (∀ x ∈ l, x ∈ xs ++ ys) →
      l.map (fun x => if x.tag = k.tag then { x with phase := p } else x) = l := by
    intro l hl
    refine (List.map_congr_left fun x hx => if_neg fun ht => distinct.1 ?_).trans (List.map_id l)
    rw [← List.map_append]
    exact List.mem_map.2 ⟨x, hl x hx, ht⟩
  simp only [setPhase, hs, List.map_append, List.map_cons, if_true]
  rw [others xs fun x hx => List.mem_append_left _ hx, others ys fun x hx => List.mem_append_right _ hx]

theorem held_setPhase (distinct : (v.crew.map (·.tag)).Nodup) (found : k ∈ v.crew) (p : Phase) (n : Nat) :
    ∃ rest : Multiset Delivery, (v.held n : Multiset Delivery) = (k.held? n).toList + rest ∧
      ((v.setPhase k.tag p).held n : Multiset Delivery) =
        (({ k with phase := p } : Worker K V).held? n).toList + rest := by
  obtain ⟨xs, ys, hv, hv'⟩ := crew_setPhase distinct found p
  have split : ∀ x : Worker K V, ((xs ++ x :: ys).filterMap (Worker.held? n) : Multiset Delivery) =
      (x.held? n).toList + ((xs ++ ys).filterMap (Worker.held? n) : Multiset Delivery) := by
    intro x
    rw [List.filterMap_append, List.filterMap_append, List.filterMap_cons, ← Multiset.coe_add,
      ← Multiset.coe_add]
    cases x.held? n with
    | none => simp
    | some d => simp only [Option.toList_some, ← Multiset.cons_coe, Multiset.coe_nil, Multiset.add_cons,
        Multiset.cons_add, zero_add]
  exact ⟨_, by rw [held, hv, split], by rw [held, hv', split]⟩

theorem held_idle_le (v : View K V) (t : ConsumerTag) (n : Nat) :
    ((v.setPhase t .idle).held n : Multiset Delivery) ≤ v.held n := by
  refine Multiset.coe_le.2 (List.Sublist.subperm ?_)
  simp only [held, setPhase, List.filterMap_map]
  induction v.crew with
  | nil => exact .slnil
  | cons k crew ih =>
    by_cases ht : k.tag = t
    · have hk : (Worker.held? n ∘ fun k => if k.tag = t then { k with phase := .idle } else k) k =
          none := (congrArg (Worker.held? n) (if_pos ht)).trans (k.held?_idle n)
      rw [List.filterMap_cons_none hk]
      exact ih.trans (List.Sublist.filterMap _ (List.sublist_cons_self k crew))
    · have hk : (Worker.held? n ∘ fun k => if k.tag = t then { k with phase := .idle } else k) k =
          k.held? n := congrArg (Worker.held? n) (if_neg ht)
      cases h : k.held? n with
      | none =>
        rw [List.filterMap_cons_none (hk.trans h), List.filterMap_cons_none h]
        exact ih
      | some d =>
        rw [List.filterMap_cons_some (hk.trans h), List.filterMap_cons_some h]
        exact ih.cons_cons d

end View

variable [DecidableEq K] {log new : List (Entry K V)} {v v' : View K V}

/-- What was handled was in hand before, or was given; and so was what is in hand. -/
theorem Upshot.hands (h : Upshot v new v') (distinct : (v.crew.map (·.tag)).Nodup) (n : Nat) :
    (handledBy n new : Multiset Delivery) + v'.held n ≤ v.held n + given new := by
  have aside : handledBy n new = [] → (v'.held n : Multiset Delivery) ≤ v.held n →
      (handledBy n new : Multiset Delivery) + v'.held n ≤ v.held n + given new := by
    intro hn hv
    rw [hn, Multiset.coe_nil, zero_add]
    exact hv.trans (Multiset.le_add_right _ _)
  -- the worker that files or refuses what it holds has nothing to handle then
  have handles : ∀ {k : Worker K V} {f : Filing K V} {d : Delivery} {e : Entry K V}
      (r : Option Bool), k ∈ v.crew → k.duty = .filing f → k.phase = .holding d →
      e.handled? n = (if f.consumer = n then some d else none) →
      (handledBy n [e] : Multiset Delivery) + (v.setPhase k.tag (.settling d r)).held n ≤
        v.held n + given [e] := by
    intro k f d e r found duty held he
    obtain ⟨rest, hv, hv'⟩ := View.held_setPhase distinct found (.settling d r) n
    have hk : k.held? n = e.handled? n := by rw [he, Worker.held?, duty, held]
    have hn : handledBy n [e] = (k.held? n).toList := by
      rw [hk]
      cases hh : e.handled? n <;> simp [handledBy, hh]
    rw [hv', hv, hn, k.held?_settling, Option.toList_none, Multiset.coe_nil, zero_add]
    exact Multiset.le_add_right _ _
  cases h with
  | still => exact aside rfl le_rfl
  | acted a mild => exact aside (handledBy_told n _) le_rfl
  | joined f c prefetch known usable housed =>
    refine aside rfl (le_of_eq (congrArg _ ?_))
    simp only [View.held, List.filterMap_append]
    exact List.append_nil _
  | built f next => exact aside rfl le_rfl
  | took k found d b delivered =>
    obtain ⟨rest, hv, hv'⟩ := View.held_setPhase distinct found (.holding d) n
    obtain ⟨s, x, e, rest', hs, -⟩ := Broker.deliver_eq delivered
    have hgiven : (v.broker.events (.deliver k.tag)).filterMap Broker.Event.delivery? = [d] := by
      simp [Broker.events, hs, delivered, Broker.Event.delivery?]
    rw [handledBy_told, given_told, hgiven, Multiset.coe_nil, zero_add, hv, add_right_comm]
    refine hv'.le.trans (add_le_add_left ((k.held?_holding n d).trans ?_) rest)
    exact Multiset.le_add_left _ _
  | filed k f d key m found duty held good =>
    have h := handles none found duty held (e := .filed k.tag f d key m) rfl
    simpa [View.held, View.setPhase] using h
  | refused k f d e found duty held bad =>
    exact handles _ found duty held (e := .refused k.tag f d e) rfl
  | acked k d u => exact aside rfl (v.held_idle_le k.tag n)
  | rejected k d u r => exact aside rfl (v.held_idle_le k.tag n)
  | dropped t => exact aside rfl (v.held_idle_le t n)
  | dismissed t =>
    exact aside rfl (Multiset.coe_le.2 (List.filter_sublist.filterMap _).subperm)

theorem Broker.deliveries_other (b : Broker) {a : Act} (other : ∀ t, a ≠ .deliver t) :
    (b.events a).filterMap Event.delivery? = [] := by
  cases a with
  | deliver t => exact absurd rfl (other t)
  | send c q l =>
    simp only [events]
    split <;> rfl
  | ack c n | reject c n r =>
    simp only [events]
    split
    · simp [List.filterMap_map, Function.comp_def, Event.delivery?]
    · rfl
  | close c =>
    simp only [events]
    split
    · rfl
    · simp [List.filterMap_map, Function.comp_def, Event.delivery?]
  | _ => rfl

namespace Bench

variable {w w' x : Bench K V} {more : List (Entry K V)}

omit [DecidableEq K] in
theorem given_heard {c : ChannelId} {call : Call} {a : Broker.Act}
    (silent : (w.broker.events a).filterMap Broker.Event.delivery? = []) : given (w.heard c call a) = [] := by
  unfold heard
  split
  · rfl
  · rw [given_told, silent]

omit [DecidableEq K] in
/-- A worker whose subscription is gone is given nothing. -/
theorem given_worked {t : ConsumerTag} (gone : w.isSubscribed t = false) : given (w.worked t) = [] := by
  unfold worked
  cases w.worker? t with
  | none => rfl
  | some k =>
    dsimp only
    split
    · have hs : w.broker.subscription? t = none := by
        rw [isSubscribed_eq, Option.isSome_eq_false_iff, Option.isNone_iff_eq_none] at gone
        exact gone
      simp [Broker.events, hs]
    · split
      · unfold handled
        split <;> rfl
      · rfl
    · rfl
    · exact given_heard (w.broker.deliveries_other (by simp))
    · exact given_heard (w.broker.deliveries_other (by simp))

variable [Debug K]

/-- What happened from bench `w` on, and the bench it ended in. -/
inductive Onward (w : Bench K V) : List (Entry K V) → Bench K V → Prop where
  | here : Onward w [] w
  | snoc {more : List (Entry K V)} {x : Bench K V} (d : Deed K V) :
      Onward w more x → Onward w (more ++ x.entries d) (x.perform d)

theorem Onward.deed (w : Bench K V) (d : Deed K V) : Onward w (w.entries d) (w.perform d) :=
  Onward.here.snoc d

theorem Onward.trans {more' : List (Entry K V)} (h : Onward w more x) (g : Onward x more' w') :
    Onward w (more ++ more') w' := by
  induction g with
  | here => rwa [List.append_nil]
  | snoc d _ ih =>
    rw [← List.append_assoc]
    exact ih.snoc d

theorem Run.whole (run : Run log w) : Onward {} log w := by
  induction run with
  | nil => exact .here
  | snoc d _ ih => exact ih.snoc d

theorem Run.onward (run : Run log w) (h : Onward w more w') : Run (log ++ more) w' := by
  induction h with
  | here => rwa [List.append_nil]
  | snoc d _ ih =>
    rw [← List.append_assoc]
    exact ih.snoc d

theorem Leads.onward (h : Leads w w') : ∃ more, Onward w more w' := by
  induction h with
  | refl => exact ⟨[], .here⟩
  | tail _ hd ih =>
    obtain ⟨more, h⟩ := ih
    obtain ⟨d, rfl⟩ := hd
    exact ⟨_, h.snoc d⟩

theorem Run.hands (run : Run log w) (h : Onward w more w') (n : Nat) :
    (handledBy n more : Multiset Delivery) + w'.held n ≤ w.held n + given more := by
  induction h with
  | here =>
    rw [given_nil, Multiset.coe_nil, add_zero]
    exact (zero_add _).le
  | @snoc more x d h ih =>
    have manned := (run.onward h).invariant.1
    have step := (deed_upshot manned.staffed d).hands manned.distinct n
    rw [held_view, held_view] at step
    rw [handledBy_append, given_append, ← Multiset.coe_add, ← Multiset.coe_add, add_assoc]
    calc _ ≤ (handledBy n more : Multiset Delivery) + (x.held n + given (x.entries d)) :=
          add_le_add_right step _
      _ = handledBy n more + x.held n + given (x.entries d) := (add_assoc _ _ _).symm
      _ ≤ w.held n + given more + given (x.entries d) := add_le_add_left ih _
      _ = _ := add_assoc _ _ _

/-- From `w` to `w'` nobody is given a delivery. -/
def Quiet (w w' : Bench K V) : Prop := ∃ more, Onward w more w' ∧ given more = []

namespace Quiet

theorem refl (w : Bench K V) : Quiet w w := ⟨[], .here, rfl⟩

theorem trans (h : Quiet w x) (g : Quiet x w') : Quiet w w' := by
  obtain ⟨more, h, hn⟩ := h
  obtain ⟨more', g, gn⟩ := g
  exact ⟨_, h.trans g, by rw [given_append, hn, gn, List.append_nil]⟩

theorem deed (w : Bench K V) {d : Deed K V} (hd : given (w.entries d) = []) : Quiet w (w.perform d) :=
  ⟨_, .deed w d, hd⟩

theorem andThen (h : Quiet w x) {d : Deed K V} (hd : given (x.entries d) = []) : Quiet w (x.perform d) :=
  h.trans (deed x hd)

theorem run (h : Quiet w w') (start : Run log w) : ∃ log', Run log' w' := by
  obtain ⟨more, h, -⟩ := h
  exact ⟨_, start.onward h⟩

end Quiet

/-! What ends a subscription waits for its worker, and gives it nothing more. -/

theorem Run.quiet_work (run : Run log w) {t : ConsumerTag} (gone : w.isSubscribed t = false) :
    Quiet w (w.perform (.work t)) ∧ (w.perform (.work t)).isSubscribed t = false :=
  ⟨.deed w (given_worked gone), (isSubscribed_alike (alike_advance run.staffed t) t).trans gone⟩

theorem Run.quiet_retire (run : Run log w) {t : ConsumerTag} (gone : w.isSubscribed t = false) :
    Quiet w (w.retire t) := by
  obtain ⟨first, gone₁⟩ := run.quiet_work gone
  obtain ⟨log₁, run₁⟩ := first.run run
  obtain ⟨second, gone₂⟩ := run₁.quiet_work gone₁
  obtain ⟨log₂, run₂⟩ := second.run run₁
  exact (first.trans second).trans (run₂.quiet_work gone₂).1

theorem Run.quiet_retireAll (run : Run log w) {ts : List ConsumerTag}
    (gone : ∀ t ∈ ts, w.isSubscribed t = false) : Quiet w (ts.foldl retire w) := by
  induction ts generalizing w log with
  | nil => exact .refl w
  | cons t ts ih =>
    have one := run.quiet_retire (gone t List.mem_cons_self)
    obtain ⟨log', run'⟩ := one.run run
    refine one.trans (ih run' fun r hr => ?_)
    rw [isSubscribed_alike (alike_retire run.strangers t)]
    exact gone r (List.mem_cons_of_mem t hr)

theorem Run.quiet_unsubscribe (run : Run log w) (c : ChannelId) (t : ConsumerTag) :
    Quiet w (w.unsubscribe c t).2 := by
  unfold unsubscribe
  rcases w.leave_cases c t with ⟨s, -, -, -, hl⟩ | ⟨e, hl⟩ | ⟨p, hl⟩
  · have left : Quiet w (w.perform (.leave c t)) := .deed w rfl
    simp only [perform, hl] at left
    rw [hl]
    obtain ⟨log', run'⟩ := left.run run
    refine left.trans (run'.quiet_retire ?_)
    simp [isSubscribed, Broker.left]
  · rw [hl]
    exact .refl w
  · rw [hl]
    exact .refl w

theorem Run.quiet_release (run : Run log w) (n : Nat) (x : Consumer) (a : Handle) :
    Quiet w (w.release n x a).2 := by
  have h := run.quiet_unsubscribe x.channel a.tag
  unfold release
  split
  · next hr => rw [hr] at h; exact h.andThen (d := .active n (·.poison)) rfl
  · next hr => rw [hr] at h; exact h
  · next hr => rw [hr] at h; exact h.andThen (d := .active n (·.put none)) rfl

theorem Run.quiet_noted (run : Run log w) (m : Note) (n : Nat) (x : Consumer) (a : Handle) :
    Quiet w ((w.note m).release n x a).2 :=
  (Quiet.deed w (d := .note m) rfl).trans ((run.snoc (.note m)).quiet_release n x a)

theorem Run.quiet_cancel (run : Run log w) (n : Nat) (a : Handle) : Quiet w (w.cancel n a).2 := by
  unfold cancel
  split
  · exact .refl w
  · split
    · exact .refl w
    · exact .refl w
    · split
      · exact .refl w
      · split
        · exact .refl w
        · exact run.quiet_noted _ n _ a

theorem Run.quiet_close (run : Run log w) (n : Nat) : Quiet w (w.close n).2 := by
  unfold close
  split
  · exact .refl w
  · split
    · exact .refl w
    · exact .refl w
    · exact run.quiet_noted _ n _ _

theorem Quiet.underLock {α : Type} (n : Nat) (s : HandlerState) {a : Outcome QueueError α × Bench K V}
    (h : Quiet w a.2) : Quiet w (Bench.underLock n s a).2 := by
  rcases a with ⟨_ | _ | _, w'⟩
  · exact h.andThen (d := .state n (·.put s)) rfl
  · exact h
  · exact h.andThen (d := .state n (·.poison)) rfl

theorem Run.quiet_closeChannel (run : Run log w) (c : ChannelId) : Quiet w (w.closeChannel c) := by
  unfold closeChannel
  split
  · exact .refl w
  · next hc =>
    have shut : Quiet w (w.perform (.close c)) := .deed w <| by
      rw [entries, given_told, w.broker.deliveries_other (a := .close c) (by simp)]
    obtain ⟨log', run'⟩ := shut.run run
    refine (shut.trans (run'.quiet_retireAll fun t ht => ?_)).andThen (d := .note _) rfl
    obtain ⟨s, hs, rfl⟩ := List.mem_map.1 ht
    obtain ⟨hs, hchannel⟩ := List.mem_filter.1 hs
    -- a consumer tag is of one channel
    refine Bool.eq_false_iff.2 fun still => ?_
    obtain ⟨r, hr, htag⟩ := List.any_eq_true.1 still
    rw [perform, Broker.closeChannel, if_neg hc] at hr
    obtain ⟨hr, hother⟩ := List.mem_filter.1 hr
    have same := run.invariant.1.run.sound.unique hr hs (of_decide_eq_true htag)
    exact of_decide_eq_true hother (same ▸ of_decide_eq_true hchannel)

end Bench

def Request.ends : Request K V → Prop
  | .cancel _ | .close _ | .drop _ | .closeChannel _ => True
  | .consume _ _ | .publish _ _ _ => False

/-- Nobody is given a delivery while a handler is cancelled, closed or dropped, or a channel closed. -/
theorem Bench.Run.quiet [Debug K] {w : Bench K V} (run : Run log w) {r : Request K V} (hr : r.ends) :
    Quiet w (w.request r) := by
  cases r with
  | consume n credits => exact hr.elim
  | publish n batch schedule => exact hr.elim
  | cancel n =>
    simp only [request, handlerCancel]
    split
    · exact .refl w
    · split
      · exact .refl w
      · split
        · exact .refl w
        · exact .refl w
        · exact (run.quiet_cancel _ _).underLock n _
  | close n =>
    simp only [request, handlerClose]
    split
    · exact .refl w
    · split
      · exact .refl w
      · exact .refl w
      · exact ((Quiet.deed w (d := .note _) rfl).trans ((run.snoc (.note _)).quiet_close _)).underLock n _
  | drop n =>
    simp only [request, dropHandler]
    split
    · exact .refl w
    · next h _ =>
      split
      · exact .refl w
      · have hc := run.quiet_close h.consumer
        split
        · next hr => rw [hr] at hc; exact (hc.andThen (d := .state n (·.put .closed)) rfl).andThen (d := .note _) rfl
        · next hr => rw [hr] at hc; exact hc.andThen (d := .state n (·.put .closed)) rfl
  | closeChannel c => exact run.quiet_closeChannel c

end QueueProbe
