import QueueProbe.Proofs.Handler.Ties

/-! What lasts. A handler is there for good once it is built, and so is its consumer. What they were built
with stays; only what their locks guard changes, and the counts. A lock that is poisoned stays poisoned.
No step does more than that, so nothing does that may happen meanwhile. -/

namespace QueueProbe

variable {K V : Type}

def Handler.frame (h : Handler K V) : Handler K V := { h with state := { value := .created } }

def Consumer.frame (x : Consumer) : Consumer := { x with active := { value := none }, stats := {} }

/-- What one handler is at two times. -/
structure Handler.Ages (h h' : Handler K V) : Prop where
  frame : h'.frame = h.frame
  poison : h.state.poisoned = true → h'.state.poisoned = true

structure Consumer.Ages (x x' : Consumer) : Prop where
  frame : x'.frame = x.frame
  poison : x.active.poisoned = true → x'.active.poisoned = true

/-- No poison is taken off a lock. -/
def Deed.IsFair : Deed K V → Prop
  | .active _ change => ∀ l, l.poisoned = true → (change l).poisoned = true
  | .state _ change => ∀ l, l.poisoned = true → (change l).poisoned = true
  | _ => True

namespace Handler.Ages

variable {h h' h'' : Handler K V}

theorem refl (h : Handler K V) : h.Ages h := ⟨rfl, id⟩

theorem trans (a : h.Ages h') (b : h'.Ages h'') : h.Ages h'' :=
  ⟨b.frame.trans a.frame, b.poison ∘ a.poison⟩

theorem filing (a : h.Ages h') : h'.filing = h.filing := (congrArg Handler.filing a.frame :)

end Handler.Ages

namespace Consumer.Ages

variable {x x' x'' : Consumer}

theorem refl (x : Consumer) : x.Ages x := ⟨rfl, id⟩

theorem trans (a : x.Ages x') (b : x'.Ages x'') : x.Ages x'' :=
  ⟨b.frame.trans a.frame, b.poison ∘ a.poison⟩

theorem of_desk (h : x'.desk = x.desk) : x.Ages x' where
  frame := (congrArg Consumer.frame h :)
  poison := by
    have same : x'.active = x.active := (congrArg Consumer.active h :)
    rw [same]
    exact id

end Consumer.Ages

/-- All that there is on `w` is there on `w'`, at its place. -/
structure Lasts (w w' : Bench K V) : Prop where
  handler : ∀ {n : Nat} {h : Handler K V}, w.handlers[n]? = some h →
    ∃ h', w'.handlers[n]? = some h' ∧ h.Ages h'
  consumer : ∀ {n : Nat} {x : Consumer}, w.consumers[n]? = some x →
    ∃ x', w'.consumers[n]? = some x' ∧ x.Ages x'

namespace Lasts

variable {w w' w'' : Bench K V}

theorem same (hh : w'.handlers = w.handlers) (hc : w'.consumers = w.consumers) : Lasts w w' where
  handler hn := ⟨_, hh ▸ hn, .refl _⟩
  consumer hn := ⟨_, hc ▸ hn, .refl _⟩

theorem refl (w : Bench K V) : Lasts w w := same rfl rfl

theorem broker (w : Bench K V) (b : Broker) : Lasts w { w with broker := b } := same rfl rfl

theorem trans (a : Lasts w w') (b : Lasts w' w'') : Lasts w w'' where
  handler hn := by
    obtain ⟨h', hn', old⟩ := a.handler hn
    obtain ⟨h'', hn'', new⟩ := b.handler hn'
    exact ⟨h'', hn'', old.trans new⟩
  consumer hn := by
    obtain ⟨x', hn', old⟩ := a.consumer hn
    obtain ⟨x'', hn'', new⟩ := b.consumer hn'
    exact ⟨x'', hn'', old.trans new⟩

theorem of_alike (a : Alike w w') : Lasts w w' where
  handler hn := ⟨_, a.handlers ▸ hn, .refl _⟩
  consumer hn := by
    obtain ⟨x', hn', desk⟩ := a.symm.consumer hn
    exact ⟨x', hn', .of_desk desk⟩

theorem onHandler (w : Bench K V) (m : Nat) {f : Lock HandlerState → Lock HandlerState}
    (fair : ∀ l, l.poisoned = true → (f l).poisoned = true) :
    Lasts w (w.onHandler m fun h => { h with state := f h.state }) where
  handler {n h} hn := by
    by_cases hm : m = n
    · exact ⟨{ h with state := f h.state }, by simp [Bench.onHandler, hn, hm], rfl, fair h.state⟩
    · exact ⟨h, by simp [Bench.onHandler, hn, hm], .refl h⟩
  consumer hn := ⟨_, hn, .refl _⟩

theorem onActive (w : Bench K V) (m : Nat) {f : Lock (Option Handle) → Lock (Option Handle)}
    (fair : ∀ l, l.poisoned = true → (f l).poisoned = true) :
    Lasts w (w.onConsumer m fun x => { x with active := f x.active }) where
  handler hn := ⟨_, hn, .refl _⟩
  consumer {n x} hn := by
    by_cases hm : m = n
    · exact ⟨{ x with active := f x.active }, by simp [Bench.onConsumer, hn, hm], rfl, fair x.active⟩
    · exact ⟨x, by simp [Bench.onConsumer, hn, hm], .refl x⟩

/-! What calls do to locks. -/

theorem setState (a : Lasts w w') (n : Nat) (s : HandlerState) : Lasts w (w'.setState n s) :=
  a.trans (onHandler w' n (f := (·.put s)) fun _ => id)

theorem setActive (a : Lasts w w') (n : Nat) (v : Option Handle) : Lasts w (w'.setActive n v) :=
  a.trans (onActive w' n (f := (·.put v)) fun _ => id)

theorem poisoned (w : Bench K V) (n m : Nat) : Lasts w ((w.poisonActive n).poisonState m) :=
  (onActive w n (f := (·.poison)) fun _ _ => rfl).trans (onHandler _ m (f := (·.poison)) fun _ _ => rfl)

theorem started (w : Bench K V) (n : Nat) (x : Consumer) (q : String) : Lasts w (w.started n x q) :=
  (broker w (w.broker.joined x.channel q x.prefetch)).setActive n _

theorem stopped (w : Bench K V) (n : Nat) (a : Handle) : Lasts w (w.stopped n a) :=
  (broker w (w.broker.left a.tag)).setActive n none

variable {n : Nat} {h : Handler K V} {x : Consumer} {i : Wish V}

theorem turnout (t : Turnout w n h x i w') : Lasts w w' := by
  cases t with
  | same i w' ha => exact of_alike ha
  | spoiled i w' ha => exact (poisoned w n n).trans (of_alike ha)
  | began credits w' opened idle usable ha => exact ((started w n x h.queue).setState n _).trans (of_alike ha)
  | ended a w' active ha => exact ((stopped w n a).setState n _).trans (of_alike ha)
  | closed w' idle ha => exact ((refl w).setState n _).trans (of_alike ha)
  | stopped a w' active ha => exact ((stopped w n a).setState n _).trans (of_alike ha)

end Lasts

namespace Bench

/-- Anything may happen between two moments, but for taking poison off locks. -/
inductive Meanwhile [DecidableEq K] [Debug K] (w : Bench K V) : Bench K V → Prop where
  | nothing : Meanwhile w w
  | befell {x : Bench K V} (d : Deed K V) (fair : d.IsFair) : Meanwhile w x → Meanwhile w (x.perform d)
  | asked {x : Bench K V} (r : Request K V) : Meanwhile w x → Meanwhile w (x.request r)

variable [DecidableEq K] [Debug K] {w w' x : Bench K V} {log : List (Entry K V)}

theorem Meanwhile.trans (m : Meanwhile w x) (m' : Meanwhile x w') : Meanwhile w w' := by
  induction m' with
  | nothing => exact m
  | befell d fair _ ih => exact ih.befell d fair
  | asked r _ ih => exact ih.asked r

theorem Meanwhile.leads (m : Meanwhile w w') : Leads w w' := by
  induction m with
  | nothing => exact .refl w
  | befell d _ _ ih => exact ih.andThen d
  | asked r _ ih => exact ih.trans (.request _ r)

theorem Run.lasts_perform (run : Run log w) (d : Deed K V) (fair : d.IsFair) : Lasts w (w.perform d) := by
  have whole : d.isWhole = true → Lasts w (w.perform d) := by
    intro hw
    rcases run.whole_cases d hw with ha | ⟨p, rfl⟩ | ⟨c, rfl⟩
    · exact .of_alike ha
    · rcases w.build_cases p with hb | ⟨h, x, hh, hc, -⟩
      · exact .same (congrArg Bench.handlers hb) (congrArg Bench.consumers hb)
      · have behind : ∀ {α : Type} {xs ys : List α} {a b : α} {i : Nat}, ys = xs ++ [b] → xs[i]? = some a →
            ys[i]? = some a := by
          rintro α xs _ a b i rfl hi
          rw [List.getElem?_append_left (List.getElem?_eq_some_iff.1 hi).1, hi]
        exact ⟨fun hn => ⟨_, behind hh hn, .refl _⟩, fun hn => ⟨_, behind hc hn, .refl _⟩⟩
    · exact .same rfl rfl
  cases d with
  | active n change => exact .onActive w n fair
  | state n change => exact .onHandler w n fair
  | leave c t =>
    rcases w.leave_cases c t with ⟨s, -, -, -, hl⟩ | ⟨e, hl⟩ | ⟨p, hl⟩ <;>
      exact .same (by simp only [perform, hl]) (by simp only [perform, hl])
  | subscribe n credits =>
    simp only [perform]
    split
    · exact .refl w
    · next h _ =>
      split
      · exact .refl w
      · next x _ =>
        rcases w.subscribe_turnout x.channel h.queue x.prefetch (.filing h.filing) credits with
          ⟨w', -, hs, ha⟩ | ⟨e, w', hs, hw⟩ | ⟨p, hs⟩ <;> rw [hs]
        · exact (Lasts.broker w _).trans (.of_alike ha)
        · exact .of_alike hw.alike
        · exact .refl w
  | _ => exact whole rfl

theorem Run.alike_retireAll (run : Run log w) (ts : List ConsumerTag) : Alike w (ts.foldl retire w) := by
  induction ts generalizing log w with
  | nil => exact .refl w
  | cons t ts ih =>
    obtain ⟨more, run'⟩ := run.leads (Leads.retire w t)
    exact (alike_retire run.strangers t).trans (ih run')

theorem Run.lasts_closeChannel (run : Run log w) (c : ChannelId) : Lasts w (w.closeChannel c) := by
  unfold closeChannel
  split
  · exact .refl w
  · have retired := (run.snoc (.close c)).alike_retireAll
      ((w.broker.subscriptions.filter (·.channel = c)).map (·.tag))
    exact (Lasts.broker w (w.broker.closeChannel c)).trans (.of_alike (retired.note _))

variable {n : Nat} {h : Handler K V}

theorem Run.consumer (run : Run log w) (hh : w.handlers[n]? = some h) : ∃ x, w.consumers[n]? = some x := by
  have known := (List.getElem?_eq_some_iff.1 hh).1
  rw [← run.paired] at known
  exact ⟨_, List.getElem?_eq_getElem known⟩

theorem Run.lasts_wish (run : Run log w) (n : Nat) (i : Wish V) : Lasts w (w.request (i.of n)) := by
  cases hh : w.handlers[n]? with
  | none =>
    rw [request_unknown hh]
    exact .refl w
  | some h =>
    obtain ⟨x, hx⟩ := run.consumer hh
    exact .turnout (QueueProbe.turnout run hh (run.numbered hh) hx i)

theorem Run.lasts_drop (run : Run log w) (n : Nat) : Lasts w (w.dropHandler n).2 := by
  unfold dropHandler
  cases hh : w.handlers[n]? with
  | none => exact .refl w
  | some h =>
    obtain ⟨x, hx⟩ := run.consumer hh
    rw [← run.numbered hh] at hx
    have closed : Lasts w (w.close h.consumer).2 := by
      rcases (close_comes run.strangers hx).bench with ha | ha | ⟨-, ⟨-, ha⟩ | ⟨a, -, ha⟩⟩
      · exact .of_alike ha
      · exact (Lasts.onActive w h.consumer (f := (·.poison)) fun _ _ => rfl).trans (.of_alike ha)
      · exact .of_alike ha
      · exact (Lasts.stopped w h.consumer a).trans (.of_alike ha)
    dsimp only
    split
    · exact .refl w
    · split
      · next hr => rw [hr] at closed; exact (closed.setState n _).trans (.same rfl rfl)
      · next hr => rw [hr] at closed; exact closed.setState n _

theorem Run.lasts_request (run : Run log w) (r : Request K V) : Lasts w (w.request r) := by
  cases r with
  | consume n credits => exact run.lasts_wish n (.consume credits)
  | publish n batch schedule => exact run.lasts_wish n (.publish batch schedule)
  | cancel n => exact run.lasts_wish n .cancel
  | close n => exact run.lasts_wish n .close
  | drop n => exact run.lasts_drop n
  | closeChannel c => exact run.lasts_closeChannel c

/-- Whatever happens meanwhile, all that there is lasts. -/
theorem Run.lasts (run : Run log w) (m : Meanwhile w w') : Lasts w w' := by
  induction m with
  | nothing => exact .refl w
  | befell d fair m ih =>
    obtain ⟨more, run'⟩ := run.leads m.leads
    exact ih.trans (run'.lasts_perform d fair)
  | asked r m ih =>
    obtain ⟨more, run'⟩ := run.leads m.leads
    exact ih.trans (run'.lasts_request r)

end Bench
end QueueProbe
