import Mathlib.Logic.Relation
import QueueProbe.Bench.Publishing
import QueueProbe.Proofs.Handler.Deeds

/-! What is asked of a handler, and closing a channel, are several deeds in a row, so whatever holds
of all runs of deeds holds of those with such requests among them. -/

namespace QueueProbe

variable {K V : Type}

/-- A request to a handler by its number, or to close a channel. -/
inductive Request (K V : Type) where
  | consume (handler : Nat) (credits : Option Nat)
  | publish (handler : Nat) (batch : List (Message V)) (schedule : List Nat)
  | cancel (handler : Nat)
  | close (handler : Nat)
  | drop (handler : Nat)
  | closeChannel (channel : ChannelId)

namespace Bench

variable [DecidableEq K] [Debug K]

def request (w : Bench K V) : Request K V → Bench K V
  | .consume n credits => (w.consume n credits).2
  | .publish n batch schedule => (w.handlerPublish n batch schedule).2
  | .cancel n => (w.handlerCancel n).2
  | .close n => (w.handlerClose n).2
  | .drop n => (w.dropHandler n).2
  | .closeChannel c => w.closeChannel c

/-- Deeds in a row lead from one bench to the other. -/
def Leads : Bench K V → Bench K V → Prop := Relation.ReflTransGen fun w w' => ∃ d, w' = w.perform d

theorem Run.leads {log : List (Entry K V)} {w w' : Bench K V} (h : Run log w) (hl : Leads w w') :
    ∃ more, Run (log ++ more) w' := by
  induction hl with
  | refl => exact ⟨[], by rwa [List.append_nil]⟩
  | @tail x y _ hd ih =>
    obtain ⟨more, hx⟩ := ih
    obtain ⟨d, rfl⟩ := hd
    exact ⟨more ++ x.entries d, by rw [← List.append_assoc]; exact hx.snoc d⟩

namespace Leads

variable {w w' x : Bench K V}

theorem refl (w : Bench K V) : Leads w w := Relation.ReflTransGen.refl

theorem trans (h : Leads w w') (g : Leads w' x) : Leads w x := Relation.ReflTransGen.trans h g

theorem deed (w : Bench K V) (d : Deed K V) : Leads w (w.perform d) := Relation.ReflTransGen.single ⟨d, rfl⟩

theorem andThen (h : Leads w w') (d : Deed K V) : Leads w (w'.perform d) := h.trans (deed w' d)

theorem foldl {α β : Type} (bench : β → Bench K V) (f : β → α → β)
    (hf : ∀ s a, Leads (bench s) (bench (f s a))) (as : List α) (s : β) : Leads (bench s) (bench (as.foldl f s)) := by
  induction as generalizing s with
  | nil => exact refl _
  | cons a as ih => exact (hf s a).trans (ih (f s a))

theorem notes (ns : List Note) (w : Bench K V) : Leads w { w with journal := w.journal ++ ns } := by
  induction ns generalizing w with
  | nil => rw [List.append_nil]; exact refl w
  | cons n ns ih =>
    have h := (deed w (.note n)).trans (ih (w.perform (.note n)))
    simpa [perform, note] using h

theorem retire (w : Bench K V) (t : ConsumerTag) : Leads w (w.retire t) :=
  ((deed w (.work t)).andThen (.work t)).andThen (.work t)

theorem unsubscribe (w : Bench K V) (c : ChannelId) (t : ConsumerTag) : Leads w (w.unsubscribe c t).2 := by
  have h := deed w (.leave c t)
  simp only [perform] at h
  unfold Bench.unsubscribe
  split
  · next hl => rw [hl] at h; exact h.trans (retire _ t)
  · exact h

theorem release (w : Bench K V) (n : Nat) (x : Consumer) (a : Handle) : Leads w (w.release n x a).2 := by
  have h := unsubscribe w x.channel a.tag
  unfold Bench.release
  split
  · next hr => rw [hr] at h; exact h.andThen (.active n (·.poison))
  · next hr => rw [hr] at h; exact h
  · next hr => rw [hr] at h; exact h.andThen (.active n (·.put none))

theorem cancel (w : Bench K V) (n : Nat) (a : Handle) : Leads w (w.cancel n a).2 := by
  unfold Bench.cancel
  split
  · exact refl w
  · split
    · exact refl w
    · exact refl w
    · split
      · exact refl w
      · split
        · exact refl w
        · exact (deed w (.note _)).trans (release _ n _ a)

theorem close (w : Bench K V) (n : Nat) : Leads w (w.close n).2 := by
  unfold Bench.close
  split
  · exact refl w
  · split
    · exact refl w
    · exact refl w
    · exact (deed w (.note _)).trans (release _ n _ _)

theorem start (w : Bench K V) {n : Nat} {h : Handler K V} (hn : w.handlers[n]? = some h)
    (credits : Option Nat) : Leads w (w.start h.consumer h.queue h.decoder h.key h.policy credits).2 := by
  unfold Bench.start
  split
  · exact refl w
  · next x hx =>
    split
    · exact refl w
    · exact refl w
    · have joined : ∀ m, Leads w
          ((w.note m).subscribe x.channel h.queue x.prefetch (.filing h.filing) credits).2 := by
        intro m
        have hs := (deed w (.note m)).andThen (.subscribe n credits)
        simpa [perform, note, hn, hx] using hs
      simp only [Handler.filing] at joined
      dsimp only
      split
      · next hs => have hj := hs ▸ joined _; exact hj.andThen (.active _ (·.poison))
      · next hs => have hj := hs ▸ joined _; exact hj
      · next hs => have hj := hs ▸ joined _; exact (hj.andThen (.note _)).andThen (.active _ (·.put _))

/-- A call under the lock of a handler ends with a change of its state, or none. -/
theorem underLock {α : Type} (n : Nat) (s : HandlerState) {a : Outcome QueueError α × Bench K V}
    (h : Leads w a.2) : Leads w (Bench.underLock n s a).2 := by
  rcases a with ⟨_ | _ | _, w'⟩
  · exact h.andThen (.state n (·.put s))
  · exact h
  · exact h.andThen (.state n (·.poison))

theorem closeChannel (w : Bench K V) (c : ChannelId) : Leads w (w.closeChannel c) := by
  unfold Bench.closeChannel
  split
  · exact refl w
  · exact ((deed w (.close c)).trans (foldl id Bench.retire retire _ _)).andThen (.note _)

theorem sendMessage (w : Bench K V) (p : Publisher V) (q : String) (m : Message V) :
    Leads w (w.sendMessage p q m).2 := by
  unfold Bench.sendMessage
  split
  · exact refl w
  · exact refl w
  · next body _ =>
    exact (deed w (.note _)).andThen (.send p.channel q ⟨body, m.properties⟩)

theorem crewStep (p : Publisher V) (q : String) (batch : List (Message V)) (s : Crew × Bench K V)
    (i : Nat) : Leads s.2 (Bench.crewStep p q batch s i).2 := by
  unfold Bench.crewStep
  split
  · exact refl s.2
  · split
    · exact refl s.2
    · exact refl s.2
    · exact refl s.2
    · split
      · exact refl s.2
      · next m _ =>
        have h := sendMessage s.2 p q m
        split <;> next hs => rw [hs] at h; exact h

theorem finishCrew (p : Publisher V) (q : String) (batch : List (Message V)) (fuel : Nat)
    (s : Crew × Bench K V) : Leads s.2 (Bench.finishCrew p q batch fuel s).2 := by
  induction fuel generalizing s with
  | zero => exact refl s.2
  | succ fuel ih =>
    unfold Bench.finishCrew
    split
    · exact (crewStep p q batch s _).trans (ih _)
    · exact refl s.2

theorem publish (w : Bench K V) (p : Publisher V) (q : String) (batch : List (Message V))
    (schedule : List Nat) : Leads w (w.publish p q batch schedule).2 := by
  unfold Bench.publish publishWith
  split
  · exact refl w
  · have scheduled : ∀ s : Crew × Bench K V, Leads s.2 (schedule.foldl (Bench.crewStep p q batch) s).2 :=
      foldl Prod.snd _ (crewStep p q batch) schedule
    refine (trans ?_ (finishCrew p q batch _ _)).trans (notes _ _)
    exact (deed w (.note _)).trans (scheduled (_, w.note _))

theorem request (w : Bench K V) (r : Request K V) : Leads w (w.request r) := by
  cases r with
  | consume n credits =>
    simp only [Bench.request, Bench.consume]
    split
    · exact refl w
    · next h hn =>
      split
      · exact refl w
      · exact underLock n _ (start w hn credits)
  | publish n batch schedule =>
    simp only [Bench.request, handlerPublish]
    split
    · exact refl w
    · split
      · exact refl w
      · exact publish w _ _ batch schedule
  | cancel n =>
    simp only [Bench.request, handlerCancel]
    split
    · exact refl w
    · split
      · exact refl w
      · split
        · exact refl w
        · exact refl w
        · exact underLock n _ (cancel w _ _)
  | close n =>
    simp only [Bench.request, handlerClose]
    split
    · exact refl w
    · split
      · exact refl w
      · exact refl w
      · exact underLock n _ ((deed w (.note _)).trans (close _ _))
  | drop n =>
    simp only [Bench.request, dropHandler]
    split
    · exact refl w
    · next h _ =>
      split
      · exact refl w
      · have hc := close w h.consumer
        split
        · next hr => rw [hr] at hc; exact (hc.andThen (.state n (·.put .closed))).andThen (.note _)
        · next hr => rw [hr] at hc; exact hc.andThen (.state n (·.put .closed))
  | closeChannel c => exact closeChannel w c

end Leads
end Bench
end QueueProbe
