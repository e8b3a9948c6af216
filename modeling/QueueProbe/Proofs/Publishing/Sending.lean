import QueueProbe.Bench.Publishing
import QueueProbe.Proofs.Broker.Contents

/-! Sending one message. Whether it can go out depends on its encoding and on what is in the way of
every send, and no send puts anything in the way of the next or takes it away. -/

namespace QueueProbe

variable {K V : Type}

namespace Broker

@[simp] theorem usable_posted (b : Broker) (q : String) (l : Letter) (c : ChannelId) :
    (b.posted q l).usable c = b.usable c := rfl

@[simp] theorem hasQueue_posted (b : Broker) (q r : String) (l : Letter) :
    (b.posted q l).hasQueue r = b.hasQueue r := by
  simp only [hasQueue_eq, queue?_posted]
  split <;> simp

/-- The broker once it accepted letters one after another. -/
def mailed (b : Broker) (q : String) (ls : List Letter) : Broker := ls.foldl (fun b l => b.posted q l) b

theorem mailed_append (b : Broker) (q : String) (ls ls' : List Letter) :
    b.mailed q (ls ++ ls') = (b.mailed q ls).mailed q ls' := List.foldl_append

@[simp] theorem usable_mailed (b : Broker) (q : String) (ls : List Letter) (c : ChannelId) :
    (b.mailed q ls).usable c = b.usable c := by
  induction ls generalizing b with
  | nil => rfl
  | cons l ls ih => exact (ih (b.posted q l)).trans (usable_posted b q l c)

@[simp] theorem hasQueue_mailed (b : Broker) (q r : String) (ls : List Letter) :
    (b.mailed q ls).hasQueue r = b.hasQueue r := by
  induction ls generalizing b with
  | nil => rfl
  | cons l ls ih => exact (ih (b.posted q l)).trans (hasQueue_posted b q r l)

theorem readyOf_mailed {b : Broker} {q : String} (known : b.hasQueue q = true) (ls : List Letter) :
    (b.mailed q ls).readyOf q =
      b.readyOf q ++ ls.map fun l => { body := l.body, properties := l.properties } := by
  induction ls generalizing b with
  | nil => simp [mailed]
  | cons l ls ih =>
    have hl := ih (b := b.posted q l) (by simpa using known)
    rw [readyOf_posted known, if_pos rfl] at hl
    simpa [mailed] using hl

end Broker

/-- What encoding a message panics with; nothing if it does not. -/
def Publisher.fall? (p : Publisher V) (m : Message V) : Option Panic :=
  match p.encoder m.content with
  | .panic why => some why
  | .ok _ | .error _ => none

theorem Publisher.fall?_eq_none_iff {p : Publisher V} {m : Message V} :
    p.fall? m = none ↔ ∀ why, p.encoder m.content ≠ .panic why := by
  unfold Publisher.fall?
  cases p.encoder m.content <;> simp

namespace Bench

/-- What is in the way of every send through channel `c` to queue `q`. -/
def obstacle (w : Bench K V) (c : ChannelId) (q : String) : Option BrokerError :=
  match w.faults.get? (c, .send) with
  | some _ => some (.transport "send refused")
  | none =>
    match w.broker.usable c with
    | .error e => some e
    | .ok () => if w.broker.hasQueue q then none else some (.unknownQueue q)

/-- Why a message cannot be published; nothing if it can. -/
def refusal (w : Bench K V) (p : Publisher V) (q : String) (m : Message V) : Option QueueError :=
  match p.encoder m.content with
  | .error e => some (.encode e)
  | .panic _ => none
  | .ok _ => (w.obstacle p.channel q).map .ofBroker

def sendAnswer (w : Bench K V) (p : Publisher V) (q : String) (m : Message V) : Outcome QueueError Unit :=
  match p.fall? m, w.refusal p q m with
  | some why, _ => .panic why
  | none, some e => .error e
  | none, none => .ok ()

/-- What goes out for a message; nothing if it cannot be published. -/
def outgoing (w : Bench K V) (p : Publisher V) (q : String) (m : Message V) : Option Letter :=
  match p.encoder m.content, w.obstacle p.channel q with
  | .ok body, none => some ⟨body, m.properties⟩
  | _, _ => none

/-- The bench once letters went out through channel `c`. -/
def mailed (w : Bench K V) (c : ChannelId) (q : String) (ls : List Letter) (journal : List Note) :
    Bench K V :=
  { w with
    broker := w.broker.mailed q ls
    dispatches := w.dispatches ++ ls.map fun l => ⟨c, q, l.body, l.properties⟩
    journal }

theorem mailed_mailed (w : Bench K V) (c : ChannelId) (q : String) (ls ls' : List Letter)
    (j j' : List Note) : (w.mailed c q ls j).mailed c q ls' j' = w.mailed c q (ls ++ ls') j' := by
  simp [mailed, Broker.mailed_append]

theorem mailed_nil (w : Bench K V) (c : ChannelId) (q : String) (j : List Note) :
    w.mailed c q [] j = { w with journal := j } := by
  simp [mailed, Broker.mailed]

@[simp] theorem obstacle_mailed (w : Bench K V) (c d : ChannelId) (q : String) (ls : List Letter)
    (j : List Note) : (w.mailed c q ls j).obstacle d q = w.obstacle d q := by
  simp [obstacle, mailed]

@[simp] theorem refusal_mailed (w : Bench K V) (p : Publisher V) (c : ChannelId) (q : String)
    (ls : List Letter) (j : List Note) (m : Message V) :
    (w.mailed c q ls j).refusal p q m = w.refusal p q m := by
  simp [refusal]

@[simp] theorem sendAnswer_mailed (w : Bench K V) (p : Publisher V) (c : ChannelId) (q : String)
    (ls : List Letter) (j : List Note) (m : Message V) :
    (w.mailed c q ls j).sendAnswer p q m = w.sendAnswer p q m := by
  simp [sendAnswer]

@[simp] theorem outgoing_mailed (w : Bench K V) (p : Publisher V) (c : ChannelId) (q : String)
    (ls : List Letter) (j : List Note) (m : Message V) :
    (w.mailed c q ls j).outgoing p q m = w.outgoing p q m := by
  simp [outgoing]

variable {w : Bench K V} {p : Publisher V} {q : String} {m : Message V} {c : ChannelId}

theorem sendAnswer_sane (sane : ∀ why, p.encoder m.content ≠ .panic why) :
    w.sendAnswer p q m = match w.refusal p q m with | none => .ok () | some e => .error e := by
  unfold sendAnswer
  rw [Publisher.fall?_eq_none_iff.2 sane]
  cases w.refusal p q m <;> rfl

theorem sendAnswer_eq_panic_iff {why : Panic} : w.sendAnswer p q m = .panic why ↔ p.fall? m = some why := by
  unfold sendAnswer
  cases p.fall? m <;> cases w.refusal p q m <;> simp

theorem fall?_eq_none (h : ∀ why, w.sendAnswer p q m ≠ .panic why) : p.fall? m = none := by
  cases hf : p.fall? m with
  | none => rfl
  | some why => exact absurd (sendAnswer_eq_panic_iff.2 hf) (h why)

theorem send_clear (h : w.obstacle c q = none) (l : Letter) :
    w.send c q l.body l.properties = (.ok (), w.mailed c q [l] w.journal) := by
  unfold obstacle at h
  cases hf : w.faults.get? (c, .send) with
  | some f => simp [hf] at h
  | none =>
    simp only [hf] at h
    cases hu : w.broker.usable c with
    | error e => simp [hu] at h
    | ok =>
      have hq : w.broker.hasQueue q = true := by simpa [hu] using h
      simp [send, through, hf, Broker.send_ok hu hq, Outcome.ofExcept, mailed, Broker.mailed]

theorem send_blocked {e : BrokerError} (h : w.obstacle c q = some e)
    (calm : w.faults.get? (c, .send) ≠ some .crash) (l : Letter) :
    w.send c q l.body l.properties = (.error e, w) := by
  unfold obstacle at h
  cases hf : w.faults.get? (c, .send) with
  | some f =>
    cases f with
    | crash => exact absurd hf calm
    | refuse =>
      obtain rfl : BrokerError.transport "send refused" = e := by simpa [hf] using h
      simp only [send, through, hf]
      rfl
  | none =>
    simp only [hf] at h
    cases hu : w.broker.usable c with
    | error f =>
      obtain rfl : f = e := by simpa [hu] using h
      simp [send, through, hf, Broker.send, Broker.through, hu, Outcome.ofExcept]
    | ok =>
      have hq : w.broker.hasQueue q = false ∧ .unknownQueue q = e := by simpa [hu] using h
      simp [send, through, hf, Broker.send, Broker.through, hu, hq, Outcome.ofExcept]

/-- A message goes out, or is refused, or the encoder panics on it; the bench has what went out, and
notes. -/
theorem sendMessage_eq (calm : w.faults.get? (p.channel, .send) ≠ some .crash) :
    ∃ journal, w.sendMessage p q m =
      (w.sendAnswer p q m, w.mailed p.channel q (w.outgoing p q m).toList journal) := by
  unfold sendMessage sendAnswer Publisher.fall? refusal outgoing
  cases hm : p.encoder m.content with
  | panic why => exact ⟨w.journal, by simp [mailed_nil]⟩
  | error e => exact ⟨w.journal, by simp [mailed_nil]⟩
  | ok body =>
    let noted := w.note (.trace ("publishing " ++ toString body.length ++ " bytes to " ++ q))
    have hn : noted.obstacle p.channel q = w.obstacle p.channel q := rfl
    refine ⟨noted.journal, ?_⟩
    change ((noted.send p.channel q body m.properties).1.mapError QueueError.ofBroker,
      (noted.send p.channel q body m.properties).2) = _
    cases ho : w.obstacle p.channel q with
    | none =>
      rw [send_clear (hn.trans ho) ⟨body, m.properties⟩]
      rfl
    | some e =>
      rw [send_blocked (hn.trans ho) calm ⟨body, m.properties⟩, Option.toList_none, mailed_nil]
      rfl

end Bench
end QueueProbe
