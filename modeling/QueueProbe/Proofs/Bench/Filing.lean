import Mathlib.Data.List.Induction
import QueueProbe.Bench.Consuming
import QueueProbe.Proofs.Broker.History

/-! What filing a delivery does: it puts a message into the consumer's store, or refuses the body, and
leaves the broker alone. -/

namespace QueueProbe

variable {K V : Type}

/-- What a letter is filed as; nothing if it cannot be decoded or has no key. -/
def filedAs (decoder : Decoder V) (key : KeyFn K V) (l : Letter) : Option (K × Message V) :=
  match decoder l.body with
  | .error _ | .panic _ => none
  | .ok v =>
    match key ⟨v, l.properties⟩ with
    | .error _ | .panic _ => none
    | .ok k => some (k, ⟨v, l.properties⟩)

/-- The store in which the messages were put one after another. -/
def Store.ofPuts [DecidableEq K] (puts : List (K × Message V)) : Store K V :=
  puts.foldl (fun s x => s.put x.1 x.2) {}

theorem Store.ofPuts_append [DecidableEq K] (puts : List (K × Message V)) (x : K × Message V) :
    Store.ofPuts (puts ++ [x]) = (Store.ofPuts puts).put x.1 x.2 := by
  simp [Store.ofPuts]

theorem Table.set_fresh {κ α : Type} [DecidableEq κ] {k : κ} {t : Table κ α} (fresh : k ∉ t.keys) (a : α) :
    t.set k a = t ++ [(k, a)] := by
  induction t with
  | nil => rfl
  | cons e rest ih =>
    have hk : e.1 ≠ k ∧ k ∉ Table.keys rest := by
      constructor
      · intro he
        exact fresh (he ▸ List.mem_cons_self)
      · intro hr
        exact fresh (List.mem_cons_of_mem _ hr)
    simp [Table.set, hk.1, ih hk.2]

theorem Store.messages_ofPuts [DecidableEq K] {puts : List (K × Message V)}
    (distinct : (puts.map (·.1)).Nodup) : (Store.ofPuts puts).messages = puts := by
  induction puts using List.reverseRecOn with
  | nil => rfl
  | append_singleton puts x ih =>
    rw [List.map_append, List.nodup_append] at distinct
    have hputs := ih distinct.1
    have fresh : x.1 ∉ Table.keys (Store.ofPuts puts).messages := by
      intro hx
      rw [hputs] at hx
      exact distinct.2.2 _ hx _ (by simp) rfl
    rw [Store.ofPuts_append, Store.put, Table.set_fresh fresh, hputs]

namespace Bench

theorem toOption_index (f : Filing K V) (d : Delivery) :
    (index f d).toOption = filedAs f.decoder f.key d.letter := by
  unfold index filedAs
  simp only [Delivery.letter]
  cases f.decoder d.body with
  | error e => rfl
  | panic p => rfl
  | ok v => dsimp only; cases f.key ⟨v, d.properties⟩ <;> rfl

theorem index_ok {f : Filing K V} {d : Delivery} {x : K × Message V} :
    index f d = .ok x ↔ filedAs f.decoder f.key d.letter = some x := by
  rw [← toOption_index]
  cases index f d <;> simp [Except.toOption]

theorem index_error {f : Filing K V} {d : Delivery} :
    (∃ e, index f d = .error e) ↔ filedAs f.decoder f.key d.letter = none := by
  rw [← toOption_index]
  cases index f d <;> simp [Except.toOption]

theorem isSubscribed_eq (w : Bench K V) (t : ConsumerTag) :
    w.isSubscribed t = (w.broker.subscription? t).isSome := by
  rw [Bool.eq_iff_iff]
  simp [Bench.isSubscribed, Broker.subscription?]

@[simp] theorem broker_setPhase (w : Bench K V) (t : ConsumerTag) (p : Phase) :
    (w.setPhase t p).broker = w.broker := rfl

@[simp] theorem broker_keep [DecidableEq K] (w : Bench K V) (c : Nat) (k : K) (m : Message V) :
    (w.keep c k m).broker = w.broker := by
  unfold keep
  split <;> rfl

/-- Filing is between the worker and its consumer; the broker learns of it only as it is settled. -/
@[simp] theorem broker_file [DecidableEq K] [Debug K] (w : Bench K V) (t : ConsumerTag) (f : Filing K V)
    (d : Delivery) : (w.file t f d).broker = w.broker := by
  unfold file
  split
  · exact broker_keep _ _ _ _
  · split <;> rfl

end Bench
end QueueProbe
