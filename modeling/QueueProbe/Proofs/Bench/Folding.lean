import Mathlib.Data.List.Dedup
import QueueProbe.Proofs.Bench.Filing

/-! A store as the fold of what was put into it: of each key it has the last message, of all keys one
entry each, and no key goes away again. -/

namespace QueueProbe

variable {K V : Type} [DecidableEq K]

theorem Table.keys_set {κ α : Type} [DecidableEq κ] (k : κ) (a : α) (t : Table κ α) :
    (t.set k a).keys = if k ∈ t.keys then t.keys else t.keys ++ [k] := by
  by_cases hk : k ∈ t.keys
  · rw [if_pos hk]
    induction t with
    | nil => cases hk
    | cons e rest ih =>
      by_cases he : e.1 = k
      · simp [set, keys, he]
      · have hrest : k ∈ Table.keys rest := (List.mem_cons.1 hk).resolve_left (Ne.symm he)
        simpa [set, keys, he] using ih hrest
  · rw [if_neg hk, set_fresh hk]
    simp [keys]

namespace Store

/-- The store once more messages were put into it, one after another. -/
def putAll (s : Store K V) (puts : List (K × Message V)) : Store K V :=
  puts.foldl (fun s x => s.put x.1 x.2) s

variable {puts : List (K × Message V)} {k : K}

theorem ofPuts_append_putAll (puts new : List (K × Message V)) :
    ofPuts (puts ++ new) = (ofPuts puts).putAll new := List.foldl_append

theorem keys_put (s : Store K V) (k : K) (m : Message V) :
    (s.put k m).keys = if k ∈ s.keys then s.keys else s.keys ++ [k] := Table.keys_set k m s.messages

theorem keys_prefix_putAll (s : Store K V) (puts : List (K × Message V)) :
    s.keys <+: (s.putAll puts).keys := by
  induction puts generalizing s with
  | nil => exact List.prefix_rfl
  | cons x puts ih =>
    refine List.IsPrefix.trans ?_ (ih (s.put x.1 x.2))
    rw [keys_put]
    split
    · exact List.prefix_rfl
    · exact List.prefix_append _ _

/-- The last write of a key wins. -/
theorem get?_ofPuts (puts : List (K × Message V)) (k : K) :
    (ofPuts puts).get? k = (puts.filter (·.1 = k)).getLast?.map (·.2) := by
  induction puts using List.reverseRecOn with
  | nil => rfl
  | append_singleton puts x ih =>
    rw [ofPuts_append, List.filter_append]
    by_cases hx : x.1 = k
    · subst hx
      simp
    · rw [get?_put_ne (Ne.symm hx), ih]
      simp [hx]

theorem get?_ofPuts_last {later : List (K × Message V)} (last : ∀ x ∈ later, x.1 ≠ k)
    (puts : List (K × Message V)) (m : Message V) : (ofPuts (puts ++ (k, m) :: later)).get? k = some m := by
  have none : later.filter (·.1 = k) = [] := List.filter_eq_nil_iff.2 fun x hx => by simpa using last x hx
  rw [get?_ofPuts, List.filter_append, List.filter_cons, none]
  simp

theorem get?_ofPuts_of_mem {m : Message V} (h : (k, m) ∈ puts) :
    ∃ m', (k, m') ∈ puts ∧ (ofPuts puts).get? k = some m' := by
  rw [get?_ofPuts]
  cases hlast : (puts.filter (·.1 = k)).getLast? with
  | none =>
    rw [List.getLast?_eq_none_iff, List.filter_eq_nil_iff] at hlast
    exact absurd (decide_eq_true rfl) (hlast _ h)
  | some x =>
    obtain ⟨hx, hk⟩ := List.mem_filter.1 (List.mem_of_getLast? hlast)
    obtain rfl : x.1 = k := of_decide_eq_true hk
    exact ⟨x.2, hx, rfl⟩

theorem nodup_keys_ofPuts (puts : List (K × Message V)) : (ofPuts puts).keys.Nodup := by
  induction puts using List.reverseRecOn with
  | nil => exact List.nodup_nil
  | append_singleton puts x ih =>
    rw [ofPuts_append, keys_put]
    split
    · exact ih
    · next fresh => exact List.nodup_append.2 ⟨ih, List.nodup_singleton _, by grind⟩

theorem mem_keys_ofPuts : k ∈ (ofPuts puts).keys ↔ k ∈ puts.map (·.1) := by
  induction puts using List.reverseRecOn with
  | nil => simp [ofPuts, keys, Table.keys]
  | append_singleton puts x ih =>
    rw [ofPuts_append, keys_put, List.map_append, List.mem_append, ← ih]
    split
    · next old => grind
    · simp

theorem size_ofPuts (puts : List (K × Message V)) :
    (ofPuts puts).size = (puts.map (·.1)).dedup.length := by
  have same : (ofPuts puts).keys.Perm (puts.map (·.1)).dedup := by
    refine (List.perm_ext_iff_of_nodup (nodup_keys_ofPuts puts) (List.nodup_dedup _)).2 fun k => ?_
    rw [mem_keys_ofPuts, List.mem_dedup]
  rw [← same.length_eq, keys, Table.keys, List.length_map, size]

end Store
end QueueProbe
