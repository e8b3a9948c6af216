import QueueProbe.Proofs.Handler.Custody

/-! Shelves. Handlers, consumers and stores are made together and numbered alike, and a store is what
was put into it by the deliveries of its handler, one after another. -/

namespace QueueProbe

variable {K V : Type}

/-- How an entry was filed or refused, if it is one of a worker. -/
def Entry.how? : Entry K V → Option (Filing K V)
  | .filed _ f _ _ _ | .refused _ f _ _ => some f
  | .told _ => none

def Entry.put? (n : Nat) : Entry K V → Option (K × Message V)
  | .filed _ f _ key m => if f.consumer = n then some (key, m) else none
  | .told _ | .refused .. => none

def putsInto (n : Nat) (log : List (Entry K V)) : List (K × Message V) := log.filterMap (Entry.put? n)

theorem putsInto_append (n : Nat) (log new : List (Entry K V)) :
    putsInto n (log ++ new) = putsInto n log ++ putsInto n new := List.filterMap_append

@[simp] theorem putsInto_told (n : Nat) (es : List Broker.Event) :
    putsInto n (es.map (Entry.told (K := K) (V := V))) = [] := by
  simp [putsInto, Entry.put?]

theorem putsInto_filed (n : Nat) (t : ConsumerTag) (f : Filing K V) (d : Delivery) (key : K)
    (m : Message V) : putsInto n [.filed t f d key m] = if f.consumer = n then [(key, m)] else [] := by
  by_cases h : f.consumer = n <;> simp [putsInto, Entry.put?, h]

theorem mem_putsInto {n : Nat} {log : List (Entry K V)} {key : K} {m : Message V} :
    (key, m) ∈ putsInto n log ↔ ∃ t f d, .filed t f d key m ∈ log ∧ f.consumer = n := by
  refine ⟨fun h => ?_, fun ⟨t, f, d, h, hn⟩ => List.mem_filterMap.2 ⟨_, h, if_pos hn⟩⟩
  obtain ⟨e, he, hput⟩ := List.mem_filterMap.1 h
  cases e with
  | filed t f d key' m' =>
    obtain ⟨hn, hm⟩ := Option.ite_none_right_eq_some.1 hput
    cases hm
    exact ⟨t, f, d, he, hn⟩
  | _ => cases hput

variable [DecidableEq K]

structure Shelved (log : List (Entry K V)) (v : View K V) : Prop where
  known : ∀ e ∈ log, ∀ f, e.how? = some f → f ∈ v.filings
  numbered : v.filings.map (·.consumer) = List.range v.filings.length
  places : v.places = List.range v.filings.length
  stores : v.stores = (List.range v.filings.length).map fun n => Store.ofPuts (putsInto n log)

variable {log new : List (Entry K V)} {v v' : View K V} {f : Filing K V}

theorem Manned.known (h : Manned log v) (hup : Upshot v new v') :
    ∀ e ∈ new, ∀ f, e.how? = some f → f ∈ v.filings := by
  have told : ∀ {es : List Broker.Event}, ∀ e ∈ es.map (Entry.told (K := K) (V := V)),
      ∀ f, e.how? = some f → f ∈ v.filings := by
    intro es e he f hf
    obtain ⟨x, -, rfl⟩ := List.mem_map.1 he
    cases hf
  have filing : ∀ {k : Worker K V} {f : Filing K V}, k ∈ v.crew → k.duty = .filing f → f ∈ v.filings := by
    intro k f hk duty
    obtain ⟨f', known, duty'⟩ := h.staffed k hk
    obtain rfl : f = f' := by simpa [duty] using duty'
    exact known
  cases hup with
  | acted a mild => exact told
  | took k found d b delivered => exact told
  | filed k f d key m found duty held good => simpa [Entry.how?] using filing found duty
  | refused k f d e found duty held bad => simpa [Entry.how?] using filing found duty
  | acked k d u => simp [Entry.how?]
  | rejected k d u r => simp [Entry.how?]
  | _ => simp

namespace Shelved

theorem empty : Shelved [] ({} : Bench K V).view := by constructor <;> simp [Bench.view]

theorem at_consumer (h : Shelved log v) (hf : f ∈ v.filings) : v.filings[f.consumer]? = some f := by
  obtain ⟨n, hn⟩ := List.getElem?_of_mem hf
  have hc : (v.filings.map (·.consumer))[n]? = some f.consumer := by simp [hn]
  rw [h.numbered, List.getElem?_range (List.getElem?_eq_some_iff.1 hn).1] at hc
  rwa [← Option.some.inj hc]

theorem consumer_lt (h : Shelved log v) (hf : f ∈ v.filings) : f.consumer < v.filings.length :=
  (List.getElem?_eq_some_iff.1 (h.at_consumer hf)).1

/-- Nothing is put for a consumer that is yet to come. -/
theorem putsInto_next (h : Shelved log v) : putsInto v.filings.length log = [] := by
  refine List.filterMap_eq_nil_iff.2 fun e he => ?_
  cases e with
  | filed t f d key m => exact if_neg (h.consumer_lt (h.known _ he f rfl)).ne
  | refused t f d e => rfl
  | told e => rfl

theorem upshot (h : Shelved log v) (hm : Manned log v) (hup : Upshot v new v') :
    Shelved (log ++ new) v' := by
  have known : ∀ e ∈ log ++ new, ∀ f, e.how? = some f → f ∈ v'.filings := by
    intro e he f hf
    rcases List.mem_append.1 he with he | he
    · exact hup.filings (h.known e he f hf)
    · exact hup.filings (hm.known hup e he f hf)
  -- most upshots put nothing and build nothing
  have kept : (∀ n, putsInto n new = []) → v'.filings = v.filings → v'.places = v.places →
      v'.stores = v.stores → Shelved (log ++ new) v' := by
    intro hn hf hp hs
    refine ⟨known, ?_, ?_, ?_⟩
    · rw [hf, h.numbered]
    · rw [hf, hp, h.places]
    · rw [hf, hs, h.stores]
      simp only [putsInto_append, hn, List.append_nil]
  cases hup with
  | acted a mild => exact kept (fun n => putsInto_told n _) rfl rfl rfl
  | took k found d b delivered => exact kept (fun n => putsInto_told n _) rfl rfl rfl
  | built f next =>
    have hl : v.stores.length = v.filings.length := by simp [h.stores]
    refine ⟨known, ?_, ?_, ?_⟩
    · simp [h.numbered, next, h.places, List.range_succ]
    · simp [h.places, hl, List.range_succ]
    · simp [h.stores, List.range_succ, h.putsInto_next, Store.ofPuts]
  | filed k f d key m found duty held good =>
    have hf : f ∈ v.filings :=
      hm.known (.filed k f d key m found duty held good) _ (List.mem_singleton_self _) f rfl
    have hkeep : v.keep f.consumer key m = { v with stores := v.stores.modify f.consumer (·.put key m) } := by
      simp [View.keep, h.places, h.consumer_lt hf]
    refine ⟨known, ?_, ?_, ?_⟩
    · simp [View.setPhase, h.numbered]
    · simp [View.setPhase, hkeep, h.places]
    · simp only [View.setPhase, hkeep, h.stores]
      refine List.ext_getElem? fun n => ?_
      rw [List.getElem?_modify, List.getElem?_map, List.getElem?_map]
      by_cases hn : n < v.filings.length
      · rw [List.getElem?_range hn]
        simp only [Option.map_some, putsInto_append, putsInto_filed]
        split <;> simp [Store.ofPuts_append]
      · simp [hn]
  | _ => exact kept (fun _ => rfl) rfl rfl rfl

end Shelved
end QueueProbe
