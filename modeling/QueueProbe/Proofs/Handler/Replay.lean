import QueueProbe.Proofs.Bench.Folding
import QueueProbe.Proofs.Handler.Hands
import QueueProbe.Proofs.Handler.Ties

/-! Replay. The store of a handler is what comes of filing the deliveries that it handled, one after
another, those left out that cannot be decoded or have no key. How a delivery was settled, how often its
body came again, and which subscription brought it has no part in it. -/

namespace QueueProbe

variable {K V : Type}

/-- What deliveries are filed as, one after another. -/
def Handler.puts (h : Handler K V) (ds : List Delivery) : List (K × Message V) :=
  ds.filterMap fun d => filedAs h.decoder h.key d.letter

theorem Handler.puts_append (h : Handler K V) (ds new : List Delivery) :
    h.puts (ds ++ new) = h.puts ds ++ h.puts new := List.filterMap_append

theorem filedAs_some {decoder : Decoder V} {key : KeyFn K V} {l : Letter} {k : K} {m : Message V}
    (h : filedAs decoder key l = some (k, m)) :
    decoder l.body = .ok m.content ∧ key m = .ok k ∧ m.properties = l.properties := by
  unfold filedAs at h
  split at h
  · cases h
  · cases h
  · next v hv =>
    split at h
    · cases h
    · cases h
    · next hk =>
      cases h
      exact ⟨hv, hk, rfl⟩

/-- What entries have put into the store of a consumer is told by the deliveries they are about. -/
theorem putsInto_eq {es : List (Entry K V)} {n : Nat} {h : Handler K V}
    (reasons : ∀ e ∈ es, ∃ past, Reason past e)
    (own : ∀ e ∈ es, ∀ f, e.how? = some f → f.consumer = n → f = h.filing) :
    putsInto n es = h.puts (handledBy n es) := by
  rw [Handler.puts, handledBy, List.filterMap_filterMap]
  refine List.filterMap_congr fun e he => ?_
  obtain ⟨past, reason⟩ := reasons e he
  cases e with
  | told e => rfl
  | filed t f d key m =>
    by_cases hf : f.consumer = n
    · obtain rfl := own _ he f rfl hf
      have filed : filedAs h.decoder h.key d.letter = some (key, m) := Bench.index_ok.1 reason.1
      simpa [Entry.put?, Entry.handled?, hf] using filed.symm
    · simp [Entry.put?, Entry.handled?, hf]
  | refused t f d e =>
    by_cases hf : f.consumer = n
    · obtain rfl := own _ he f rfl hf
      have refused : filedAs h.decoder h.key d.letter = none := Bench.index_error.1 ⟨e, reason.1⟩
      simpa [Entry.put?, Entry.handled?, hf] using refused.symm
    · simp [Entry.put?, Entry.handled?, hf]

namespace Bench

variable [DecidableEq K] [Debug K] {log more : List (Entry K V)} {w w' : Bench K V} {n : Nat}
  {h : Handler K V}

theorem Run.filings (run : Run log w) (on : Onward w more w') : w.view.filings ⊆ w'.view.filings := by
  induction on with
  | here => exact List.Subset.refl _
  | snoc d on ih => exact List.Subset.trans ih (deed_upshot (run.onward on).staffed d).filings

theorem Run.filing_at (run : Run log w) (hh : w.handlers[n]? = some h) (on : Onward w more w') :
    w'.view.filings[n]? = some h.filing := by
  have mine : h.filing ∈ w.view.filings := List.mem_map_of_mem (List.mem_of_getElem? hh)
  have at_h := (run.onward on).invariant.2.2.at_consumer (run.filings on mine)
  rwa [show h.filing.consumer = n from run.numbered hh] at at_h

theorem Run.own (run : Run log w) (hh : w.handlers[n]? = some h) (on : Onward w more w') :
    ∀ e ∈ log ++ more, ∀ f, e.how? = some f → f.consumer = n → f = h.filing := by
  intro e he f hf hc
  have shelved := (run.onward on).invariant.2.2
  have at_f := shelved.at_consumer (shelved.known e he f hf)
  rw [hc, run.filing_at hh on] at at_f
  exact (Option.some.inj at_f).symm

theorem Run.putsInto (run : Run log w) (hh : w.handlers[n]? = some h) (on : Onward w more w') :
    QueueProbe.putsInto n (log ++ more) = h.puts (handledBy n (log ++ more)) := by
  refine putsInto_eq (fun e he => ?_) (run.own hh on)
  obtain ⟨past, -, reason⟩ := (run.onward on).invariant.2.1.of_mem he
  exact ⟨past, reason⟩

theorem Run.received_onward (run : Run log w) (hh : w.handlers[n]? = some h) (on : Onward w more w') :
    w'.received n = Store.ofPuts (h.puts (handledBy n (log ++ more))) := by
  have known := (List.getElem?_eq_some_iff.1 (run.filing_at hh on)).1
  rw [received_eq (run.onward on).invariant.2.2 (by simpa [view] using known), run.putsInto hh on]

/-- The store of handler `n` after a run, by what the handler handled in it. -/
structure Replayed (log : List (Entry K V)) (w : Bench K V) (n : Nat) (h : Handler K V) : Prop where
  folded : w.received n = Store.ofPuts (h.puts (handledBy n log))
  latest : ∀ k, (w.received n).get? k =
    ((h.puts (handledBy n log)).filter (·.1 = k)).getLast?.map (·.2)
  /-- A message has the content and the properties of a delivery. -/
  genuine : ∀ k m, (w.received n).get? k = some m → ∃ d ∈ handledBy n log,
    h.decoder d.body = .ok m.content ∧ h.key m = .ok k ∧ m.properties = d.properties
  size : (w.received n).size = ((h.puts (handledBy n log)).map (·.1)).dedup.length
  /-- Each delivery that the broker made is handled once, if at all. -/
  once : (handledBy n log : Multiset Delivery) + w.held n ≤ given log

/-- What becomes of the store of handler `n` from the bench `w` after `log` to a later one. -/
structure Continued (log : List (Entry K V)) (w : Bench K V) (more : List (Entry K V))
    (w' : Bench K V) (n : Nat) (h : Handler K V) : Prop where
  folded : w'.received n = (w.received n).putAll (h.puts (handledBy n more))
  keys : (w.received n).keys <+: (w'.received n).keys
  refused : (∀ d ∈ handledBy n more, filedAs h.decoder h.key d.letter = none) →
    w'.received n = w.received n
  /-- A copy taken at `w` stays what the deliveries handled until then come to. -/
  copied : w.received n =
    Store.ofPuts (h.puts ((handledBy n (log ++ more)).take (handledBy n log).length))
  once : (handledBy n more : Multiset Delivery) + w'.held n ≤ w.held n + given more

theorem Run.received_here (run : Run log w) (hh : w.handlers[n]? = some h) :
    w.received n = Store.ofPuts (h.puts (handledBy n log)) := by
  have here := run.received_onward hh .here
  rwa [List.append_nil] at here

theorem Run.replayed (run : Run log w) (hh : w.handlers[n]? = some h) : Replayed log w n h := by
  have folded := run.received_here hh
  have latest := Store.get?_ofPuts (h.puts (handledBy n log))
  refine ⟨folded, folded ▸ latest, fun k m hm => ?_, ?_, ?_⟩
  · rw [folded, latest k, Option.map_eq_some_iff] at hm
    obtain ⟨x, hx, rfl⟩ := hm
    obtain ⟨hx, hk⟩ := List.mem_filter.1 (List.mem_of_getLast? hx)
    obtain ⟨d, hd, filed⟩ := List.mem_filterMap.1 hx
    obtain rfl : x.1 = k := of_decide_eq_true hk
    exact ⟨d, hd, filedAs_some filed⟩
  · rw [folded, Store.size_ofPuts]
  · have once := Run.nil.hands run.whole n
    rwa [show ({} : Bench K V).held n = [] from rfl, Multiset.coe_nil, zero_add] at once

theorem Run.continued (run : Run log w) (hh : w.handlers[n]? = some h) (on : Onward w more w') :
    Continued log w more w' n h := by
  have folded : w'.received n = (w.received n).putAll (h.puts (handledBy n more)) := by
    rw [run.received_onward hh on, run.received_here hh, handledBy_append, Handler.puts_append,
      Store.ofPuts_append_putAll]
  refine ⟨folded, ?_, fun bad => ?_, ?_, run.hands on n⟩
  · rw [folded]
    exact Store.keys_prefix_putAll _ _
  · rw [folded, Handler.puts, List.filterMap_eq_nil_iff.2 bad]
    rfl
  · rw [handledBy_append, List.take_left, run.received_here hh]

omit [DecidableEq K] [Debug K] in
theorem handledBy_entries {d : Deed K V} (other : ∀ t, d ≠ .work t) : handledBy n (w.entries d) = [] := by
  cases d with
  | send c q l =>
    simp only [entries, heard]
    split
    · rfl
    · exact handledBy_told n _
  | close c => exact handledBy_told n _
  | work t => exact absurd rfl (other t)
  | _ => rfl

/-- What ends subscriptions lets workers handle what they hold, and no more. -/
theorem Run.handled_ending (run : Run log w) {r : Request K V} (hr : r.ends) (n : Nat) :
    ∃ more, Onward w more (w.request r) ∧ given more = [] ∧
      (handledBy n more : Multiset Delivery) ≤ w.held n := by
  obtain ⟨more, on, quiet⟩ := run.quiet hr
  have hands := run.hands on n
  rw [quiet, Multiset.coe_nil, add_zero] at hands
  exact ⟨more, on, quiet, (Multiset.le_add_right _ _).trans hands⟩

/-- The store of handler `n` now and whatever comes. -/
structure ReplayedThroughout (log : List (Entry K V)) (w : Bench K V) (n : Nat) (h : Handler K V) :
    Prop where
  now : Replayed log w n h
  onward : ∀ more w', Onward w more w' → Continued log w more w' n h
  asked : ∀ r : Request K V, ∃ more, Onward w more (w.request r)
  /-- Nobody but a worker touches the store. -/
  others : ∀ d : Deed K V, (∀ t, d ≠ .work t) → (w.perform d).received n = w.received n
  /-- While the handler is cancelled or closed, its worker handles the delivery that it holds at most. -/
  ending : ∀ r : Request K V, r.ends → ∃ more, Onward w more (w.request r) ∧ given more = [] ∧
    (handledBy n more : Multiset Delivery) ≤ w.held n
  ended : ∀ r : Request K V, r.ends → w.held n = [] → (w.request r).received n = w.received n

/-- After every run of handlers, whatever was asked of them and whatever befell their channels and the
connection, the store of a handler is the fold of the deliveries that it handled and could file, in this
order; and so it goes on, whatever comes next. -/
theorem store_replayed (run : Run log w) (hh : w.handlers[n]? = some h) :
    ReplayedThroughout log w n h where
  now := run.replayed hh
  onward _ _ on := run.continued hh on
  asked r := (Leads.request w r).onward
  others d other := by
    refine (run.continued hh (.deed w d)).refused fun x hx => ?_
    rw [handledBy_entries other] at hx
    cases hx
  ending _ hr := run.handled_ending hr n
  ended r hr none := by
    obtain ⟨more, on, -, most⟩ := run.handled_ending hr n
    refine (run.continued hh on).refused fun x hx => ?_
    rw [none, Multiset.coe_nil, Multiset.le_zero, Multiset.coe_eq_zero] at most
    rw [most] at hx
    cases hx

/-- An ack fails, a body without a key goes back, and the handler is cancelled and consumes again; it
holds a second message of a key as it is closed, and that is the one its store has then. -/
theorem store_replayed_overwritten : ∃ (log : List (Entry String Bytes)) (w : Bench String Bytes)
    (h : Handler String Bytes), ReplayedThroughout log w 0 h ∧
    (handledBy 0 log).map (fun d => (d.body, d.count)) = [([1], 1), ([2], 1)] ∧
    (w.held 0).map (fun d => (d.body, d.count)) = [([3], 1)] ∧
    h.puts (handledBy 0 log) = [("a", ⟨[1], { messageId := some "a" }⟩)] ∧
    (w.received 0).messages = [("a", ⟨[1], { messageId := some "a" }⟩)] ∧
    ((w.request (.close 0)).received 0).messages = [("a", ⟨[3], { messageId := some "a" }⟩)] := by
  have run := Run.nil (K := String) (V := Bytes) |>.snoc .openChannel |>.snoc (.declare "jobs")
    |>.snoc (.send ⟨1⟩ "jobs" ⟨[1], { messageId := some "a" }⟩) |>.snoc (.send ⟨1⟩ "jobs" ⟨[2], {}⟩)
    |>.snoc (.send ⟨1⟩ "jobs" ⟨[3], { messageId := some "a" }⟩)
    |>.snoc (.build (jobsPlan ⟨1⟩ .requeue)) |>.snoc (.subscribe 0 none)
    |>.snoc (.fault ⟨1⟩ .ack (some .refuse)) |>.snoc (.work (Broker.consumerTag 1))
    |>.snoc (.work (Broker.consumerTag 1)) |>.snoc (.work (Broker.consumerTag 1))
    |>.snoc (.work (Broker.consumerTag 1)) |>.snoc (.work (Broker.consumerTag 1))
    |>.snoc (.work (Broker.consumerTag 1)) |>.snoc (.leave ⟨1⟩ (Broker.consumerTag 1))
    |>.snoc (.work (Broker.consumerTag 1)) |>.snoc (.subscribe 0 none)
    |>.snoc (.active 0 (·.put (some ⟨Broker.consumerTag 2, ⟨1⟩, "jobs"⟩)))
    |>.snoc (.state 0 (·.put .consuming)) |>.snoc (.work (Broker.consumerTag 2))
  refine ⟨_, _, _, store_replayed run (n := 0) rfl, ?_, ?_, ?_, ?_, ?_⟩ <;> decide +kernel

end Bench
end QueueProbe
