import QueueProbe.Proofs.Consumer.Accounts
import QueueProbe.Proofs.Handler.Replay

/-! Counting. What a handler has counted are the deliveries that it handled: each once, and once more by
what was to become of it. Only calls that fail are counted elsewhere. -/

namespace QueueProbe

variable {K V : Type}

/-- The counts of what was handled, without those of failed calls. -/
def Stats.handlings (s : Stats) : Stats := { s with transportFailures := 0 }

/-- What becomes of a delivery that a handler handles: an ack, or a reject with or without requeue. -/
def Handler.verdict (h : Handler K V) (d : Delivery) : Option Bool :=
  if (filedAs h.decoder h.key d.letter).isSome then none else some (h.policy.keeps d.count.toNat)

def Handler.tally (h : Handler K V) (ds : List Delivery) : Stats where
  delivered := ds.length
  stored := ds.countP fun d => h.verdict d = none
  rejected := ds.countP fun d => h.verdict d = some true
  deadLettered := ds.countP fun d => h.verdict d = some false

theorem Handler.tally_append (h : Handler K V) (ds : List Delivery) (d : Delivery) :
    h.tally (ds ++ [d]) = (h.tally ds).handled (h.verdict d) := by
  rcases hv : h.verdict d with _ | _ | _ <;> simp [tally, Stats.handled, hv]

def Entry.count (n : Nat) (s : Stats) : Entry K V → Stats
  | .filed _ f _ _ _ => if f.consumer = n then s.handled none else s
  | .refused _ f d _ => if f.consumer = n then s.handled (some (f.policy.keeps d.count.toNat)) else s
  | .told _ => s

/-- The counts of consumer `n` as a record has them. -/
def countsIn (n : Nat) (log : List (Entry K V)) : Stats := log.foldl (Entry.count n) {}

@[simp] theorem foldl_count_told (n : Nat) (s : Stats) (es : List Broker.Event) :
    (es.map (Entry.told (K := K) (V := V))).foldl (Entry.count n) s = s := by
  induction es with
  | nil => rfl
  | cons e es ih => exact ih

theorem Entry.count_eq {e : Entry K V} {n : Nat} {h : Handler K V} {past : List (Entry K V)}
    (reason : Reason past e) (own : ∀ f, e.how? = some f → f.consumer = n → f = h.filing) (s : Stats) :
    e.count n s = (e.handled? n).elim s fun d => s.handled (h.verdict d) := by
  cases e with
  | told e => rfl
  | filed t f d key m =>
    by_cases hf : f.consumer = n
    · obtain rfl := own f rfl hf
      have filed : filedAs h.decoder h.key d.letter = some (key, m) := Bench.index_ok.1 reason.1
      have judged : h.verdict d = none := by simp [Handler.verdict, filed]
      simp [count, handled?, hf, judged]
    · simp [count, handled?, hf]
  | refused t f d e =>
    by_cases hf : f.consumer = n
    · obtain rfl := own f rfl hf
      have refused : filedAs h.decoder h.key d.letter = none := Bench.index_error.1 ⟨e, reason.1⟩
      have judged : h.verdict d = some (h.filing.policy.keeps d.count.toNat) := by
        simp [Handler.verdict, refused, Handler.filing]
      simp [count, handled?, hf, judged]
    · simp [count, handled?, hf]

theorem countsIn_eq {es : List (Entry K V)} {n : Nat} {h : Handler K V}
    (reasons : ∀ e ∈ es, ∃ past, Reason past e)
    (own : ∀ e ∈ es, ∀ f, e.how? = some f → f.consumer = n → f = h.filing) :
    countsIn n es = h.tally (handledBy n es) := by
  induction es using List.reverseRecOn with
  | nil => rfl
  | append_singleton es e ih =>
    have before := ih (fun e he => reasons e (List.mem_append_left _ he))
      fun e he => own e (List.mem_append_left _ he)
    obtain ⟨past, reason⟩ := reasons e (by simp)
    have one : handledBy n [e] = (e.handled? n).toList := by
      rw [handledBy, List.filterMap_cons]
      cases e.handled? n <;> rfl
    rw [countsIn, List.foldl_append, ← countsIn, before, handledBy_append, one, List.foldl_cons, List.foldl_nil,
      Entry.count_eq reason (own e (by simp))]
    cases e.handled? n with
    | none => rw [Option.toList_none, List.append_nil, Option.elim_none]
    | some d => exact (h.tally_append _ d).symm

namespace Bench

variable {w : Bench K V} {n m : Nat} {x : Consumer}

theorem statsOf_count (found : w.consumers[m]? = some x) (f : Stats → Stats) (n : Nat) :
    (w.count m f).statsOf n = if m = n then f (w.statsOf n) else w.statsOf n :=
  Scene.statsOf_tally (s := w.scene) found f n

theorem consumers_through {α : Type} (w : Bench K V) (c : ChannelId) (call : Call)
    (run : Broker → Broker.Answer α) : (w.through c call run).2.consumers = w.consumers := by
  unfold through
  split <;> rfl

theorem statsOf_settle {k : Worker K V} {f : Filing K V} (duty : k.duty = .filing f)
    (found : w.consumers[f.consumer]? = some x) (d : Delivery) (r : Option Bool) (n : Nat) :
    ((w.settle k d r).statsOf n).handlings = (w.statsOf n).handlings := by
  have scene := settle_scene (w := w) (d := d) (r := r) duty
  have stats : (w.settle k d r).statsOf n = (w.settle k d r).scene.statsOf n := rfl
  rw [stats, scene]
  rcases w.settling_cases k.channel d.tag r with ⟨u, -, -, -, -, hs⟩ | ⟨e, hs⟩ | ⟨p, hs⟩ <;> rw [hs]
  · rfl
  · -- a failure is counted, but not among what was handled
    have failed := Scene.statsOf_tally (s := w.scene) found (·.failed) n
    dsimp only
    rw [show ((w.scene.tally f.consumer (·.failed)).setPhase k.tag .idle).statsOf n = _ from failed]
    split <;> rfl
  · rfl

variable [DecidableEq K] [Debug K] {log : List (Entry K V)} {h : Handler K V}

theorem statsOf_file (w : Bench K V) (t : ConsumerTag) {f : Filing K V}
    (found : w.consumers[f.consumer]? = some x) (d : Delivery) (n : Nat) :
    (w.file t f d).statsOf n = Entry.count n (w.statsOf n) (handled t f d) := by
  have there : ∀ g : Stats → Stats, (w.count f.consumer g).consumers[f.consumer]? =
      some { x with stats := g x.stats } := by
    intro g
    simp [count, onConsumer, found]
  have twice : ∀ g g' : Stats → Stats, ((w.count f.consumer g).count f.consumer g').statsOf n =
      if f.consumer = n then g' (g (w.statsOf n)) else w.statsOf n := by
    intro g g'
    rw [statsOf_count (there g), statsOf_count found]
    split <;> rfl
  have kept : ∀ (v : Bench K V) (key : K) (m : Message V), (v.keep f.consumer key m).consumers = v.consumers := by
    intro v key m
    unfold keep
    split <;> rfl
  unfold file handled
  cases hi : index f d with
  | ok a =>
    refine Eq.trans ?_ (twice (fun s => { s with delivered := s.delivered + 1 })
      fun s => { s with stored := s.stored + 1 })
    dsimp only
    simp only [statsOf, count, onConsumer, setPhase, onWorker, note, kept]
  | error e =>
    dsimp only [Entry.count]
    split
    · next hk =>
      rw [hk]
      exact twice (fun s => { s with delivered := s.delivered + 1 })
        fun s => { s with rejected := s.rejected + 1 }
    · next hk =>
      rw [Bool.eq_false_iff.2 hk]
      exact twice (fun s => { s with delivered := s.delivered + 1 })
        fun s => { s with deadLettered := s.deadLettered + 1 }

omit [DecidableEq K] [Debug K] in
theorem handlings_count (n : Nat) (s : Stats) (e : Entry K V) :
    (Entry.count n s e).handlings = Entry.count n s.handlings e := by
  cases e with
  | told e => rfl
  | filed t f d key m => simp only [Entry.count]; split <;> rfl
  | refused t f d e =>
    simp only [Entry.count]
    cases f.policy.keeps d.count.toNat <;> split <;> rfl

theorem Run.counts_work (run : Run log w) (t : ConsumerTag) (n : Nat) :
    (((w.advance t).getD w).statsOf n).handlings =
      (w.worked t).foldl (Entry.count n) (w.statsOf n).handlings := by
  unfold advance worked
  cases hk : w.worker? t with
  | none => rfl
  | some k =>
    have mem : k ∈ w.workers := List.mem_of_find?_eq_some hk
    obtain rfl : k.tag = t := by simpa using List.find?_some hk
    obtain ⟨f, known, duty⟩ := run.staffed _ (mem_crew mem)
    have duty : k.duty = .filing f := duty
    obtain ⟨x, found⟩ : ∃ x, w.consumers[f.consumer]? = some x := by
      have lt := run.invariant.2.2.consumer_lt known
      simp only [view, List.length_map, ← run.paired] at lt
      exact ⟨_, List.getElem?_eq_getElem lt⟩
    dsimp only
    cases hp : k.phase with
    | idle =>
      simp only [foldl_count_told]
      split
      · unfold take
        cases w.broker.deliver k.tag <;> rfl
      · unfold depart
        split <;> rfl
    | holding d =>
      simp only [duty]
      split
      · have spent : (w.onWorker k.tag fun x => { x with credits := x.credits.map (· - 1) }).statsOf n =
            w.statsOf n := rfl
        simp only [Option.getD_some, handle, duty, List.foldl_cons, List.foldl_nil]
        rw [statsOf_file (w.onWorker k.tag _) k.tag found d n, spent, handlings_count]
      · rfl
    | settling d r =>
      have settled := statsOf_settle duty found d r n
      cases r with
      | none =>
        simp only [heard]
        split <;> simpa using settled
      | some r =>
        simp only [heard]
        split <;> simpa using settled

omit [DecidableEq K] [Debug K] in
theorem counts_entries {d : Deed K V} (other : ∀ t, d ≠ .work t) (n : Nat) (s : Stats) :
    (w.entries d).foldl (Entry.count n) s = s := by
  cases d with
  | send c q l =>
    simp only [entries, heard]
    split
    · rfl
    · exact foldl_count_told n s _
  | close c => exact foldl_count_told n s _
  | work t => exact absurd rfl (other t)
  | _ => rfl

theorem statsOf_perform {d : Deed K V} (other : ∀ t, d ≠ .work t) (n : Nat) :
    (w.perform d).statsOf n = w.statsOf n := by
  have same : (w.perform d).consumers = w.consumers → (w.perform d).statsOf n = w.statsOf n := by
    intro hc
    rw [statsOf, hc, statsOf]
  cases d with
  | work t => exact absurd rfl (other t)
  | openChannel =>
    apply same
    simp only [perform, Bench.openChannel]
    split <;> rfl
  | send c q l =>
    have hc := w.consumers_through c .send fun b => b.send c q l.body l.properties
    apply same
    simp only [perform, send]
    split
    · next hs => rw [hs] at hc; exact hc
    · exact hc
  | leave c t => exact same (w.consumers_through c .unsubscribe _)
  | subscribe m credits =>
    apply same
    simp only [perform]
    split
    · rfl
    · next h _ =>
      split
      · rfl
      · next x _ =>
        have hc := w.consumers_through x.channel .subscribe fun b =>
          b.subscribe x.channel h.queue x.prefetch w.unstarted
        unfold subscribe
        split
        · next hs => rw [hs] at hc; exact hc
        · exact hc
  | grant c m =>
    apply same
    simp only [perform, grant]
    split <;> rfl
  | active m change => exact w.scene.statsOf_onActive m change n
  | build p =>
    simp only [perform, build]
    cases p.complete w.consumers.length with
    | error e => rfl
    | ok h =>
      dsimp only [newConsumer]
      split <;> exact w.scene.statsOf_enrolled rfl n
  | _ => exact same rfl

/-- The counts of a consumer are those of the record. -/
theorem Run.counts (run : Run log w) (n : Nat) : (w.statsOf n).handlings = countsIn n log := by
  induction run with
  | nil => rfl
  | @snoc log w d run ih =>
    rw [countsIn, List.foldl_append, ← countsIn, ← ih]
    by_cases work : ∃ t, d = .work t
    · obtain ⟨t, rfl⟩ := work
      exact run.counts_work t n
    · rw [not_exists] at work
      rw [statsOf_perform work, counts_entries work]

theorem Run.counted (run : Run log w) (hh : w.handlers[n]? = some h) :
    (w.handlerStats n).handlings = h.tally (handledBy n log) := by
  have stats : w.handlerStats n = w.statsOf n := by simp [handlerStats, hh, run.numbered hh]
  rw [stats, run.counts]
  refine countsIn_eq (fun e he => ?_) fun e he => ?_
  · obtain ⟨past, -, reason⟩ := run.invariant.2.1.of_mem he
    exact ⟨past, reason⟩
  · exact run.own hh .here e (by simpa using he)

end Bench
end QueueProbe
