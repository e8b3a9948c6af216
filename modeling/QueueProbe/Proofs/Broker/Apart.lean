import QueueProbe.Proofs.Broker.Prefetch

/-! Channels and queues keep out of each other's way. What goes through one channel touches no entry
and no subscription of another, and no queue that it is not about. Whoever settles a delivery takes
one off the count of the consumer that the entry names: that this consumer is of the same channel, if
it is still there, is `Accounted.placed`. -/

namespace QueueProbe.Broker

/-- The acts through channel `c`. A delivery goes through the channel of its consumer. -/
def Via (b : Broker) (c : ChannelId) : Act → Prop
  | .send d _ _ | .subscribe d .. | .unsubscribe d _ | .ack d _ | .reject d _ _ | .close d => d = c
  | .deliver t => ∃ s ∈ b.subscriptions, s.tag = t ∧ s.channel = c
  | .declare _ | .declareAnonymous | .openChannel | .connect .. => False

/-- The acts about queue `q`: what is sent to it, delivered from it, settled of it or given back. -/
def About (b : Broker) (q : String) : Act → Prop
  | .declare r | .send _ r _ => r = q
  | .declareAnonymous => anonymousName b.nextAnonymous = q
  | .deliver t => ∃ s ∈ b.subscriptions, s.tag = t ∧ s.queue = q
  | .ack _ n | .reject _ n _ => ∃ u ∈ b.unacked, u.tag = n ∧ u.queue = q
  | .close c => ∃ u ∈ b.unacked, u.channel = c ∧ u.queue = q
  | .openChannel | .connect .. | .subscribe .. | .unsubscribe _ _ => False

/-- The two brokers differ in no entry and no subscription of another channel than `c`. -/
structure Beside (c : ChannelId) (b b' : Broker) : Prop where
  unacked : b'.unacked.filter (·.channel ≠ c) = b.unacked.filter (·.channel ≠ c)
  subscriptions : b'.subscriptions.filter (·.channel ≠ c) = b.subscriptions.filter (·.channel ≠ c)

variable {b b' : Broker} {es : List Event} {c : ChannelId}

theorem filter_onSubscription {t : ConsumerTag} (f : Nat → Nat)
    (own : ∀ s ∈ b.subscriptions, s.tag = t → s.channel = c) :
    (b.onSubscription t fun s => { s with inFlight := f s.inFlight }).subscriptions.filter
      (·.channel ≠ c) = b.subscriptions.filter (·.channel ≠ c) := by
  have hp : ((fun s : Subscription => decide (s.channel ≠ c)) ∘
      fun s => if s.tag = t then { s with inFlight := f s.inFlight } else s) =
      fun s => decide (s.channel ≠ c) := by
    funext s
    simp only [Function.comp_apply]
    split <;> rfl
  simp only [onSubscription, List.filter_map, hp]
  refine (List.map_congr_left fun s hs => ?_).trans (List.map_id _)
  obtain ⟨hs, hc⟩ := List.mem_filter.1 hs
  exact if_neg fun ht => of_decide_eq_true hc (own s hs ht)

namespace Beside

theorem same (hu : b'.unacked = b.unacked) (hs : b'.subscriptions = b.subscriptions) : Beside c b b' :=
  ⟨by rw [hu], by rw [hs]⟩

theorem refl (b : Broker) : Beside c b b := same rfl rfl

theorem joined (b : Broker) (c : ChannelId) (q : String) (n : Nat) : Beside c b (b.joined c q n) :=
  ⟨rfl, by simp [Broker.joined]⟩

theorem left (sound : Sound b) {s : Subscription} (hs : s ∈ b.subscriptions) :
    Beside s.channel b (b.left s.tag) := by
  refine ⟨rfl, ?_⟩
  simp only [Broker.left, List.filter_filter]
  refine List.filter_congr fun r hr => ?_
  by_cases ht : r.tag = s.tag
  · simp [sound.unique hr hs ht]
  · simp [ht]

theorem handedOut (sound : Sound b) {s : Subscription} (hs : s ∈ b.subscriptions) (e : Envelope) :
    Beside s.channel b (b.handedOut s e) := by
  refine ⟨by simp [Broker.handedOut, entry], filter_onSubscription (· + 1) fun r hr ht => ?_⟩
  rw [sound.unique hr hs ht]

theorem settled (sound : Sound b) (accounts : Accounted b) {u : Unacked} (hu : u ∈ b.unacked) :
    Beside u.channel b (b.settled u) := by
  constructor
  · simp only [Broker.settled, onSubscription, List.filter_filter]
    refine List.filter_congr fun v hv => ?_
    by_cases ht : v.tag = u.tag
    · simp [sound.sole hv hu ht]
    · simp [ht]
  · exact filter_onSubscription (· - 1) fun s hs ht => (accounts.placed s hs u hu ht.symm).1.symm

theorem shut (b : Broker) (c : ChannelId) : Beside c b (b.shut c) := by
  constructor <;> simp [Broker.shut]

end Beside

/-- An act through one channel leaves the others alone. -/
theorem beside_act (sound : Sound b) (accounts : Accounted b) {a : Act} (via : b.Via c a) :
    Beside c b (b.act a) := by
  have still {b' : Broker} (hb : b' = b) : Beside c b b' := hb.symm ▸ .refl b
  cases a with
  | send d q l =>
    rcases b.send_cases d q l with ⟨-, -, hok⟩ | ⟨e, he⟩
    · simp only [act, hok]
      exact .same rfl rfl
    · exact still (by simp only [act, he])
  | subscribe d q n unstarted =>
    obtain rfl : d = c := via
    rcases b.subscribe_cases d q n unstarted with ⟨-, -, -, hok⟩ | ⟨e, k, he⟩
    · simpa only [act, hok] using Beside.joined b d q n
    · simp only [act, he]
      exact .same rfl rfl
  | unsubscribe d t =>
    rcases b.unsubscribe_cases d t with ⟨s, -, hs, hd, hok⟩ | ⟨e, he⟩
    · obtain rfl := subscription?_tag hs
      obtain rfl : s.channel = c := hd.trans via
      simpa only [act, hok] using Beside.left sound (List.mem_of_find?_eq_some hs)
    · exact still (by simp only [act, he])
  | deliver t =>
    cases hd : b.deliver t with
    | none => exact still (by simp [act, hd])
    | some a =>
      obtain ⟨s, x, e, rest, hs, -, -, -, -, -, hb⟩ := deliver_eq hd
      have hmem := List.mem_of_find?_eq_some hs
      obtain ⟨r, hr, ht, rfl⟩ := via
      obtain rfl : s = r := sound.unique hmem hr ((subscription?_tag hs).trans ht.symm)
      simpa [act, hd, hb] using Beside.handedOut sound hmem e
  | ack d n =>
    rcases b.ack_cases d n with ⟨u, -, hu, hd, hok⟩ | ⟨e, he⟩
    · obtain rfl : u.channel = c := hd.trans via
      simpa only [act, hok] using Beside.settled sound accounts (List.mem_of_find?_eq_some hu)
    · exact still (by simp only [act, he])
  | reject d n k =>
    rcases b.reject_cases d n k with ⟨u, -, hu, hd, hok⟩ | ⟨e, he⟩
    · obtain rfl : u.channel = c := hd.trans via
      have hs := Beside.settled sound accounts (List.mem_of_find?_eq_some hu)
      simp only [act, hok]
      exact ⟨hs.unacked, hs.subscriptions⟩
    · exact still (by simp only [act, he])
  | close d =>
    obtain rfl : d = c := via
    simp only [act, closeChannel]
    split
    · exact .refl b
    · exact .shut b d
  | _ => exact via.elim

theorem orphans_nil {q : String} (none : ¬∃ u ∈ b.unacked, u.channel = c ∧ u.queue = q) :
    b.orphans c q = [] := by
  refine List.map_eq_nil_iff.2 (List.filter_eq_nil_iff.2 fun u hu h => none ⟨u, hu, ?_⟩)
  simpa using h

theorem queue?_closeChannel (attached : Attached b) (c : ChannelId) (q : String) :
    (b.closeChannel c).queue? q = (b.queue? q).map fun x =>
      { x with ready := ((b.unackedOf q).filter (·.channel = c)).map (·.envelope) ++ x.ready } := by
  rw [← orphans_eq]
  cases hc : b.isClosed c with
  | false =>
    rw [closeChannel_open hc, queue?_shut]
  | true =>
    have hb : b.closeChannel c = b := by simp [closeChannel, hc]
    -- nothing is left on a channel that is closed
    have ho : b.orphans c q = [] := by
      refine orphans_nil ?_
      rintro ⟨u, hu, rfl, -⟩
      simp [attached.unacked u hu] at hc
    simp [hb, ho]

theorem queue?_declareQueue {q r : String} (other : ¬r = q) (b : Broker) :
    (b.declareQueue r).2.queue? q = b.queue? q := by
  unfold declareQueue
  split
  · rfl
  · split
    · rfl
    · next new =>
      have hq := queue?_declared (Bool.eq_false_iff.2 new) b.nextAnonymous q
      rwa [if_neg fun h => other h.symm] at hq

theorem queue?_act {a : Act} {q : String} (other : ¬b.About q a) : (b.act a).queue? q = b.queue? q := by
  cases a with
  | declare r => exact queue?_declareQueue other b
  | declareAnonymous =>
    have hq := queue?_declareQueue other { b with nextAnonymous := b.nextAnonymous + 1 }
    simp only [act, declareAnonymousQueue]
    split <;> next he => rw [he] at hq; exact hq
  | openChannel =>
    simp only [act, openChannel]
    split <;> rfl
  | connect up late => rfl
  | send c r l =>
    rcases b.send_cases c r l with ⟨-, -, hok⟩ | ⟨e, he⟩
    · simp only [act, hok, queue?_posted]
      exact if_neg fun h => other h.symm
    · simp only [act, he]
  | subscribe c r n unstarted =>
    rcases b.subscribe_cases c r n unstarted with ⟨-, -, -, hok⟩ | ⟨e, k, he⟩
    · simp only [act, hok]
      rfl
    · simp only [act, he]
      rfl
  | unsubscribe c t =>
    rcases b.unsubscribe_cases c t with ⟨s, -, -, -, hok⟩ | ⟨e, he⟩
    · simp only [act, hok]
      rfl
    · simp only [act, he]
  | deliver t =>
    cases hd : b.deliver t with
    | none => simp [act, hd]
    | some a =>
      obtain ⟨s, x, e, rest, hs, -, -, -, -, -, hb⟩ := deliver_eq hd
      simp only [act, hd, hb, Option.map_some, Option.getD_some, queue?_handedOut]
      exact if_neg fun h => other ⟨s, List.mem_of_find?_eq_some hs, subscription?_tag hs, h.symm⟩
  | ack c n =>
    rcases b.ack_cases c n with ⟨u, -, -, -, hok⟩ | ⟨e, he⟩
    · simp only [act, hok, queue?_settled]
    · simp only [act, he]
  | reject c n k =>
    rcases b.reject_cases c n k with ⟨u, -, hu, -, hok⟩ | ⟨e, he⟩
    · simp only [act, hok, queue?_refused, queue?_settled]
      exact if_neg fun h => other ⟨u, List.mem_of_find?_eq_some hu, unacked?_tag hu, h.symm⟩
    · simp only [act, he]
  | close c =>
    cases hc : b.isClosed c with
    | true => simp only [act, closeChannel, hc, if_true]
    | false =>
      have hq := b.queue?_shut c q
      simpa [act, closeChannel_open hc, orphans_nil other] using hq

/-- After every run, what is done through one channel, whether it succeeds or fails, leaves the entries
and the subscriptions of all others as they are, their counts included, and the queues it is not about;
and all that closing does to a queue is to put the entries of the closed channel back in front. -/
theorem channels_apart (h : Run es b) {a : Act} (via : b.Via c a) :
    Beside c b (b.act a) ∧
    (∀ q, ¬b.About q a → (b.act a).queue? q = b.queue? q) ∧
    (a = .close c → ∀ q, (b.act a).queue? q = (b.queue? q).map fun x =>
      { x with ready := ((b.unackedOf q).filter (·.channel = c)).map (·.envelope) ++ x.ready }) := by
  refine ⟨beside_act h.sound h.accounted via, fun q => queue?_act, ?_⟩
  rintro rfl q
  exact queue?_closeChannel h.attached c q

/-- Channel 1 puts back what a cancelled consumer left unacked, or is closed instead. Channel 2 has an
entry of the same queue and one of another: neither its counts nor the other queue change. -/
theorem channels_apart_sharing_queue : ∃ es b, Run es b ∧
    b.unacked.map (fun u => (u.tag, u.channel, u.queue)) =
      [(1, ⟨1⟩, "jobs"), (2, ⟨2⟩, "jobs"), (3, ⟨2⟩, "logs")] ∧
    (b.act (.reject ⟨1⟩ 1 true)).subscriptions.filter (·.channel ≠ ⟨1⟩) =
      [⟨consumerTag 2, "jobs", ⟨2⟩, 0, 1⟩, ⟨consumerTag 3, "logs", ⟨2⟩, 1, 1⟩] ∧
    (b.act (.reject ⟨1⟩ 1 true)).queue? "logs" = b.queue? "logs" ∧
    (b.act (.close ⟨1⟩)).queue? "jobs" = some ⟨"jobs", [⟨[1], {}, 1⟩, ⟨[3], {}, 0⟩], []⟩ := by
  have run := Run.nil.snoc .openChannel |>.snoc .openChannel |>.snoc (.declare "jobs")
    |>.snoc (.declare "logs") |>.snoc (.send ⟨1⟩ "jobs" ⟨[1], {}⟩) |>.snoc (.send ⟨2⟩ "jobs" ⟨[2], {}⟩)
    |>.snoc (.send ⟨1⟩ "jobs" ⟨[3], {}⟩) |>.snoc (.send ⟨1⟩ "logs" ⟨[4], {}⟩)
    |>.snoc (.subscribe ⟨1⟩ "jobs" 1) |>.snoc (.subscribe ⟨2⟩ "jobs" 0)
    |>.snoc (.subscribe ⟨2⟩ "logs" 1) |>.snoc (.deliver (consumerTag 1))
    |>.snoc (.deliver (consumerTag 2)) |>.snoc (.deliver (consumerTag 3))
    |>.snoc (.unsubscribe ⟨1⟩ (consumerTag 1))
  obtain ⟨beside, elsewhere, -⟩ := channels_apart run (a := .reject ⟨1⟩ 1 true) rfl
  obtain ⟨-, -, closing⟩ := channels_apart run (a := .close ⟨1⟩) rfl
  refine ⟨_, _, run, rfl, beside.subscriptions.trans rfl, elsewhere "logs" ?_, closing rfl "jobs"⟩
  simp only [About]
  decide

end QueueProbe.Broker
