import QueueProbe.Proofs.Broker.Conservation

/-! Prefetch. The count that a subscription keeps of its deliveries in flight is the number of unacked
entries that name it, whatever else happened to them, and so never passes its prefetch. An entry can
outlive its subscription; consumer tags are not issued twice, so it is never counted for another. -/

namespace QueueProbe.Broker

/-- How many unacked entries a consumer has. -/
def load (b : Broker) (t : ConsumerTag) : Nat := b.unacked.countP (·.consumer = t)

structure Accounted (b : Broker) : Prop where
  counted : ∀ s ∈ b.subscriptions, s.inFlight = b.load s.tag
  bounded : ∀ s ∈ b.subscriptions, 0 < s.prefetch → s.inFlight ≤ s.prefetch
  placed : ∀ s ∈ b.subscriptions, ∀ u ∈ b.unacked, u.consumer = s.tag →
    u.channel = s.channel ∧ u.queue = s.queue
  addressed : ∀ u ∈ b.unacked, ∃ n < b.nextConsumer, u.consumer = consumerTag n

variable {b b' : Broker} {es : List Event} {u : Unacked} {t : ConsumerTag}

theorem load_pos (hu : u ∈ b.unacked) : 0 < b.load u.consumer :=
  List.countP_pos_iff.2 ⟨u, hu, by simp⟩

theorem load_handedOut (b : Broker) (s : Subscription) (e : Envelope) (t : ConsumerTag) :
    (b.handedOut s e).load t = b.load t + if s.tag = t then 1 else 0 := by
  simp only [load, handedOut, List.countP_append, List.countP_singleton, entry, decide_eq_true_eq]

theorem load_settled (h : Sound b) (found : b.unacked? u.tag = some u) (t : ConsumerTag) :
    b.load t = (b.settled u).load t + if u.consumer = t then 1 else 0 := by
  have hp := (unacked_perm_settled h found).countP_eq (·.consumer = t)
  simpa only [load, List.countP_cons, decide_eq_true_eq] using hp

theorem load_shut {c : ChannelId} (apart : ∀ u ∈ b.unacked, u.consumer = t → u.channel ≠ c) :
    (b.shut c).load t = b.load t := by
  simp only [load, shut, List.countP_filter]
  refine List.countP_congr fun u hu => ?_
  simp only [Bool.and_eq_true, decide_eq_true_eq]
  exact ⟨fun h => h.1, fun h => ⟨h, apart u hu h⟩⟩

namespace Accounted

theorem empty : Accounted {} := by constructor <;> simp

theorem unissued (h : Accounted b) : b.load (consumerTag b.nextConsumer) = 0 := by
  refine List.countP_eq_zero.2 fun u hu ht => ?_
  obtain ⟨n, hn, hc⟩ := h.addressed u hu
  exact hn.ne (consumerTag_injective (hc.symm.trans (by simpa using ht)))

theorem joined (h : Accounted b) (c : ChannelId) (q : String) (n : Nat) : Accounted (b.joined c q n) where
  counted s hs := by
    rcases List.mem_append.1 hs with hs | hs
    · exact h.counted s hs
    · rw [List.mem_singleton.1 hs]
      exact h.unissued.symm
  bounded s hs hp := by
    rcases List.mem_append.1 hs with hs | hs
    · exact h.bounded s hs hp
    · rw [List.mem_singleton.1 hs]
      exact Nat.zero_le _
  placed s hs u hu ht := by
    rcases List.mem_append.1 hs with hs | hs
    · exact h.placed s hs u hu ht
    · rw [List.mem_singleton.1 hs] at ht
      have hl : 0 < b.load u.consumer := load_pos hu
      rw [ht, h.unissued] at hl
      exact absurd hl (Nat.lt_irrefl 0)
  addressed u hu := (h.addressed u hu).imp fun _ hn => ⟨hn.1.trans (Nat.lt_succ_self _), hn.2⟩

theorem handedOut (h : Accounted b) (sound : Sound b) {s : Subscription} (e : Envelope)
    (found : b.subscription? s.tag = some s) (room : s.hasCapacity = true) :
    Accounted (b.handedOut s e) := by
  have live : s ∈ b.subscriptions := List.mem_of_find?_eq_some found
  refine ⟨fun r' hr' => ?_, fun r' hr' hp => ?_, fun r' hr' u hu ht => ?_, fun u hu => ?_⟩
  · obtain ⟨r, hr, rfl⟩ := mem_onSubscription (f := (· + 1)) hr'
    rw [load_handedOut, ← h.counted r hr]
    by_cases ht : r.tag = s.tag
    · simp [ht]
    · simp [ht, Ne.symm ht]
  · obtain ⟨r, hr, rfl⟩ := mem_onSubscription (f := (· + 1)) hr'
    by_cases ht : r.tag = s.tag
    · obtain rfl := sound.unique hr live ht
      have hp : 0 < r.prefetch := hp
      -- having no bound is the other way to have room
      have hlt : r.inFlight < r.prefetch := by simpa [Subscription.hasCapacity, hp.ne'] using room
      simpa using Nat.succ_le_of_lt hlt
    · simpa [ht] using h.bounded r hr hp
  · obtain ⟨r, hr, rfl⟩ := mem_onSubscription (f := (· + 1)) hr'
    rcases List.mem_append.1 hu with hu | hu
    · exact h.placed r hr u hu ht
    · rw [List.mem_singleton.1 hu] at ht ⊢
      obtain rfl := sound.unique hr live ht.symm
      exact ⟨rfl, rfl⟩
  · rcases List.mem_append.1 hu with hu | hu
    · exact h.addressed u hu
    · rw [List.mem_singleton.1 hu]
      exact sound.named s live

theorem settled (h : Accounted b) (sound : Sound b) (found : b.unacked? u.tag = some u) :
    Accounted (b.settled u) := by
  have kept : ∀ v ∈ (b.settled u).unacked, v ∈ b.unacked := fun v hv => (List.mem_filter.1 hv).1
  refine ⟨fun r' hr' => ?_, fun r' hr' hp => ?_, fun r' hr' v hv ht => ?_,
    fun v hv => h.addressed v (kept v hv)⟩
  · obtain ⟨r, hr, rfl⟩ := mem_onSubscription (f := (· - 1)) hr'
    have hload := load_settled sound found r.tag
    rw [← h.counted r hr] at hload
    by_cases ht : r.tag = u.consumer
    · simp only [ht, if_true] at hload ⊢
      omega
    · simpa [ht, Ne.symm ht] using hload
  · obtain ⟨r, hr, rfl⟩ := mem_onSubscription (f := (· - 1)) hr'
    have hb := h.bounded r hr hp
    dsimp only
    split <;> omega
  · obtain ⟨r, hr, rfl⟩ := mem_onSubscription (f := (· - 1)) hr'
    exact h.placed r hr v (kept v hv) ht

/-- A channel takes its subscriptions and its unacked entries with it, and those belong together. -/
theorem shut (h : Accounted b) (c : ChannelId) : Accounted (b.shut c) where
  counted s hs := by
    obtain ⟨hs, hc⟩ := List.mem_filter.1 hs
    rw [h.counted s hs, load_shut]
    intro u hu ht
    rw [(h.placed s hs u hu ht).1]
    simpa using hc
  bounded s hs := h.bounded s (List.mem_filter.1 hs).1
  placed s hs u hu := h.placed s (List.mem_filter.1 hs).1 u (List.mem_filter.1 hu).1
  addressed u hu := h.addressed u (List.mem_filter.1 hu).1

/-- Every change keeps the accounts. -/
theorem change (h : Accounted b) (sound : Sound b) (c : Change b es b') : Accounted b' := by
  cases c with
  | numbered i j k =>
    exact ⟨h.counted, h.bounded, h.placed, fun u hu => (h.addressed u hu).imp fun n hn =>
      ⟨hn.1.trans_le (Nat.le_add_right _ _), hn.2⟩⟩
  | subscribed c q n => exact h.joined c q n
  | unsubscribed s =>
    have kept : ∀ r ∈ (b.left s.tag).subscriptions, r ∈ b.subscriptions := fun r hr => (List.mem_filter.1 hr).1
    exact ⟨fun r hr => h.counted r (kept r hr), fun r hr => h.bounded r (kept r hr),
      fun r hr => h.placed r (kept r hr), h.addressed⟩
  | delivered s x e rest found up room queue front => exact h.handedOut sound e found room
  | acked u usable found => exact h.settled sound found
  | rejected u k usable found =>
    have hs := h.settled sound found
    exact ⟨hs.counted, hs.bounded, hs.placed, hs.addressed⟩
  | closed c => exact h.shut c
  | _ => exact ⟨h.counted, h.bounded, h.placed, h.addressed⟩

end Accounted

theorem Run.accounted (h : Run es b) : Accounted b := by
  induction h with
  | nil => exact .empty
  | snoc a run ih => exact ih.change run.sound (Broker.change _ a)

/-- After every run each subscription has as many deliveries in flight as there are unacked entries in
its name, all from its queue and on its channel, and no more than its prefetch, if that is a bound.
So whoever takes an entry finds one to take off the count of its subscription, if that is still there. -/
theorem prefetch_accounted (h : Run es b) :
    (∀ s ∈ b.subscriptions, s.inFlight = b.unacked.countP (·.consumer = s.tag) ∧
      (0 < s.prefetch → s.inFlight ≤ s.prefetch) ∧
      ∀ u ∈ b.unacked, u.consumer = s.tag → u.channel = s.channel ∧ u.queue = s.queue) ∧
    ∀ c n u b', b.takeUnacked c n = (.ok u, b') → ∀ s ∈ b.subscriptions, s.tag = u.consumer →
      0 < s.inFlight ∧ { s with inFlight := s.inFlight - 1 } ∈ b'.subscriptions := by
  have ha := h.accounted
  refine ⟨fun s hs => ⟨ha.counted s hs, ha.bounded s hs, ha.placed s hs⟩, fun c n u b' ht s hs htag => ?_⟩
  rcases b.takeUnacked_cases c n with ⟨v, b'', hv, -, hok, hb⟩ | ⟨e, he⟩
  · obtain ⟨rfl, rfl⟩ : v = u ∧ b'' = b' := by simpa [hok] using ht
    have hpos := load_pos (List.mem_of_find?_eq_some hv)
    rw [← htag, ← ha.counted s hs] at hpos
    have same : b''.notified.subscriptions = (b.settled v).subscriptions := congrArg subscriptions hb
    change b''.subscriptions = _ at same
    exact ⟨hpos, same ▸ List.mem_map.2 ⟨s, hs, if_pos htag⟩⟩
  · simp [he] at ht

/-- A consumer leaves with two entries unacked, and the next one on the queue is not charged with them. -/
theorem prefetch_accounted_beside_orphans : ∃ es b, Run es b ∧
    b.subscriptions = [⟨consumerTag 2, "jobs", ⟨2⟩, 1, 1⟩] ∧
    b.unacked.map (fun u => (u.tag, u.consumer)) =
      [(2, consumerTag 1), (3, consumerTag 2)] ∧
    (∀ s ∈ b.subscriptions, s.inFlight = b.unacked.countP (·.consumer = s.tag)) := by
  have run := Run.nil.snoc .openChannel |>.snoc .openChannel |>.snoc (.declare "jobs")
    |>.snoc (.send ⟨1⟩ "jobs" ⟨[1], {}⟩) |>.snoc (.send ⟨1⟩ "jobs" ⟨[2], {}⟩)
    |>.snoc (.send ⟨1⟩ "jobs" ⟨[3], {}⟩) |>.snoc (.send ⟨1⟩ "jobs" ⟨[4], {}⟩)
    |>.snoc (.subscribe ⟨1⟩ "jobs" 2) |>.snoc (.deliver (consumerTag 1))
    |>.snoc (.deliver (consumerTag 1)) |>.snoc (.deliver (consumerTag 1))
    |>.snoc (.unsubscribe ⟨1⟩ (consumerTag 1)) |>.snoc (.subscribe ⟨2⟩ "jobs" 1)
    |>.snoc (.deliver (consumerTag 2)) |>.snoc (.deliver (consumerTag 2)) |>.snoc (.ack ⟨1⟩ 1)
  exact ⟨_, _, run, rfl, rfl, fun s hs => ((prefetch_accounted run).1 s hs).1⟩

end QueueProbe.Broker
