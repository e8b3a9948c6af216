import QueueProbe.Proofs.Broker.Contents

/-! What a broker answers. A call through a channel is turned down for the first of these causes: the
channel is closed, the connection is lost, the broker does not know what is named, and, for a
subscription, there is no thread to serve it. With none of them it succeeds. A call that is turned down
moves nothing; all it can use up is a number for a name. -/

namespace QueueProbe.Broker

/-- What an act is answered, without what is handed out on success. -/
def answer (b : Broker) : Act → Except BrokerError Unit
  | .declare q => (b.declareQueue q).1
  | .declareAnonymous => b.declareAnonymousQueue.1.map fun _ => ()
  | .openChannel => b.openChannel.1.map fun _ => ()
  | .send c q l => (b.send c q l.body l.properties).1
  | .subscribe c q n unstarted => (b.subscribe c q n unstarted).1.map fun _ => ()
  | .unsubscribe c t => (b.unsubscribe c t).1
  | .ack c n => (b.ack c n).1
  | .reject c n r => (b.reject c n r).1
  -- these cannot fail
  | .connect .. | .deliver _ | .close _ => .ok ()

/-- The answer due to a call of the broker itself. -/
def admission (b : Broker) : Except BrokerError Unit :=
  if b.connected then .ok () else .error .connectionLost

/-- The answer due to a call through channel `c` that succeeds on what is `known`. -/
def verdict (b : Broker) (c : ChannelId) (known : Prop) [Decidable known] (unknown : BrokerError) :
    Except BrokerError Unit :=
  if c ∈ b.closed then .error (.channelClosed c)
  else if b.connected = false then .error .connectionLost
  else if known then .ok ()
  else .error unknown

/-- The answer due to a subscription that is otherwise in order. -/
def manned (unstarted : Option String) : Except BrokerError Unit :=
  match unstarted with
  | none => .ok ()
  | some why => .error (unstartedError why)

/-- What a call that fails has to leave as it is. -/
structure Untouched (b b' : Broker) : Prop where
  queues : b'.queues = b.queues
  unacked : b'.unacked = b.unacked
  subscriptions : b'.subscriptions = b.subscriptions
  lastTag : b'.lastTag = b.lastTag
  closed : b'.closed = b.closed
  connected : b'.connected = b.connected

/-- A broker that answers as it should. -/
structure Exact (b : Broker) : Prop where
  declare : ∀ q, b.answer (.declare q) = b.admission
  declareAnonymous : b.answer .declareAnonymous = b.admission
  openChannel : b.answer .openChannel = b.admission
  send : ∀ c q l, b.answer (.send c q l) =
    b.verdict c (∃ x ∈ b.queues, x.name = q) (.unknownQueue q)
  subscribe : ∀ c q n unstarted, b.answer (.subscribe c q n unstarted) =
    (b.verdict c (∃ x ∈ b.queues, x.name = q) (.unknownQueue q)).bind fun _ => manned unstarted
  /-- The subscription that goes out again, entered last, is the one of the call's own tag. -/
  withdrawn : ∀ c q n, (b.joined c q n).subscriptions.dropLast =
    (b.joined c q n).subscriptions.filter (·.tag ≠ consumerTag b.nextConsumer)
  unsubscribe : ∀ c t, b.answer (.unsubscribe c t) =
    b.verdict c (∃ s ∈ b.subscriptions, s.tag = t ∧ s.channel = c) (.unknownConsumer t)
  ack : ∀ c n, b.answer (.ack c n) =
    b.verdict c (∃ u ∈ b.unacked, u.tag = n ∧ u.channel = c) (.unknownDeliveryTag n)
  reject : ∀ c n r, b.answer (.reject c n r) =
    b.verdict c (∃ u ∈ b.unacked, u.tag = n ∧ u.channel = c) (.unknownDeliveryTag n)
  atomic : ∀ a e, b.answer a = .error e → Untouched b (b.act a)
  /-- Nothing is delivered on a connection that is lost. -/
  idle : b.connected = false → ∀ t, b.deliver t = none

variable {b : Broker} {es : List Event} {α : Type}

theorem declareQueue_answer (b : Broker) (q : String) : (b.declareQueue q).1 = b.admission := by
  unfold declareQueue admission
  cases b.connected with
  | false => rfl
  | true => cases b.hasQueue q <;> rfl

theorem declareAnonymousQueue_answer (b : Broker) :
    b.answer .declareAnonymous = b.admission := by
  have h := declareQueue_answer { b with nextAnonymous := b.nextAnonymous + 1 }
    (anonymousName b.nextAnonymous)
  simp only [answer, declareAnonymousQueue]
  split <;> next he => rw [he] at h; exact h

theorem openChannel_answer (b : Broker) : b.answer .openChannel = b.admission := by
  simp only [answer, openChannel, admission]
  cases b.connected <;> rfl

theorem map_unit (x : Except BrokerError Unit) : x.map (fun _ => ()) = x := by
  cases x <;> rfl

theorem bind_ok_unit (x : Except BrokerError Unit) : (x.bind fun _ => .ok ()) = x := by
  cases x <;> rfl

theorem through_bind (b : Broker) (c : ChannelId) {call : Answer α} {known : Prop} [Decidable known]
    {unknown : BrokerError} {result : Except BrokerError Unit}
    (reaches : known → call.1.map (fun _ => ()) = result)
    (fails : ¬known → call.1.map (fun _ => ()) = .error unknown) :
    (b.through c call).1.map (fun _ => ()) = (b.verdict c known unknown).bind fun _ => result := by
  by_cases hc : c ∈ b.closed
  · simp [through, usable, isClosed, verdict, hc, Except.map, Except.bind]
  · cases hb : b.connected with
    | false => simp [through, usable, isClosed, verdict, hc, hb, Except.map, Except.bind]
    | true =>
      by_cases hk : known
      · simpa [through, usable, isClosed, verdict, hc, hb, hk, Except.bind] using reaches hk
      · simpa [through, usable, isClosed, verdict, hc, hb, hk, Except.bind] using fails hk

theorem through_answer (b : Broker) (c : ChannelId) {call : Answer α} {known : Prop} [Decidable known]
    {unknown : BrokerError} (succeeds : known → call.1.map (fun _ => ()) = .ok ())
    (fails : ¬known → call.1.map (fun _ => ()) = .error unknown) :
    (b.through c call).1.map (fun _ => ()) = b.verdict c known unknown := by
  rw [through_bind b c succeeds fails, bind_ok_unit]

theorem hasQueue_iff (b : Broker) (q : String) : b.hasQueue q = true ↔ ∃ x ∈ b.queues, x.name = q := by
  simp [hasQueue]

theorem send_answer (b : Broker) (c : ChannelId) (q : String) (l : Letter) :
    b.answer (.send c q l) = b.verdict c (∃ x ∈ b.queues, x.name = q) (.unknownQueue q) := by
  rw [← map_unit (b.answer _)]
  refine through_answer b c (fun known => ?_) fun unknown => ?_
  · rw [← hasQueue_iff] at known
    simp [known, Except.map]
  · rw [← hasQueue_iff] at unknown
    simp [unknown, Except.map]

theorem subscribe_answer (b : Broker) (c : ChannelId) (q : String) (n : Nat) (unstarted : Option String) :
    b.answer (.subscribe c q n unstarted) =
      (b.verdict c (∃ x ∈ b.queues, x.name = q) (.unknownQueue q)).bind fun _ => manned unstarted := by
  refine through_bind b c (fun known => ?_) fun unknown => ?_
  · rw [← hasQueue_iff] at known
    cases unstarted <;> simp [known, manned, Except.map]
  · rw [← hasQueue_iff] at unknown
    simp [unknown, Except.map]

theorem Sound.takeUnacked_answer (h : Sound b) (c : ChannelId) (n : Nat) :
    (b.takeUnacked c n).1.map (fun _ => ()) =
      if ∃ u ∈ b.unacked, u.tag = n ∧ u.channel = c then .ok () else .error (.unknownDeliveryTag n) := by
  split
  · next known =>
    obtain ⟨u, hu, rfl, rfl⟩ := known
    simp [takeUnacked, h.unacked?_of_mem hu, Except.map]
  · next unknown =>
    cases hu : b.unacked? n with
    | none => simp [takeUnacked, hu, Except.map]
    | some u =>
      have hc : u.channel ≠ c := fun hc =>
        unknown ⟨u, List.mem_of_find?_eq_some hu, unacked?_tag hu, hc⟩
      simp [takeUnacked, hu, hc, Except.map]

theorem Sound.settling_answer (h : Sound b) (c : ChannelId) (n : Nat) {call : Answer Unit}
    (hcall : call.1 = (b.takeUnacked c n).1.map fun _ => ()) : (b.through c call).1 =
      b.verdict c (∃ u ∈ b.unacked, u.tag = n ∧ u.channel = c) (.unknownDeliveryTag n) := by
  rw [h.takeUnacked_answer] at hcall
  rw [← map_unit (b.through c call).1]
  refine through_answer b c (fun known => ?_) fun unknown => ?_
  · rw [hcall, if_pos known]
    rfl
  · rw [hcall, if_neg unknown]
    rfl

theorem Sound.unsubscribe_answer (h : Sound b) (c : ChannelId) (t : ConsumerTag) :
    b.answer (.unsubscribe c t) =
      b.verdict c (∃ s ∈ b.subscriptions, s.tag = t ∧ s.channel = c) (.unknownConsumer t) := by
  rw [← map_unit (b.answer _)]
  refine through_answer b c ?_ fun unknown => ?_
  · rintro ⟨s, hs, rfl, rfl⟩
    simp [h.subscription?_of_mem hs, Except.map]
  · cases hs : b.subscription? t with
    | none => rfl
    | some s =>
      have hc : s.channel ≠ c := fun hc =>
        unknown ⟨s, List.mem_of_find?_eq_some hs, subscription?_tag hs, hc⟩
      simp [hc, Except.map]

theorem Sound.ack_answer (h : Sound b) (c : ChannelId) (n : Nat) : b.answer (.ack c n) =
    b.verdict c (∃ u ∈ b.unacked, u.tag = n ∧ u.channel = c) (.unknownDeliveryTag n) :=
  h.settling_answer c n (by split <;> simp [*, Except.map])

theorem Sound.reject_answer (h : Sound b) (c : ChannelId) (n : Nat) (r : Bool) :
    b.answer (.reject c n r) =
      b.verdict c (∃ u ∈ b.unacked, u.tag = n ∧ u.channel = c) (.unknownDeliveryTag n) :=
  h.settling_answer c n (by split <;> simp [*, Except.map])

theorem Untouched.refl (b : Broker) : Untouched b b := by constructor <;> rfl

theorem lost_of_admission {e : BrokerError} (h : b.admission = .error e) : b.connected = false := by
  unfold admission at h
  cases hb : b.connected with
  | false => rfl
  | true => simp [hb] at h

/-- An act that fails leaves everything where it was. -/
theorem untouched {a : Act} {e : BrokerError} (h : b.answer a = .error e) : Untouched b (b.act a) := by
  have same {b' : Broker} (hb : b' = b) : Untouched b b' := hb ▸ .refl b
  cases a with
  | declare q =>
    have lost := lost_of_admission ((declareQueue_answer b q).symm.trans h)
    exact same (by simp [act, declareQueue, lost])
  | declareAnonymous =>
    have lost := lost_of_admission ((declareAnonymousQueue_answer b).symm.trans h)
    constructor <;> simp [act, declareAnonymousQueue, declareQueue, lost]
  | openChannel =>
    have lost := lost_of_admission ((openChannel_answer b).symm.trans h)
    exact same (by simp [act, openChannel, lost])
  | send c q l =>
    rcases b.send_cases c q l with ⟨-, -, hok⟩ | ⟨e, he⟩
    · simp [answer, hok] at h
    · exact same (by simp [act, he])
  | subscribe c q n unstarted =>
    rcases b.subscribe_cases c q n unstarted with ⟨-, -, -, hok⟩ | ⟨e, k, he⟩
    · simp [answer, hok, Except.map] at h
    · simp only [act, he]
      constructor <;> rfl
  | unsubscribe c t =>
    rcases b.unsubscribe_cases c t with ⟨s, -, -, -, hok⟩ | ⟨e, he⟩
    · simp [answer, hok] at h
    · exact same (by simp [act, he])
  | ack c n =>
    rcases b.ack_cases c n with ⟨u, -, -, -, hok⟩ | ⟨e, he⟩
    · simp [answer, hok] at h
    · exact same (by simp [act, he])
  | reject c n r =>
    rcases b.reject_cases c n r with ⟨u, -, -, -, hok⟩ | ⟨e, he⟩
    · simp [answer, hok] at h
    · exact same (by simp [act, he])
  | connect up late => cases h
  | deliver t => cases h
  | close c => cases h

theorem deliver_lost (lost : b.connected = false) (t : ConsumerTag) : b.deliver t = none := by
  cases h : b.deliver t with
  | none => rfl
  | some a =>
    obtain ⟨s, x, e, rest, -, up, -⟩ := deliver_eq h
    rw [lost] at up
    cases up

theorem Sound.withdrawn (h : Sound b) (c : ChannelId) (q : String) (n : Nat) :
    (b.joined c q n).subscriptions.dropLast =
      (b.joined c q n).subscriptions.filter (·.tag ≠ consumerTag b.nextConsumer) := by
  have old : b.subscriptions.filter (·.tag ≠ consumerTag b.nextConsumer) = b.subscriptions :=
    List.filter_eq_self.2 fun s hs => decide_eq_true (h.fresh s hs)
  have new : [(⟨consumerTag b.nextConsumer, q, c, n, 0⟩ : Subscription)].filter
      (·.tag ≠ consumerTag b.nextConsumer) = [] := by simp
  rw [Broker.joined, List.dropLast_concat, List.filter_append, old, new, List.append_nil]

/-- After every run a call fails for the reason due, the first that applies, or else succeeds; and one
that fails has changed nothing, even if it had entered a subscription. -/
theorem answers_exact (h : Run es b) : Exact b where
  declare := declareQueue_answer b
  declareAnonymous := declareAnonymousQueue_answer b
  openChannel := openChannel_answer b
  send := send_answer b
  subscribe := subscribe_answer b
  withdrawn := h.sound.withdrawn
  unsubscribe := h.sound.unsubscribe_answer
  ack := h.sound.ack_answer
  reject := h.sound.reject_answer
  atomic _ _ := untouched
  idle := deliver_lost

/-- A channel that is open, a connection and a queue are not enough for a subscription. -/
theorem subscription_unstarted : ∃ es b, Run es b ∧ ¬⟨1⟩ ∈ b.closed ∧ b.connected = true ∧
    (∃ x ∈ b.queues, x.name = "jobs") ∧
    b.answer (.subscribe ⟨1⟩ "jobs" 1 (some "Resource temporarily unavailable (os error 11)")) =
      .error (.transport
        "cannot start dispatcher thread: Resource temporarily unavailable (os error 11)") :=
  ⟨_, _, Run.nil.snoc .openChannel |>.snoc (.declare "jobs"), by decide, rfl, ⟨_, List.mem_singleton_self _, rfl⟩, rfl⟩

/-- The entries of a cancelled consumer can be settled through its channel, though not through another;
what was given back with a closed channel cannot. On a lost connection only the closed channel is told
the same as before. -/
theorem answers_exact_beside_orphans : ∃ es b, Run es b ∧
    b.unacked.map (fun u => (u.tag, u.channel)) = [(1, ⟨1⟩), (2, ⟨1⟩)] ∧
    b.answer (.ack ⟨1⟩ 1) = .ok () ∧
    b.answer (.ack ⟨2⟩ 1) = .error (.unknownDeliveryTag 1) ∧
    b.answer (.reject ⟨1⟩ 3 true) = .error (.unknownDeliveryTag 3) ∧
    b.answer (.reject ⟨3⟩ 3 true) = .error (.channelClosed ⟨3⟩) ∧
    b.answer (.unsubscribe ⟨1⟩ (consumerTag 1)) = .error (.unknownConsumer (consumerTag 1)) ∧
    b.answer (.subscribe ⟨2⟩ "other" 1) = .error (.unknownQueue "other") ∧
    Untouched b (b.act (.subscribe ⟨2⟩ "other" 1)) ∧
    b.answer (.subscribe ⟨2⟩ "jobs" 1) = .ok () ∧
    b.answer (.subscribe ⟨2⟩ "jobs" 1 (some "no threads")) = .error (unstartedError "no threads") ∧
    Untouched b (b.act (.subscribe ⟨2⟩ "jobs" 1 (some "no threads"))) ∧
    (b.act (.connect false)).answer (.ack ⟨1⟩ 1) = .error .connectionLost ∧
    (b.act (.connect false)).answer (.reject ⟨3⟩ 3 true) = .error (.channelClosed ⟨3⟩) ∧
    (b.act (.connect false)).answer (.declare "jobs") = .error .connectionLost := by
  have run := Run.nil.snoc .openChannel |>.snoc .openChannel |>.snoc .openChannel
    |>.snoc (.declare "jobs") |>.snoc (.send ⟨1⟩ "jobs" ⟨[1], {}⟩) |>.snoc (.send ⟨1⟩ "jobs" ⟨[2], {}⟩)
    |>.snoc (.send ⟨1⟩ "jobs" ⟨[3], {}⟩) |>.snoc (.subscribe ⟨1⟩ "jobs" 2)
    |>.snoc (.deliver (consumerTag 1)) |>.snoc (.deliver (consumerTag 1))
    |>.snoc (.subscribe ⟨3⟩ "jobs" 1) |>.snoc (.deliver (consumerTag 2))
    |>.snoc (.connect false) |>.snoc (.connect true)
    |>.snoc (.unsubscribe ⟨1⟩ (consumerTag 1)) |>.snoc (.close ⟨3⟩)
  have up := answers_exact run
  have down := answers_exact (run.snoc (.connect false))
  have unknown := (up.subscribe ⟨2⟩ "other" 1 none).trans
    (show _ = .error (.unknownQueue "other") by decide)
  have unstarted := (up.subscribe ⟨2⟩ "jobs" 1 (some "no threads")).trans
    (show _ = .error (unstartedError "no threads") by decide)
  exact ⟨_, _, run, rfl, (up.ack _ _).trans (by decide), (up.ack _ _).trans (by decide),
    (up.reject _ _ _).trans (by decide), (up.reject _ _ _).trans (by decide),
    (up.unsubscribe _ _).trans (by decide), unknown, up.atomic _ _ unknown,
    (up.subscribe _ _ _ _).trans (by decide), unstarted, up.atomic _ _ unstarted,
    (down.ack _ _).trans (by decide), (down.reject _ _ _).trans (by decide),
    (down.declare _).trans (by decide)⟩

end QueueProbe.Broker
