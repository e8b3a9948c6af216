import QueueProbe.Proofs.Broker.Lanes

/-! Names that the broker makes up. They come from a counter that only goes up, failed calls included,
so none is made up twice. But the same names may be chosen by whoever declares a queue, and then the
counter runs into a queue that is there already. A made-up name is of a new queue just if nobody chose it
before. -/

namespace QueueProbe.Broker

theorem anonymousName_injective : Function.Injective anonymousName := by
  intro n m h
  simp only [anonymousName, String.append_right_inj] at h
  exact toString_injective h

def queueNames (b : Broker) : List String := b.queues.map (·.name)

theorem hasQueue_iff_mem (b : Broker) (q : String) : b.hasQueue q = true ↔ q ∈ b.queueNames := by
  simp [hasQueue, queueNames]

theorem queueNames_onQueue (b : Broker) (q : String) (f : Queue → Queue) (hf : ∀ x, (f x).name = x.name) :
    (b.onQueue q f).queueNames = b.queueNames := by
  simp only [queueNames, onQueue, List.map_map]
  refine List.map_congr_left fun x _ => ?_
  simp only [Function.comp_apply]
  split
  · exact hf x
  · rfl

/-- The name that an act declares a queue by, if it does. -/
def chosenBy (b : Broker) : Act → Option String
  | .declare q => (b.declareQueue q).1.toOption.map fun _ => q
  | _ => none

/-- The name that an act lets the broker make up, if it does. -/
def madeUpBy (b : Broker) : Act → Option String
  | .declareAnonymous => b.declareAnonymousQueue.1.toOption
  | _ => none

/-- What is read off each of some acts, with the broker that it meets. -/
def gather (f : Broker → Act → Option String) (b : Broker) : List Act → List String
  | [] => []
  | a :: as => (f b a).toList ++ gather f (b.act a) as

def chosen (as : List Act) : List String := gather chosenBy {} as

def madeUp (as : List Act) : List String := gather madeUpBy {} as

theorem gather_snoc (f : Broker → Act → Option String) (b : Broker) (as : List Act) (a : Act) :
    gather f b (as ++ [a]) = gather f b as ++ (f (as.foldl act b) a).toList := by
  induction as generalizing b with
  | nil => simp [gather]
  | cons a' as ih => simp only [List.cons_append, gather, List.foldl_cons, ih, List.append_assoc]

theorem chosen_snoc (as : List Act) (a : Act) :
    chosen (as ++ [a]) = chosen as ++ ((after as).chosenBy a).toList := gather_snoc _ _ _ _

theorem madeUp_snoc (as : List Act) (a : Act) :
    madeUp (as ++ [a]) = madeUp as ++ ((after as).madeUpBy a).toList := gather_snoc _ _ _ _

theorem declareQueue_cases (b : Broker) (q : String) :
    (b.connected = false ∧ b.declareQueue q = (.error .connectionLost, b)) ∨
    (b.hasQueue q = true ∧ b.declareQueue q = (.ok (), b)) ∨
    (b.hasQueue q = false ∧ b.declareQueue q = (.ok (), { b with queues := b.queues ++ [{ name := q }] })) := by
  unfold declareQueue
  cases up : b.connected with
  | false => exact Or.inl ⟨rfl, rfl⟩
  | true =>
    cases old : b.hasQueue q with
    | true => exact Or.inr (Or.inl ⟨rfl, rfl⟩)
    | false => exact Or.inr (Or.inr ⟨rfl, rfl⟩)

def numbered (b : Broker) : Broker := { b with nextAnonymous := b.nextAnonymous + 1 }

theorem declareAnonymousQueue_cases (b : Broker) :
    b.declareAnonymousQueue = (.error .connectionLost, b.numbered) ∨
    (b.hasQueue (anonymousName b.nextAnonymous) = true ∧
      b.declareAnonymousQueue = (.ok (anonymousName b.nextAnonymous), b.numbered)) ∨
    (b.hasQueue (anonymousName b.nextAnonymous) = false ∧
      b.declareAnonymousQueue = (.ok (anonymousName b.nextAnonymous), { b.numbered with
        queues := b.queues ++ [{ name := anonymousName b.nextAnonymous }] })) := by
  have same : b.declareAnonymousQueue =
      ((b.numbered.declareQueue (anonymousName b.nextAnonymous)).1.map fun _ => anonymousName b.nextAnonymous,
        (b.numbered.declareQueue (anonymousName b.nextAnonymous)).2) := by
    unfold declareAnonymousQueue
    rcases b.numbered.declareQueue_cases (anonymousName b.nextAnonymous) with ⟨-, h⟩ | ⟨-, h⟩ | ⟨-, h⟩ <;>
      simp only [numbered] at h ⊢ <;> rw [h] <;> rfl
  rcases b.numbered.declareQueue_cases (anonymousName b.nextAnonymous) with ⟨-, h⟩ | ⟨old, h⟩ | ⟨new, h⟩
  · exact Or.inl (by rw [same, h]; rfl)
  · exact Or.inr (Or.inl ⟨old, by rw [same, h]; rfl⟩)
  · exact Or.inr (Or.inr ⟨new, by rw [same, h]; rfl⟩)

theorem queueNames_act (b : Broker) (a : Act) (named : ∀ q, a ≠ .declare q) (unnamed : a ≠ .declareAnonymous) :
    (b.act a).queueNames = b.queueNames := by
  cases a with
  | declare q => exact absurd rfl (named q)
  | declareAnonymous => exact absurd rfl unnamed
  | openChannel =>
    simp only [act, openChannel]
    split <;> rfl
  | connect up late => rfl
  | send c q l =>
    rcases send_cases b c q l with ⟨-, -, h⟩ | ⟨e, h⟩ <;> rw [act, h]
    exact queueNames_onQueue _ _ _ fun _ => rfl
  | subscribe c q n unstarted =>
    rcases subscribe_cases b c q n unstarted with ⟨-, -, -, h⟩ | ⟨e, k, h⟩ <;> (rw [act, h]; rfl)
  | unsubscribe c t =>
    rcases unsubscribe_cases b c t with ⟨s, -, -, -, h⟩ | ⟨e, h⟩ <;> rw [act, h]
    rfl
  | deliver t =>
    cases h : b.deliver t with
    | none => rw [act, h]; rfl
    | some x =>
      obtain ⟨s, x, e, rest, -, -, -, -, -, -, hb⟩ := deliver_eq h
      rw [act, h, Option.map_some, Option.getD_some, hb]
      exact queueNames_onQueue _ _ _ fun _ => rfl
  | ack c n =>
    rcases ack_cases b c n with ⟨u, -, -, -, h⟩ | ⟨e, h⟩ <;> rw [act, h]
    rfl
  | reject c n r =>
    rcases reject_cases b c n r with ⟨u, -, -, -, h⟩ | ⟨e, h⟩ <;> rw [act, h]
    exact queueNames_onQueue _ _ _ fun _ => by split <;> rfl
  | close c =>
    simp only [act, closeChannel, queueNames]
    split
    · rfl
    · simp [Function.comp_def, notified]

/-- An act adds the name that it declares a queue by, or lets the broker make up, and no other. -/
theorem mem_queueNames_act (b : Broker) (a : Act) (q : String) : q ∈ (b.act a).queueNames ↔
    q ∈ b.queueNames ∨ b.chosenBy a = some q ∨ b.madeUpBy a = some q := by
  cases a with
  | declare r =>
    rcases b.declareQueue_cases r with ⟨-, h⟩ | ⟨old, h⟩ | ⟨-, h⟩
    · simp [act, chosenBy, madeUpBy, h, Except.toOption]
    · have mem := (b.hasQueue_iff_mem r).1 old
      simp only [act, chosenBy, madeUpBy, h, Except.toOption]
      grind
    · simp [act, chosenBy, madeUpBy, h, Except.toOption, queueNames, eq_comm]
  | declareAnonymous =>
    rcases b.declareAnonymousQueue_cases with h | ⟨old, h⟩ | ⟨-, h⟩
    · simp [act, chosenBy, madeUpBy, h, Except.toOption, queueNames, numbered]
    · have mem := (b.hasQueue_iff_mem _).1 old
      simp only [act, chosenBy, madeUpBy, h, Except.toOption, numbered, queueNames] at mem ⊢
      grind
    · simp [act, chosenBy, madeUpBy, h, Except.toOption, queueNames, numbered, eq_comm]
  | _ =>
    rw [queueNames_act _ _ (by simp) (by simp)]
    simp [chosenBy, madeUpBy]

theorem hasQueue_after (as : List Act) (q : String) :
    (after as).hasQueue q = true ↔ q ∈ chosen as ∨ q ∈ madeUp as := by
  rw [hasQueue_iff_mem]
  induction as using List.reverseRecOn with
  | nil => simp [after, queueNames, chosen, madeUp, gather]
  | append_singleton as a ih =>
    rw [after_snoc, mem_queueNames_act, ih, chosen_snoc, madeUp_snoc]
    simp only [List.mem_append, Option.mem_toList]
    tauto

theorem nextAnonymous_change {b b' : Broker} {es : List Event} (h : Change b es b') :
    b.nextAnonymous ≤ b'.nextAnonymous := by
  cases h with
  | numbered i j k => exact Nat.le_add_right _ _
  | declared q n => exact Nat.le_add_right _ _
  | _ => exact le_rfl

/-- Names were made up out of numbers that have been used up since. -/
theorem number_of_madeUp {as : List Act} {q : String} (h : q ∈ madeUp as) :
    ∃ n < (after as).nextAnonymous, q = anonymousName n := by
  induction as using List.reverseRecOn with
  | nil => simp [madeUp, gather] at h
  | append_singleton as a ih =>
    rw [madeUp_snoc, List.mem_append, Option.mem_toList] at h
    rw [after_snoc]
    rcases h with earlier | now
    · obtain ⟨n, hn, hq⟩ := ih earlier
      exact ⟨n, hn.trans_le (nextAnonymous_change (change _ a)), hq⟩
    · cases a with
      | declareAnonymous =>
        rcases (after as).declareAnonymousQueue_cases with h | ⟨-, h⟩ | ⟨-, h⟩ <;>
          simp [madeUpBy, h, Except.toOption] at now
        all_goals exact ⟨_, by simp [act, h, numbered], now.symm⟩
      | _ => simp [madeUpBy] at now

theorem subscribed_change {b b' : Broker} {es : List Event} (h : Change b es b')
    (known : ∀ s ∈ b.subscriptions, b.hasQueue s.queue = true) :
    ∀ s ∈ b'.subscriptions, b'.hasQueue s.queue = true := by
  intro s hs
  refine hasQueue_change h ?_
  cases h with
  | subscribed c q n usable there =>
    rcases List.mem_append.1 hs with hs | hs
    · exact known s hs
    · rw [List.mem_singleton.1 hs]
      exact there
  | unsubscribed r => exact known s (List.mem_filter.1 hs).1
  | closed c => exact known s (List.mem_filter.1 hs).1
  | delivered r x e rest =>
    obtain ⟨r, hr, rfl⟩ := mem_onSubscription (f := (· + 1)) hs
    exact known r hr
  | acked u =>
    obtain ⟨r, hr, rfl⟩ := mem_onSubscription (f := (· - 1)) hs
    exact known r hr
  | rejected u k =>
    obtain ⟨r, hr, rfl⟩ := mem_onSubscription (f := (· - 1)) hs
    exact known r hr
  | _ => exact known s hs

theorem Run.subscribed {es : List Event} {b : Broker} (h : Run es b) :
    ∀ s ∈ b.subscriptions, b.hasQueue s.queue = true := by
  induction h with
  | nil => simp
  | snoc a _ ih => exact subscribed_change (Broker.change _ a) ih

/-- After every run, a name that the broker makes up was never made up before, and there is a queue of this
name just if somebody chose it. If nobody did, the name is of a new queue: it is empty, and there is no
subscription to it, no unacked body of it and no dead letter. If somebody did, that queue is handed out as
it is. -/
theorem anonymous_queue_new (as : List Act) {name : String} {b : Broker}
    (h : (after as).declareAnonymousQueue = (.ok name, b)) :
    name ∉ madeUp as ∧ ((after as).hasQueue name = true ↔ name ∈ chosen as) ∧
    (name ∉ chosen as → b.queue? name = some { name } ∧ b.unackedCount name = 0 ∧ b.consumerCount name = 0) ∧
    (name ∈ chosen as → b = (after as).numbered) := by
  have run := run_after as
  have unused : anonymousName (after as).nextAnonymous ∉ madeUp as := by
    intro again
    obtain ⟨n, hn, same⟩ := number_of_madeUp again
    exact hn.ne (anonymousName_injective same).symm
  have known := hasQueue_after as (anonymousName (after as).nextAnonymous)
  rw [or_iff_left unused] at known
  rcases (after as).declareAnonymousQueue_cases with hd | ⟨old, hd⟩ | ⟨new, hd⟩ <;> rw [hd] at h <;> cases h
  · exact ⟨unused, known, fun unchosen => absurd (known.1 old) unchosen, fun _ => rfl⟩
  · refine ⟨unused, known, fun _ => ⟨?_, ?_, ?_⟩, fun taken => ?_⟩
    · have found := queue?_declared new ((after as).nextAnonymous + 1) (anonymousName (after as).nextAnonymous)
      rwa [if_pos rfl] at found
    · refine List.countP_eq_zero.2 fun u hu same => ?_
      have housed := run.sound.housed u hu
      rw [of_decide_eq_true same, new] at housed
      cases housed
    · refine List.countP_eq_zero.2 fun s hs same => ?_
      have there := run.subscribed s hs
      rw [of_decide_eq_true same, new] at there
      cases there
    · rw [known.2 taken] at new
      cases new

/-- The first number is used up while the connection is lost. Somebody chooses the name it would have given,
and uses the queue; the next made-up name is of another queue, which is new. -/
theorem anonymous_queue_new_skipping : ∃ as b,
    (after as).declareAnonymousQueue = (.ok "amq.gen-2", b) ∧ chosen as = ["amq.gen-1"] ∧
    (after as).hasQueue "amq.gen-2" = false ∧ b.queue? "amq.gen-2" = some { name := "amq.gen-2" } ∧
    b.unackedCount "amq.gen-1" = 1 ∧ b.unackedCount "amq.gen-2" = 0 ∧ b.consumerCount "amq.gen-2" = 0 := by
  let as : List Act := [.connect false, .declareAnonymous, .connect true, .declare "amq.gen-1", .openChannel,
    .send ⟨1⟩ "amq.gen-1" ⟨[120], {}⟩, .subscribe ⟨1⟩ "amq.gen-1" 1, .deliver (consumerTag 1)]
  have h : (after as).declareAnonymousQueue = (.ok "amq.gen-2", (after as).declareAnonymousQueue.2) := by
    decide +kernel
  have names : chosen as = ["amq.gen-1"] := by decide +kernel
  have unchosen : "amq.gen-2" ∉ chosen as := by
    rw [names]
    decide
  obtain ⟨-, known, new, -⟩ := anonymous_queue_new as h
  obtain ⟨found, unacked, consumers⟩ := new unchosen
  exact ⟨as, _, h, names, Bool.eq_false_iff.2 fun old => unchosen (known.1 old), found, by decide +kernel,
    unacked, consumers⟩

/-- Somebody chooses the first name that will be made up and sends to the queue: it is then handed out as
a new one, with the body in it. -/
theorem anonymous_queue_taken :
    let b := after [.declare "amq.gen-1", .openChannel, .send ⟨1⟩ "amq.gen-1" ⟨[120], {}⟩]
    b.hasQueue "amq.gen-1" = true ∧ b.declareAnonymousQueue = (.ok "amq.gen-1", b.numbered) ∧
    b.declareAnonymousQueue.2.queueDepth "amq.gen-1" = 1 := by
  decide +kernel

end QueueProbe.Broker
