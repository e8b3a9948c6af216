import QueueProbe.Proofs.Broker.Lanes

/-! A letter that goes round: it is delivered and put back as often as one likes, and each delivery
carries the number of the round as far as its counter can hold it. -/

namespace QueueProbe.Broker

/-- One letter is sent, and put back each time that it is delivered. -/
def circling : Nat → List Act
  | 0 => [.openChannel, .declare "jobs", .send ⟨1⟩ "jobs" ⟨[255], {}⟩, .subscribe ⟨1⟩ "jobs" 1]
  | n + 1 => circling n ++ [.deliver (consumerTag 1)] ++ [.reject ⟨1⟩ (n + 1) true]

def circled (n : Nat) : Broker where
  queues := [⟨"jobs", [⟨[255], {}, UInt32.ofNat n⟩], []⟩]
  subscriptions := [⟨consumerTag 1, "jobs", ⟨1⟩, 1, 0⟩]
  lastTag := n
  nextChannel := 2
  nextConsumer := 2

/-- What is unacked in the middle of the next round. -/
def circlingEntry (n : Nat) : Unacked :=
  ⟨n + 1, "jobs", ⟨1⟩, consumerTag 1, ⟨[255], {}, UInt32.ofNat (n + 1)⟩⟩

theorem circled_round (n : Nat) : ∃ b, (circled n).deliver (consumerTag 1) =
    some (told (circlingEntry n), b) ∧ b.unacked? (n + 1) = some (circlingEntry n) ∧
    b.reject ⟨1⟩ (n + 1) true = (.ok (), circled (n + 1)) := by
  refine ⟨{ circled n with
    queues := [⟨"jobs", [], []⟩]
    unacked := [circlingEntry n]
    subscriptions := [⟨consumerTag 1, "jobs", ⟨1⟩, 1, 1⟩]
    lastTag := n + 1 }, ?_, ?_, ?_⟩
  · simp [deliver, circled, circlingEntry, told, subscription?, Subscription.hasCapacity, queue?, onQueue,
      onSubscription, UInt32.ofNat_add]
  · simp [unacked?, circlingEntry]
  · simp [reject, through, usable, isClosed, takeUnacked, unacked?, circled, circlingEntry, onQueue,
      onSubscription, notified]

structure Circling (n : Nat) : Prop where
  after : after (circling n) = circled n
  accepted : accepted "jobs" (past (circling n)) = [⟨[255], {}⟩]
  deliveries : deliveries "jobs" (past (circling n)) =
    (List.range n).map fun k => told (circlingEntry k)

theorem circling_spec (n : Nat) : Circling n := by
  induction n with
  | zero => constructor <;> decide +kernel
  | succ n ih =>
    obtain ⟨b, hd, hu, hr⟩ := circled_round n
    have found : (circled n).subscription? (consumerTag 1) =
        some ⟨consumerTag 1, "jobs", ⟨1⟩, 1, 0⟩ := rfl
    have out : (after (circling n)).act (.deliver (consumerTag 1)) = b := by simp [ih.after, act, hd]
    have handed : (after (circling n)).events (.deliver (consumerTag 1)) =
        [.delivered ⟨consumerTag 1, "jobs", ⟨1⟩, 1, 0⟩ (told (circlingEntry n))] := by
      simp [ih.after, events, hd, found]
    have back : b.events (.reject ⟨1⟩ (n + 1) true) = [.rejected (circlingEntry n) true] := by
      simp [events, hr, hu]
    have round : past (circling (n + 1)) = past (circling n) ++
        [.delivered ⟨consumerTag 1, "jobs", ⟨1⟩, 1, 0⟩ (told (circlingEntry n)),
          .rejected (circlingEntry n) true] := by
      rw [circling, past_snoc, past_snoc, after_snoc, out, handed, back, List.append_assoc]
      rfl
    refine ⟨?_, ?_, ?_⟩
    · rw [circling, after_snoc, after_snoc, out]
      simp [act, hr]
    · have ha := ih.accepted
      simp only [Broker.accepted] at ha
      simp [round, Broker.accepted, ha, Event.sentTo]
    · have hds := ih.deliveries
      simp only [Broker.deliveries] at hds
      simp [round, Broker.deliveries, hds, Event.deliveryFrom, List.range_succ]

end QueueProbe.Broker
