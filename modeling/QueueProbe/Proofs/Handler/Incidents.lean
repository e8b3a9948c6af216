import QueueProbe.Proofs.Handler.Turnouts

/-! Handlers in use. Their calls are made as a whole, one after another, and whatever else happens comes
between two calls. Every subscription has a maker, the handler whose call it came with: `made` has who
made which, also of those that have ended. -/

namespace QueueProbe

variable {K V : Type}

/-- Deeds that are no parts of a handler's calls. -/
def Deed.isWhole : Deed K V → Bool
  | .subscribe .. | .leave .. | .active .. | .state .. => false
  | _ => true

inductive Incident (K V : Type) where
  | befell (d : Deed K V) (whole : d.isWhole = true)
  | asked (handler : Nat) (wish : Wish V)

namespace Broker

def newcomers (b b' : Broker) : List ConsumerTag :=
  (b'.subscriptions.map (·.tag)).filter fun t => t ∉ b.subscriptions.map (·.tag)

/-- Subscriptions are old, or were given tags that no one had before. -/
structure Later (b b' : Broker) : Prop where
  counted : b.nextConsumer ≤ b'.nextConsumer
  tags : ∀ t ∈ b.newcomers b', ∃ k, b.nextConsumer ≤ k ∧ k < b'.nextConsumer ∧ t = consumerTag k

theorem mem_newcomers {b b' : Broker} {t : ConsumerTag} : t ∈ b.newcomers b' ↔
    t ∈ b'.subscriptions.map (·.tag) ∧ t ∉ b.subscriptions.map (·.tag) := by
  simp only [newcomers, List.mem_filter, decide_eq_true_eq]

theorem newcomers_of_terms {b b' b'' : Broker} (h : b''.terms = b'.terms) :
    b.newcomers b'' = b.newcomers b' := by
  simp only [newcomers, ← tags_terms, h]

theorem newcomers_self (b : Broker) : b.newcomers b = [] :=
  List.filter_eq_nil_iff.2 fun t ht => by simpa using ht

theorem newcomers_left (b : Broker) (t : ConsumerTag) : b.newcomers (b.left t) = [] := by
  refine List.filter_eq_nil_iff.2 fun r hr => ?_
  obtain ⟨s, hs, rfl⟩ := List.mem_map.1 hr
  simpa using ⟨s, (List.mem_filter.1 hs).1, rfl⟩

theorem newcomers_joined {b : Broker} (h : b.Sound) (c : ChannelId) (q : String) (n : Nat) :
    b.newcomers (b.joined c q n) = [consumerTag b.nextConsumer] := by
  have hfresh : consumerTag b.nextConsumer ∉ b.subscriptions.map (·.tag) := by
    intro ht
    obtain ⟨s, hs, ht⟩ := List.mem_map.1 ht
    exact h.fresh s hs ht
  have hold := newcomers_self b
  unfold newcomers at hold ⊢
  rw [show (b.joined c q n).subscriptions.map (·.tag) =
    b.subscriptions.map (·.tag) ++ [consumerTag b.nextConsumer] by simp [joined], List.filter_append, hold]
  simp only [List.filter_cons, hfresh, not_false_eq_true, decide_true, if_true, List.filter_nil,
    List.nil_append]

namespace Later

variable {b b' b'' : Broker}

theorem refl (b : Broker) : b.Later b := ⟨le_rfl, fun t ht => absurd ht (by simp [newcomers_self])⟩

theorem trans (h : b.Later b') (g : b'.Later b'') : b.Later b'' where
  counted := h.counted.trans g.counted
  tags t ht := by
    obtain ⟨hin, hout⟩ := mem_newcomers.1 ht
    by_cases hmid : t ∈ b'.subscriptions.map (·.tag)
    · obtain ⟨k, hlo, hhi, hk⟩ := h.tags t (mem_newcomers.2 ⟨hmid, hout⟩)
      exact ⟨k, hlo, hhi.trans_le g.counted, hk⟩
    · obtain ⟨k, hlo, hhi, hk⟩ := g.tags t (mem_newcomers.2 ⟨hin, hmid⟩)
      exact ⟨k, h.counted.trans hlo, hhi, hk⟩

theorem of_change {es : List Event} (h : b.Sound) (c : Change b es b') : b.Later b' where
  counted := nextConsumer_change c
  tags t ht := by
    obtain ⟨hin, hout⟩ := mem_newcomers.1 ht
    obtain ⟨s, hs, rfl⟩ := List.mem_map.1 hin
    rcases subscription_change c hs with ⟨r, hr, hrt, -⟩ | hnew
    · exact absurd (List.mem_map.2 ⟨r, hr, hrt⟩) hout
    · obtain ⟨k, hk, ht⟩ := (h.change c).named s hs
      exact ⟨k, (consumerTag_injective (hnew.symm.trans ht)).le, hk, ht⟩

end Later
end Broker

namespace Bench

variable [DecidableEq K] [Debug K]

def after (w : Bench K V) : Incident K V → Bench K V
  | .befell d _ => w.perform d
  | .asked n wish => w.request (wish.of n)

def makes (w : Bench K V) (i : Incident K V) : List (Nat × ConsumerTag) :=
  match i with
  | .befell .. => []
  | .asked n _ => (w.broker.newcomers (w.after i).broker).map fun t => (n, t)

/-- What may have happened until now. -/
inductive Life : List (Nat × ConsumerTag) → Bench K V → Prop where
  | nil : Life [] {}
  | snoc {made : List (Nat × ConsumerTag)} {w : Bench K V} (i : Incident K V) :
      Life made w → Life (made ++ w.makes i) (w.after i)

variable {made : List (Nat × ConsumerTag)} {w w' : Bench K V} {log : List (Entry K V)}

theorem leads_after (w : Bench K V) (i : Incident K V) : Leads w (w.after i) := by
  cases i with
  | befell d _ => exact .deed w d
  | asked n wish => exact .request w _

/-- A whole deed is no matter to who is subscribed, or a handler is built or a channel closed. -/
theorem Run.whole_cases (run : Run log w) (d : Deed K V) (whole : d.isWhole = true) :
    Alike w (w.perform d) ∨ (∃ p, d = .build p) ∨ ∃ c, d = .close c := by
  cases d with
  | build p => exact Or.inr (Or.inl ⟨p, rfl⟩)
  | close c => exact Or.inr (Or.inr ⟨c, rfl⟩)
  | declare q =>
    exact Or.inl (.broker (Broker.declareQueue_alike _ q).1 (Broker.declareQueue_alike _ q).2)
  | declareAnonymous =>
    exact Or.inl (.broker (Broker.declareAnonymousQueue_alike _).1 (Broker.declareAnonymousQueue_alike _).2)
  | openChannel => exact Or.inl (alike_openChannel w)
  | connect up late => exact Or.inl (.broker rfl rfl)
  | fault c call f => exact Or.inl ((Alike.refl w).on rfl rfl rfl)
  | crowd shortage => exact Or.inl ((Alike.refl w).on rfl rfl rfl)
  | send c q l => exact Or.inl (w.alike_send c q _ _)
  | work t => exact Or.inl (alike_advance run.staffed t)
  | grant c n =>
    simp only [perform, Bench.grant]
    split
    · exact Or.inl ((Alike.refl w).onWorker _ _)
    · exact Or.inl (.refl w)
  | note m => exact Or.inl ((Alike.refl w).note m)
  | subscribe | leave | active | state => cases whole

theorem Life.run (h : Life made w) : ∃ log, Run log w := by
  induction h with
  | nil => exact ⟨[], .nil⟩
  | snoc i _ ih =>
    obtain ⟨log, run⟩ := ih
    obtain ⟨more, run⟩ := run.leads (leads_after _ i)
    exact ⟨_, run⟩

theorem Run.sound (h : Run log w) : w.broker.Sound := h.invariant.1.run.sound

theorem Run.later (h : Run log w) (hl : Leads w w') : w.broker.Later w'.broker := by
  induction hl with
  | refl => exact .refl _
  | @tail x y hx hd ih =>
    obtain ⟨d, rfl⟩ := hd
    obtain ⟨more, run⟩ := h.leads hx
    exact ih.trans (.of_change run.sound (deed_upshot run.staffed d).change)

end Bench

/-- Each subscription has one maker. -/
structure Makers (made : List (Nat × ConsumerTag)) (b : Broker) : Prop where
  issued : ∀ e ∈ made, ∃ k < b.nextConsumer, e.2 = Broker.consumerTag k
  apart : ∀ e ∈ made, ∀ e' ∈ made, e.2 = e'.2 → e.1 = e'.1

namespace Makers

variable {made : List (Nat × ConsumerTag)} {b b' : Broker}

theorem fresh (h : Makers made b) (n : Nat) : (n, Broker.consumerTag b.nextConsumer) ∉ made := by
  intro hm
  obtain ⟨k, hk, ht⟩ := h.issued _ hm
  exact hk.ne (Broker.consumerTag_injective ht).symm

theorem counted (h : Makers made b) (hb : b.nextConsumer ≤ b'.nextConsumer) : Makers made b' where
  issued e he := by
    obtain ⟨k, hk, ht⟩ := h.issued e he
    exact ⟨k, hk.trans_le hb, ht⟩
  apart := h.apart

theorem later (h : Makers made b) (l : b.Later b') (n : Nat) :
    Makers (made ++ (b.newcomers b').map fun t => (n, t)) b' where
  issued e he := by
    rcases List.mem_append.1 he with he | he
    · exact (h.counted l.counted).issued e he
    · obtain ⟨t, ht, rfl⟩ := List.mem_map.1 he
      obtain ⟨k, -, hk, ht⟩ := l.tags t ht
      exact ⟨k, hk, ht⟩
  apart := by
    -- an old tag and a new one have different numbers
    have differ : ∀ e ∈ made, ∀ t ∈ b.newcomers b', e.2 ≠ t := by
      intro e he t ht heq
      obtain ⟨k, hk, hek⟩ := h.issued e he
      obtain ⟨k', hk', -, htk⟩ := l.tags t ht
      have := Broker.consumerTag_injective (hek.symm.trans (heq.trans htk))
      omega
    intro e he e' he' heq
    rcases List.mem_append.1 he with he | he <;> rcases List.mem_append.1 he' with he' | he'
    · exact h.apart e he e' he' heq
    · obtain ⟨t, ht, rfl⟩ := List.mem_map.1 he'
      exact absurd heq (differ e he t ht)
    · obtain ⟨t, ht, rfl⟩ := List.mem_map.1 he
      exact absurd heq.symm (differ e' he' t ht)
    · obtain ⟨t, -, rfl⟩ := List.mem_map.1 he
      obtain ⟨t', -, rfl⟩ := List.mem_map.1 he'
      rfl

end Makers

theorem Bench.Life.makers [DecidableEq K] [Debug K] {made : List (Nat × ConsumerTag)} {w : Bench K V}
    (h : Life made w) : Makers made w.broker := by
  induction h with
  | nil => exact ⟨by simp, by simp⟩
  | @snoc made w i life ih =>
    obtain ⟨log, run⟩ := life.run
    have hl := run.later (leads_after w i)
    cases i with
    | befell d whole => simpa [makes] using ih.counted hl.counted
    | asked n wish => exact ih.later hl n

end QueueProbe
