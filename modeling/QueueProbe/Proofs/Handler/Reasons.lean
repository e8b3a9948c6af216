import QueueProbe.Proofs.Handler.Custody

/-! Reasons. A delivery is handled only after it was made, acked only after its message was put, and
rejected only after its body could not be filed, as the policy has it. What stands between the two in
the record does not matter. -/

namespace QueueProbe

variable {K V : Type}

/-- The delivery of an entry, as a handler had it. -/
structure Settles (u : Unacked) (f : Filing K V) (d : Delivery) : Prop where
  queue : f.queue = u.queue
  tag : d.tag = u.tag
  letter : d.letter = u.envelope.letter
  count : d.count = u.envelope.deliveryCount

/-- What must have come before an entry of a record. -/
def Reason (past : List (Entry K V)) : Entry K V → Prop
  | .filed t f d key m =>
    Bench.index f d = .ok (key, m) ∧ ∃ s, .told (.delivered s d) ∈ past ∧ s.tag = t ∧ s.queue = f.queue
  | .refused t f d e =>
    Bench.index f d = .error e ∧ ∃ s, .told (.delivered s d) ∈ past ∧ s.tag = t ∧ s.queue = f.queue
  | .told (.acked u) => ∃ t f d key m, .filed t f d key m ∈ past ∧ Settles u f d
  | .told (.rejected u r) =>
    ∃ t f d e, .refused t f d e ∈ past ∧ Settles u f d ∧ r = f.policy.keeps d.count.toNat
  | .told (.sent _ _) | .told (.delivered _ _) | .told (.restored _) => True

/-- Every entry comes after what must have come before it. -/
def Reasoned (log : List (Entry K V)) : Prop := ∀ past e, past ++ [e] <+: log → Reason past e

variable {log past new : List (Entry K V)} {v v' : View K V}

theorem Reason.grow {e : Entry K V} (h : Reason past e) (more : List (Entry K V)) :
    Reason (past ++ more) e := by
  have kept : ∀ {x}, x ∈ past → x ∈ past ++ more := fun hx => List.mem_append_left _ hx
  cases e with
  | filed t f d key m =>
    obtain ⟨hi, s, hs, ht, hq⟩ := h
    exact ⟨hi, s, kept hs, ht, hq⟩
  | refused t f d e =>
    obtain ⟨hi, s, hs, ht, hq⟩ := h
    exact ⟨hi, s, kept hs, ht, hq⟩
  | told e =>
    cases e with
    | acked u =>
      obtain ⟨t, f, d, key, m, hx, hu⟩ := h
      exact ⟨t, f, d, key, m, kept hx, hu⟩
    | rejected u r =>
      obtain ⟨t, f, d, e, hx, hu, hr⟩ := h
      exact ⟨t, f, d, e, kept hx, hu, hr⟩
    | sent q l => trivial
    | delivered s d => trivial
    | restored u => trivial

theorem Reason.of_mild {e : Broker.Event} (h : e.settled? = none) : Reason past (.told e : Entry K V) := by
  cases e with
  | acked u => cases h
  | rejected u r => cases h
  | sent q l => trivial
  | delivered s d => trivial
  | restored u => trivial

theorem Reasoned.nil : Reasoned ([] : List (Entry K V)) := by
  intro past e h
  simp at h

theorem Reasoned.of_mem (h : Reasoned log) {e : Entry K V} (he : e ∈ log) :
    ∃ past, past ++ [e] <+: log ∧ Reason past e := by
  obtain ⟨past, rest, rfl⟩ := List.append_of_mem he
  have hp : past ++ [e] <+: past ++ e :: rest := ⟨rest, by simp⟩
  exact ⟨past, hp, h past e hp⟩

theorem Reasoned.append (h : Reasoned log) (hn : ∀ e ∈ new, Reason log e) : Reasoned (log ++ new) := by
  induction new generalizing log with
  | nil => simpa using h
  | cons e new ih =>
    rw [List.append_cons]
    refine ih (fun past e' hp => ?_) fun e' he' => (hn e' (List.mem_cons_of_mem _ he')).grow [e]
    rcases List.prefix_concat_iff.1 hp with hp | hp
    · obtain ⟨rfl, he⟩ := List.append_inj' hp rfl
      rw [List.singleton_inj.1 he]
      exact hn e (by simp)
    · exact h past e' hp

variable [DecidableEq K]

theorem Manned.reason (h : Manned log v) (hup : Upshot v new v') : ∀ e ∈ new, Reason log e := by
  have mild : ∀ {es : List Broker.Event}, (∀ e ∈ es, e.settled? = none) →
      ∀ x ∈ es.map (Entry.told (K := K) (V := V)), Reason log x := by
    intro es hes x hx
    obtain ⟨e, he, rfl⟩ := List.mem_map.1 hx
    exact .of_mild (hes e he)
  -- what a worker is about to settle is what the broker has under the tag
  have settles : ∀ {f : Filing K V} {d : Delivery} {u : Unacked}, Matches v.broker f d →
      v.broker.unacked? u.tag = some u → d.tag = u.tag → Settles u f d := by
    intro f d u hm hu ht
    obtain ⟨hq, hl, hc⟩ := hm.entry u (List.mem_of_find?_eq_some hu) ht.symm
    exact ⟨hq.symm, ht, hl.symm, hc.symm⟩
  cases hup with
  | acted a hmild => exact mild hmild
  | took k found d b delivered =>
    refine mild fun e he => ?_
    simp only [Broker.events] at he
    split at he
    · rw [List.mem_singleton.1 he]
      rfl
    · simp at he
  | filed k f d key m found duty held good =>
    intro x hx
    rw [List.mem_singleton.1 hx]
    exact ⟨good, (h.holding found duty held).2⟩
  | refused k f d e found duty held bad =>
    intro x hx
    rw [List.mem_singleton.1 hx]
    exact ⟨bad, (h.holding found duty held).2⟩
  | acked k d u found due usable hu tag =>
    intro x hx
    rw [List.mem_singleton.1 hx]
    obtain ⟨f, -, -, -, standing⟩ := h.duly k found
    rw [due] at standing
    cases standing with
    | filed _ key m entry filed => exact ⟨k.tag, f, d, key, m, filed, settles entry hu tag⟩
  | rejected k d u r found due usable hu tag =>
    intro x hx
    rw [List.mem_singleton.1 hx]
    obtain ⟨f, -, -, -, standing⟩ := h.duly k found
    rw [due] at standing
    cases standing with
    | refused _ e entry refused => exact ⟨k.tag, f, d, e, refused, settles entry hu tag, rfl⟩
  | _ => simp

end QueueProbe
