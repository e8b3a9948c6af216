import Mathlib.Data.List.Nodup
import QueueProbe.Proofs.Broker.Contents

/-! Delivery tags. A tag is issued once, to one channel, and the delivery it names ends once: by an
ack or a reject of that channel, or with the channel itself. What is unacked is what was issued and
has not ended, so anyone who settles a delivery that is not his, or not any more, is turned away. -/

namespace QueueProbe.Broker

/-- A delivery by its tag and the channel it was made on. -/
def stub (u : Unacked) : Nat × ChannelId := (u.tag, u.channel)

def Event.issue : Event → Option (Nat × ChannelId)
  | .delivered s d => some (d.tag, s.channel)
  | _ => none

def Event.finish : Event → Option (Nat × ChannelId)
  | .acked u | .rejected u _ | .restored u => some (stub u)
  | .sent _ _ | .delivered _ _ => none

/-- The only act by which a delivery can end so. -/
def Event.cause : Event → Option Act
  | .acked u => some (.ack u.channel u.tag)
  | .rejected u k => some (.reject u.channel u.tag k)
  | .restored u => some (.close u.channel)
  | .sent _ _ | .delivered _ _ => none

def issued (es : List Event) : List (Nat × ChannelId) := es.filterMap Event.issue

def finished (es : List Event) : List (Nat × ChannelId) := es.filterMap Event.finish

theorem issued_append (es fs : List Event) : issued (es ++ fs) = issued es ++ issued fs :=
  List.filterMap_append

theorem finished_append (es fs : List Event) : finished (es ++ fs) = finished es ++ finished fs :=
  List.filterMap_append

theorem issued_restored (us : List Unacked) : issued (us.map .restored) = [] := by
  simp [issued, Event.issue]

theorem finished_restored (us : List Unacked) : finished (us.map .restored) = us.map stub := by
  rw [finished, List.filterMap_map, ← List.filterMap_eq_map]
  rfl

variable {b b' : Broker} {es new : List Event} {x : Nat × ChannelId}

theorem cause_of_mem {a : Act} {e : Event} (he : e ∈ b.events a) {a' : Act} (h : e.cause = some a') :
    a = a' := by
  cases a with
  | send c q l =>
    simp only [events] at he
    split at he
    · rw [List.mem_singleton.1 he] at h
      cases h
    · cases he
  | deliver t =>
    simp only [events] at he
    split at he
    · rw [List.mem_singleton.1 he] at h
      cases h
    · cases he
  | ack c n =>
    rcases b.ack_cases c n with ⟨u, -, hn, rfl, hok⟩ | ⟨e', hok⟩
    · obtain rfl : e = .acked u := by simpa [events, hok, hn] using he
      obtain rfl := unacked?_tag hn
      exact Option.some.inj h
    · simp [events, hok] at he
  | reject c n k =>
    rcases b.reject_cases c n k with ⟨u, -, hn, rfl, hok⟩ | ⟨e', hok⟩
    · obtain rfl : e = .rejected u k := by simpa [events, hok, hn] using he
      obtain rfl := unacked?_tag hn
      exact Option.some.inj h
    · simp [events, hok] at he
  | close c =>
    simp only [events] at he
    split at he
    · cases he
    · obtain ⟨u, hu, rfl⟩ := List.mem_map.1 he
      obtain ⟨-, hc⟩ := List.mem_filter.1 hu
      obtain rfl : u.channel = c := by simpa using hc
      exact Option.some.inj h
  | _ => cases he

theorem issued_change (c : Change b new b') : issued new = [] ∨
    ∃ x, issued new = [x] ∧ x.1 = b.lastTag + 1 ∧ b'.lastTag = b.lastTag + 1 := by
  cases c with
  | delivered s x e rest => exact Or.inr ⟨(b.lastTag + 1, s.channel), rfl, rfl, rfl⟩
  | closed c => exact Or.inl (issued_restored _)
  | _ => exact Or.inl rfl

theorem finished_change (h : Sound b) (c : Change b new b') :
    finished new ⊆ b.unacked.map stub ∧ ((finished new).map Prod.fst).Nodup := by
  cases c with
  | acked u usable found =>
    have hu := List.mem_map_of_mem (f := stub) (List.mem_of_find?_eq_some found)
    exact ⟨List.cons_subset.2 ⟨hu, List.nil_subset _⟩, List.nodup_singleton _⟩
  | rejected u k usable found =>
    have hu := List.mem_map_of_mem (f := stub) (List.mem_of_find?_eq_some found)
    exact ⟨List.cons_subset.2 ⟨hu, List.nil_subset _⟩, List.nodup_singleton _⟩
  | closed c =>
    rw [finished_restored]
    refine ⟨List.map_subset _ (List.filter_subset_self _), ?_⟩
    rw [List.map_map]
    exact h.tags_nodup.sublist (List.filter_sublist.map _)
  | _ => exact ⟨List.nil_subset _, List.nodup_nil⟩

theorem mem_stubs_settled (h : Sound b) {u : Unacked} (found : b.unacked? u.tag = some u) :
    x ∈ (b.settled u).unacked.map stub ↔ x ∈ b.unacked.map stub ∧ x ∉ [stub u] := by
  have hu := List.mem_of_find?_eq_some found
  simp only [settled, onSubscription, List.mem_map, List.mem_filter, List.mem_singleton]
  constructor
  · rintro ⟨v, ⟨hv, ht⟩, rfl⟩
    exact ⟨⟨v, hv, rfl⟩, fun he => of_decide_eq_true ht (congrArg Prod.fst he)⟩
  · rintro ⟨⟨v, hv, rfl⟩, hne⟩
    refine ⟨v, ⟨hv, ?_⟩, rfl⟩
    exact decide_eq_true fun ht => hne (congrArg stub (h.sole hv hu ht))

theorem mem_stubs_shut {c : ChannelId} : x ∈ (b.shut c).unacked.map stub ↔
    x ∈ b.unacked.map stub ∧ x ∉ (b.unacked.filter (·.channel = c)).map stub := by
  simp only [shut, List.mem_map, List.mem_filter]
  constructor
  · rintro ⟨u, ⟨hu, hc⟩, rfl⟩
    refine ⟨⟨u, hu, rfl⟩, ?_⟩
    rintro ⟨v, ⟨-, hv⟩, he⟩
    have hvu : v.channel = u.channel := congrArg Prod.snd he
    exact of_decide_eq_true hc (hvu.symm.trans (of_decide_eq_true hv))
  · rintro ⟨⟨u, hu, rfl⟩, hne⟩
    refine ⟨u, ⟨hu, ?_⟩, rfl⟩
    exact decide_eq_true fun hc => hne ⟨u, ⟨hu, decide_eq_true hc⟩, rfl⟩

theorem mem_stubs_change (h : Sound b) (c : Change b new b') : x ∈ b'.unacked.map stub ↔
    (x ∈ b.unacked.map stub ∧ x ∉ finished new) ∨ x ∈ issued new := by
  cases c with
  | delivered s y e rest =>
    simp only [handedOut, List.map_append, List.mem_append, List.map_cons, List.map_nil]
    simp [finished, issued, Event.finish, Event.issue, stub, entry, told]
  | acked u usable found => exact (mem_stubs_settled h found).trans (or_iff_left List.not_mem_nil).symm
  | rejected u k usable found => exact (mem_stubs_settled h found).trans (or_iff_left List.not_mem_nil).symm
  | closed c still => rw [mem_stubs_shut, finished_restored, issued_restored]; simp
  | _ => simp [finished, issued, Event.finish, Event.issue, posted, joined, left, onQueue]

/-- What a run says of the tags. -/
structure Tagged (es : List Event) (b : Broker) : Prop where
  rising : (issued es).Pairwise (·.1 < ·.1)
  bounded : ∀ x ∈ issued es, x.1 ≤ b.lastTag
  once : ((finished es).map Prod.fst).Nodup
  known : finished es ⊆ issued es
  pending : ∀ x, x ∈ b.unacked.map stub ↔ x ∈ issued es ∧ x ∉ finished es

namespace Tagged

theorem empty : Tagged [] {} := by constructor <;> simp [issued, finished]

theorem inj (h : Tagged es b) {y : Nat × ChannelId} (hx : x ∈ issued es) (hy : y ∈ issued es)
    (hn : x.1 = y.1) : x = y :=
  List.inj_on_of_nodup_map (List.pairwise_map.2 (h.rising.imp ne_of_lt)) hx hy hn

theorem change (h : Tagged es b) (sound : Sound b) (c : Change b new b') : Tagged (es ++ new) b' := by
  obtain ⟨hsub, hnodup⟩ := finished_change sound c
  have hopen : ∀ x ∈ finished new, x ∈ issued es ∧ x ∉ finished es :=
    fun x hx => (h.pending x).1 (hsub hx)
  have fresh : ∀ x ∈ issued new, b.lastTag < x.1 ∧ x.1 ≤ b'.lastTag := by
    intro x hx
    rcases issued_change c with hn | ⟨y, hn, hy, hb⟩
    · simp [hn] at hx
    · obtain rfl : x = y := by simpa [hn] using hx
      omega
  have unissued : ∀ x ∈ issued new, x ∉ issued es := fun x hx hold =>
    absurd (h.bounded x hold) (by have := fresh x hx; omega)
  constructor
  · rw [issued_append]
    refine List.pairwise_append.2 ⟨h.rising, ?_, fun x hx y hy =>
      lt_of_le_of_lt (h.bounded x hx) (fresh y hy).1⟩
    rcases issued_change c with hn | ⟨y, hn, -, -⟩ <;> simp [hn]
  · intro x hx
    rw [issued_append] at hx
    rcases List.mem_append.1 hx with hx | hx
    · exact (h.bounded x hx).trans (lastTag_change c)
    · exact (fresh x hx).2
  · rw [finished_append, List.map_append]
    refine List.nodup_append.2 ⟨h.once, hnodup, ?_⟩
    rintro n hn m hm rfl
    -- two ends of one tag are two ends of one delivery
    obtain ⟨x, hx, rfl⟩ := List.mem_map.1 hn
    obtain ⟨y, hy, hxy⟩ := List.mem_map.1 hm
    obtain rfl := h.inj (hopen y hy).1 (h.known hx) hxy
    exact (hopen y hy).2 hx
  · rw [finished_append, issued_append]
    refine List.append_subset.2 ⟨fun x hx => List.mem_append_left _ (h.known hx),
      fun x hx => List.mem_append_left _ (hopen x hx).1⟩
  · intro x
    rw [mem_stubs_change sound c, h.pending, finished_append, issued_append]
    simp only [List.mem_append]
    constructor
    · rintro (⟨⟨hi, hf⟩, hn⟩ | hn)
      · exact ⟨Or.inl hi, not_or.2 ⟨hf, hn⟩⟩
      · exact ⟨Or.inr hn, not_or.2
          ⟨fun hf => unissued x hn (h.known hf), fun hf => unissued x hn (hopen x hf).1⟩⟩
    · rintro ⟨hi | hi, hf⟩
      · exact Or.inl ⟨⟨hi, fun h => hf (Or.inl h)⟩, fun h => hf (Or.inr h)⟩
      · exact Or.inr hi

end Tagged

theorem Run.tagged (h : Run es b) : Tagged es b := by
  induction h with
  | nil => exact .empty
  | snoc a run ih => exact ih.change run.sound (Broker.change _ a)

/-- Who settles a delivery that is not his is told so, and that is all. -/
theorem takeUnacked_stranger {c : ChannelId} {n : Nat} (h : (n, c) ∉ b.unacked.map stub) :
    b.takeUnacked c n = (.error (.unknownDeliveryTag n), b) := by
  unfold takeUnacked
  cases hu : b.unacked? n with
  | none => rfl
  | some u =>
    refine if_neg fun hc => h (List.mem_map.2 ⟨u, List.mem_of_find?_eq_some hu, ?_⟩)
    rw [stub, unacked?_tag hu, hc]

theorem ack_stranger {c : ChannelId} {n : Nat} (hu : b.usable c = .ok ())
    (h : (n, c) ∉ b.unacked.map stub) : b.ack c n = (.error (.unknownDeliveryTag n), b) := by
  simp only [ack, through, hu, takeUnacked_stranger h]

theorem reject_stranger {c : ChannelId} {n : Nat} (hu : b.usable c = .ok ())
    (h : (n, c) ∉ b.unacked.map stub) (k : Bool) :
    b.reject c n k = (.error (.unknownDeliveryTag n), b) := by
  simp only [reject, through, hu, takeUnacked_stranger h]

/-- Who can settle a delivery owns it, and it has not ended; the run then records that it has. -/
theorem Tagged.owned (h : Tagged es b) {u : Unacked} (found : b.unacked? u.tag = some u) :
    stub u ∈ issued es ∧ u.tag ∉ (finished es).map Prod.fst := by
  have hu := List.mem_map_of_mem (f := stub) (List.mem_of_find?_eq_some found)
  obtain ⟨hi, hf⟩ := (h.pending _).1 hu
  refine ⟨hi, fun hn => ?_⟩
  obtain ⟨x, hx, hxu⟩ := List.mem_map.1 hn
  rw [h.inj (h.known hx) hi hxu] at hx
  exact hf hx

theorem Tagged.not_mem_stubs (h : Tagged es b) {n : Nat} {c : ChannelId}
    (alien : (∀ c', (n, c') ∉ issued es) ∨ n ∈ (finished es).map Prod.fst ∨
      ∃ c' ≠ c, (n, c') ∈ issued es) : (n, c) ∉ b.unacked.map stub := by
  intro hm
  obtain ⟨hi, hf⟩ := (h.pending _).1 hm
  rcases alien with hnone | hn | ⟨c', hc, hi'⟩
  · exact hnone c hi
  · obtain ⟨x, hx, hxn⟩ := List.mem_map.1 hn
    rw [h.inj (h.known hx) hi hxn] at hx
    exact hf hx
  · exact hc (congrArg Prod.snd (h.inj hi' hi rfl))

/-- After every run the tags issued rise, each delivery has ended at most once, by an ack, a reject or
the closing of its channel, and only one that was made can end. Whatever act comes next, a delivery
ends by it only as the act says, and an ack or a reject that succeeds is of a delivery that the channel
owns and that has not ended, which is the one thing it ends. An ack or a reject on an open channel of
any other tag is refused and leaves the broker as it is. -/
theorem tags_settled_once (h : Run es b) :
    (issued es).Pairwise (·.1 < ·.1) ∧ ((finished es).map Prod.fst).Nodup ∧
    finished es ⊆ issued es ∧
    (∀ a, ∀ e ∈ b.events a, ∀ a', e.cause = some a' → a = a') ∧
    (∀ c n, (b.ack c n).1 = .ok () → (n, c) ∈ issued es ∧ n ∉ (finished es).map Prod.fst ∧
      finished (b.events (.ack c n)) = [(n, c)]) ∧
    (∀ c n k, (b.reject c n k).1 = .ok () → (n, c) ∈ issued es ∧ n ∉ (finished es).map Prod.fst ∧
      finished (b.events (.reject c n k)) = [(n, c)]) ∧
    ∀ c, b.isClosed c = false → b.connected = true → ∀ n k,
      ((∀ c', (n, c') ∉ issued es) ∨ n ∈ (finished es).map Prod.fst ∨
        ∃ c' ≠ c, (n, c') ∈ issued es) →
      b.ack c n = (.error (.unknownDeliveryTag n), b) ∧
      b.reject c n k = (.error (.unknownDeliveryTag n), b) := by
  have tagged := h.tagged
  refine ⟨tagged.rising, tagged.once, tagged.known, fun a e he a' hc => cause_of_mem he hc,
    fun c n hok => ?_, fun c n k hok => ?_, fun c hopen hup n k alien => ?_⟩
  · rcases b.ack_cases c n with ⟨u, -, hn, rfl, ha⟩ | ⟨e, ha⟩
    · obtain rfl := unacked?_tag hn
      have owned := tagged.owned hn
      exact ⟨owned.1, owned.2, by simp [events, ha, hn, finished, Event.finish, stub]⟩
    · simp [ha] at hok
  · rcases b.reject_cases c n k with ⟨u, -, hn, rfl, ha⟩ | ⟨e, ha⟩
    · obtain rfl := unacked?_tag hn
      have owned := tagged.owned hn
      exact ⟨owned.1, owned.2, by simp [events, ha, hn, finished, Event.finish, stub]⟩
    · simp [ha] at hok
  · have usable := usable_of_open hopen hup
    have hm := tagged.not_mem_stubs alien
    exact ⟨ack_stranger usable hm, reject_stranger usable hm k⟩

/-- A body goes back as its channel is closed and is delivered again on another one; the first delivery
can then be settled by nobody, the second one only by its owner. -/
theorem tags_settled_once_late : ∃ es b, Run es b ∧
    issued es = [(1, ⟨1⟩), (2, ⟨2⟩)] ∧ finished es = [(1, ⟨1⟩)] ∧
    b.isClosed ⟨2⟩ = false ∧ b.isClosed ⟨3⟩ = false ∧ b.connected = true ∧
    b.ack ⟨2⟩ 1 = (.error (.unknownDeliveryTag 1), b) ∧
    b.reject ⟨3⟩ 2 true = (.error (.unknownDeliveryTag 2), b) ∧ (b.ack ⟨2⟩ 2).1 = .ok () := by
  have run := Run.nil.snoc .openChannel |>.snoc .openChannel |>.snoc .openChannel
    |>.snoc (.declare "jobs") |>.snoc (.send ⟨1⟩ "jobs" ⟨[1], {}⟩) |>.snoc (.subscribe ⟨1⟩ "jobs" 1)
    |>.snoc (.deliver (consumerTag 1)) |>.snoc (.close ⟨1⟩) |>.snoc (.subscribe ⟨2⟩ "jobs" 1)
    |>.snoc (.deliver (consumerTag 2))
  obtain ⟨-, -, -, -, -, -, refused⟩ := tags_settled_once run
  exact ⟨_, _, run, rfl, rfl, rfl, rfl, rfl, (refused ⟨2⟩ rfl rfl 1 true (Or.inr (Or.inl (by decide)))).1,
    (refused ⟨3⟩ rfl rfl 2 true (Or.inr (Or.inr ⟨⟨2⟩, by decide, by decide⟩))).2, rfl⟩

end QueueProbe.Broker
