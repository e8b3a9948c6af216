import QueueProbe.Proofs.Broker.Counts
import QueueProbe.Proofs.Broker.Receipts

/-! The turns of a letter: the deliveries that were made of it, whoever they went to. Each carries its number
in the counter, and what was acked or became a dead letter has had its last turn. -/

namespace QueueProbe.Broker

/-- The deliveries from a queue, each with what the lane knows of it. -/
def handings (q : String) (es : List Event) (l : Lane) : List (Delivery × Item) := (deliveries q es).zip l.taken

/-- The deliveries of the letter that queue `q` accepted under number `p`. -/
def turns (q : String) (p : Nat) (as : List Act) : List Delivery :=
  ((handings q (past as) (lane q as)).filter (·.2.place = p)).map (·.1)

def Event.last? : Event → Option Unacked
  | .acked u | .rejected u false => some u
  | .sent _ _ | .delivered _ _ | .rejected _ true | .restored _ => none

variable {q : String} {b b' : Broker} {es new : List Event} {l : Lane} {as : List Act} {d : Delivery} {p : Nat}
  {u : Unacked}

theorem deliveries_append (q : String) (es fs : List Event) :
    deliveries q (es ++ fs) = deliveries q es ++ deliveries q fs := List.filterMap_append

theorem Event.entry_of_last {e : Event} (h : e.last? = some u) : e.entry? = some u := by
  cases e with
  | rejected v k => cases k <;> simp_all [last?, entry?]
  | acked v => exact h
  | _ => cases h

theorem Tracks.handings_length (h : Tracks q es b l) : (deliveries q es).length = l.taken.length := by
  simpa using congrArg List.length h.handed

/-- What the lane has out and has seen gone are deliveries that were made. -/
structure Linked (q : String) (es : List Event) (l : Lane) : Prop where
  out : ∀ x ∈ l.out, ∃ d, (d, x.2) ∈ handings q es l ∧ d.tag = x.1
  gone : ∀ e ∈ es, ∀ u, e.last? = some u → u.queue = q →
    ∃ x ∈ l.gone, ∃ d, (d, x) ∈ handings q es l ∧ d.tag = u.tag

namespace Linked

theorem empty : Linked q [] {} := by constructor <;> simp

theorem keep (h : Linked q es l) {l' : Lane} (quiet : deliveries q new = []) (taken : l'.taken = l.taken)
    (out : l'.out ⊆ l.out) (kept : l.gone ⊆ l'.gone)
    (last : ∀ e ∈ new, ∀ u, e.last? = some u → u.queue = q → ∃ x ∈ l'.gone, (u.tag, x) ∈ l.out) :
    Linked q (es ++ new) l' := by
  have same : handings q (es ++ new) l' = handings q es l := by
    rw [handings, handings, deliveries_append, quiet, List.append_nil, taken]
  constructor
  · intro x hx
    rw [same]
    exact h.out x (out hx)
  · intro e he u hu hq
    rw [same]
    rcases List.mem_append.1 he with he | he
    · obtain ⟨x, hx, d, hd⟩ := h.gone e he u hu hq
      exact ⟨x, kept hx, d, hd⟩
    · obtain ⟨x, hx, hxo⟩ := last e he u hu hq
      exact ⟨x, hx, h.out _ hxo⟩

theorem settled (h : Linked q es l) (tracks : Tracks q es b l) (sound : Sound b) (hu : u ∈ b.unacked)
    {e : Event} (ends : e.last? = some u) (quiet : deliveries q [e] = []) : Linked q (es ++ [e]) (l.finish u.tag) := by
  refine h.keep quiet rfl (List.filter_subset_self _) (List.subset_append_left _ _) fun e' he v hv hq => ?_
  obtain rfl := List.mem_singleton.1 he
  obtain rfl := Option.some.inj (ends.symm.trans hv)
  -- the entry is of this queue, so something is held under its tag
  have held := tracks.held sound hu
  rw [if_pos hq] at held
  obtain ⟨x, hx, -⟩ := List.map_eq_singleton_iff.1 held
  have hmem : x ∈ l.held u.tag := hx ▸ List.mem_singleton_self x
  obtain ⟨⟨n, y⟩, hy, rfl⟩ := List.mem_map.1 hmem
  obtain ⟨hy, hn⟩ := List.mem_filter.1 hy
  obtain rfl : n = u.tag := of_decide_eq_true hn
  exact ⟨y, List.mem_append_right _ hmem, hy⟩

theorem handedOut (h : Linked q es l) (tracks : Tracks q es b l) {s : Subscription} {e : Envelope}
    {rest : List Envelope} (front : b.readyOf s.queue = e :: rest) :
    Linked q (es ++ [.delivered s (told (b.entry s e))]) (l.step q (.delivered s (told (b.entry s e)))) := by
  by_cases hq : s.queue = q
  · subst hq
    have hline := tracks.ready.symm.trans front
    cases hl : l.line with
    | nil => simp [hl] at hline
    | cons x xs =>
      have grown : handings s.queue (es ++ [.delivered s (told (b.entry s e))])
          (l.step s.queue (.delivered s (told (b.entry s e)))) =
          handings s.queue es l ++ [(told (b.entry s e), x.again)] := by
        simp only [handings, Lane.step, if_true, Lane.take_cons hl, deliveries_append]
        rw [List.zip_append tracks.handings_length]
        simp [deliveries, Event.deliveryFrom]
      constructor
      · intro y hy
        rw [grown]
        simp only [Lane.step, if_true, Lane.take_cons hl] at hy
        rcases List.mem_append.1 hy with hy | hy
        · obtain ⟨d, hd, ht⟩ := h.out y hy
          exact ⟨d, List.mem_append_left _ hd, ht⟩
        · rw [List.mem_singleton.1 hy]
          exact ⟨_, List.mem_append_right _ (List.mem_singleton_self _), rfl⟩
      · intro e' he u hu hq
        rw [grown]
        simp only [Lane.step, if_true, Lane.take_cons hl]
        rcases List.mem_append.1 he with he | he
        · obtain ⟨y, hy, d, hd, ht⟩ := h.gone e' he u hu hq
          exact ⟨y, hy, d, List.mem_append_left _ hd, ht⟩
        · rw [List.mem_singleton.1 he] at hu
          cases hu
  · have quiet : deliveries q [.delivered s (told (b.entry s e))] = [] := by
      simp [deliveries, Event.deliveryFrom, hq]
    rw [Lane.step, if_neg hq]
    refine h.keep quiet rfl (List.Subset.refl _) (List.Subset.refl _) fun e' he u hu => ?_
    rw [List.mem_singleton.1 he] at hu
    cases hu

theorem change (h : Linked q es l) (tracks : Tracks q es b l) (sound : Sound b) (c : Change b new b') :
    Linked q (es ++ new) (l.advance q new) := by
  have still : Linked q (es ++ []) l := by rwa [List.append_nil]
  cases c with
  | sent c r m usable known =>
    have same : (l.advance q [.sent r m]).taken = l.taken ∧ (l.advance q [.sent r m]).out = l.out ∧
        (l.advance q [.sent r m]).gone = l.gone := by
      simp only [Lane.advance, List.foldr_cons, List.foldr_nil, Lane.step]
      split <;> exact ⟨rfl, rfl, rfl⟩
    obtain ⟨taken, out, gone⟩ := same
    refine h.keep rfl taken (out ▸ List.Subset.refl _) (gone ▸ List.Subset.refl _) fun e he u hu => ?_
    rw [List.mem_singleton.1 he] at hu
    cases hu
  | delivered s x e rest found up room queue front =>
    have hr : b.readyOf s.queue = e :: rest := by simp [readyOf, queue, front]
    exact h.handedOut tracks hr
  | acked u usable found => exact h.settled tracks sound (List.mem_of_find?_eq_some found) rfl rfl
  | rejected u k usable found =>
    cases k with
    | false => exact h.settled tracks sound (List.mem_of_find?_eq_some found) rfl rfl
    | true =>
      refine h.keep rfl rfl (List.filter_subset_self _) (List.Subset.refl _) fun e he u hu => ?_
      rw [List.mem_singleton.1 he] at hu
      cases hu
  | closed c =>
    rw [Lane.advance_restored (tracks.rising sound) (sound.ordered.filter _)]
    refine h.keep ?_ rfl (List.filter_subset_self _) (List.Subset.refl _) fun e he u hu => ?_
    · simp [deliveries, Event.deliveryFrom]
    · obtain ⟨v, -, rfl⟩ := List.mem_map.1 he
      cases hu
  | _ => exact still

end Linked

theorem linked (q : String) (as : List Act) : Linked q (past as) (lane q as) := by
  induction as using List.reverseRecOn with
  | nil => exact .empty
  | append_singleton as a ih =>
    rw [past_snoc, lane_snoc]
    exact ih.change (tracks q as) (run_after as).sound (Broker.change _ a)

theorem deliveries_rising (q : String) (as : List Act) : (deliveries q (past as)).Pairwise (·.tag < ·.tag) := by
  refine (run_after as).rising fun e d hd => ?_
  cases e with
  | delivered s x =>
    obtain ⟨-, hd⟩ := Option.ite_none_right_eq_some.1 hd
    exact ⟨s, congrArg _ (Option.some.inj hd)⟩
  | _ => cases hd

section Turns

variable {x y : Item} {i : Nat}

theorem length_deliveries (q : String) (as : List Act) :
    (deliveries q (past as)).length = (lane q as).taken.length := (tracks q as).handings_length

theorem fst_handings (q : String) (as : List Act) :
    (handings q (past as) (lane q as)).map (·.1) = deliveries q (past as) :=
  List.map_fst_zip (length_deliveries q as).le

theorem snd_handings (q : String) (as : List Act) :
    (handings q (past as) (lane q as)).map (·.2) = (lane q as).taken :=
  List.map_snd_zip (length_deliveries q as).ge

theorem handings_unique (hx : (d, x) ∈ handings q (past as) (lane q as))
    (hy : (d, y) ∈ handings q (past as) (lane q as)) : x = y := by
  have distinct : ((handings q (past as) (lane q as)).map (·.1)).Nodup := by
    rw [fst_handings]
    exact (deliveries_rising q as).imp fun h he => h.ne (congrArg Delivery.tag he)
  exact congrArg Prod.snd (List.inj_on_of_nodup_map distinct hx hy rfl)

theorem mem_turns : d ∈ turns q p as ↔ ∃ x, (d, x) ∈ handings q (past as) (lane q as) ∧ x.place = p := by
  simp [turns]

theorem turns_sublist (q : String) (p : Nat) (as : List Act) :
    (turns q p as).Sublist (deliveries q (past as)) := by
  rw [← fst_handings]
  exact List.filter_sublist.map _

theorem turns_rising (q : String) (p : Nat) (as : List Act) : (turns q p as).Pairwise (·.tag < ·.tag) :=
  (deliveries_rising q as).sublist (turns_sublist q p as)

/-- What stands at an index among those that are chosen stands behind so many of them. -/
theorem split_of_filter {α : Type} {xs : List α} {f : α → Bool} {a : α} (h : (xs.filter f)[i]? = some a) :
    ∃ before after, xs = before ++ a :: after ∧ before.countP f = i := by
  obtain ⟨hi, ha⟩ := List.getElem?_eq_some_iff.1 h
  have chosen : xs.filter f = (xs.filter f).take i ++ a :: (xs.filter f).drop (i + 1) := by
    rw [← ha, ← List.drop_eq_getElem_cons hi, List.take_append_drop]
  obtain ⟨front, back, rfl, hfront, hback⟩ := List.filter_eq_append_iff.1 chosen
  obtain ⟨between, after, rfl, none, -, -⟩ := List.filter_eq_cons_iff.1 hback
  refine ⟨front ++ between, after, (List.append_assoc ..).symm, ?_⟩
  rw [List.countP_append, List.countP_eq_length_filter, hfront, List.length_take_of_le hi.le,
    List.countP_eq_zero.2 none, Nat.add_zero]

theorem split_taken {before after : List (Delivery × Item)}
    (h : handings q (past as) (lane q as) = before ++ (d, x) :: after) :
    (lane q as).taken = before.map (·.2) ++ x :: after.map (·.2) := by
  rw [← snd_handings, h, List.map_append, List.map_cons]

/-- What was delivered is the letter's, with the number of the turn in 32 bits. -/
theorem turn_count (h : (turns q p as)[i]? = some d) :
    d.count = UInt32.ofNat (i + 1) ∧ (accepted q (past as))[p]? = some d.letter := by
  rw [turns, List.getElem?_map] at h
  obtain ⟨⟨d, x⟩, hx, rfl⟩ := Option.map_eq_some_iff.1 h
  obtain rfl : x.place = p := of_decide_eq_true (List.mem_filter.1 (List.mem_of_getElem? hx)).2
  obtain ⟨before, after, whole, hi⟩ := split_of_filter hx
  obtain ⟨sent, htimes⟩ := (orderly q as).tallied _ x _ (split_taken whole)
  have given : (deliveries q (past as))[before.length]? = some d := by simp [← fst_handings, whole]
  have taken : (lane q as).taken[before.length]? = some x := by simp [← snd_handings, whole]
  obtain ⟨y, hy, letter, count⟩ := taken_of_delivery given
  obtain rfl := Option.some.inj (taken.symm.trans hy)
  rw [List.countP_map] at htimes
  constructor
  · rw [count, htimes, ← hi]
    rfl
  · rw [← (tracks q as).sent, sent, letter]

theorem turn_of_delivery (h : d ∈ deliveries q (past as)) : ∃ p, d ∈ turns q p as := by
  rw [← fst_handings] at h
  obtain ⟨⟨d, x⟩, hx, rfl⟩ := List.mem_map.1 h
  exact ⟨x.place, mem_turns.2 ⟨x, hx, rfl⟩⟩

theorem turn_of_sole (h : d ∈ deliveries q (past as)) (one : (accepted q (past as)).length = 1) :
    d ∈ turns q 0 as := by
  obtain ⟨p, hp⟩ := turn_of_delivery h
  obtain ⟨i, hi⟩ := List.mem_iff_getElem?.1 hp
  obtain ⟨hlt, -⟩ := List.getElem?_eq_some_iff.1 (turn_count hi).2
  obtain rfl : p = 0 := by omega
  exact hp

/-- What was acked or became a dead letter has had its last turn. -/
theorem last_turn {e : Event} (he : e ∈ past as) (last : e.last? = some u) (hd : told u ∈ turns q p as) :
    (turns q p as).getLast? = some (told u) := by
  have made : ∀ {c z}, (c, z) ∈ handings q (past as) (lane q as) → c ∈ deliveries q (past as) := by
    intro c z hc
    rw [← fst_handings]
    exact List.mem_map_of_mem hc
  obtain ⟨y, hy, rfl⟩ := mem_turns.1 hd
  obtain ⟨s, hs, rfl⟩ := mem_deliveries_iff.1 (made hy)
  obtain ⟨r, hr, -, hq, -⟩ := (run_after as).ended_origin he (Event.entry_of_last last)
  obtain ⟨rfl, -⟩ := (run_after as).delivered_unique hr hs rfl
  obtain ⟨x, gone, d, hx, tag⟩ := (linked r.queue as).gone e he u last hq.symm
  have distinct : ((deliveries r.queue (past as)).map (·.tag)).Nodup :=
    List.pairwise_map.2 ((deliveries_rising r.queue as).imp Nat.ne_of_lt)
  obtain rfl : d = told u := List.inj_on_of_nodup_map distinct (made hx) (made hy) tag
  obtain rfl := handings_unique hx hy
  obtain ⟨before, after, whole⟩ := List.append_of_mem hx
  -- the count of what is gone is the number of all turns
  have all := (orderly r.queue as).counted x (List.mem_append_right _ gone)
  have upto := ((orderly r.queue as).tallied _ x _ (split_taken whole)).2
  rw [split_taken whole, List.countP_append, List.countP_cons, List.countP_map, List.countP_map] at all
  rw [List.countP_map] at upto
  have none : after.countP ((fun y : Item => decide (y.place = x.place)) ∘ (·.2)) = 0 := by
    simp only [decide_true, if_true] at all
    omega
  have rest : after.filter (·.2.place = x.place) = [] :=
    List.filter_eq_nil_iff.2 fun z hz => List.countP_eq_zero.1 none z hz
  rw [turns, whole, List.filter_append, List.filter_cons_of_pos (by simp), rest]
  simp

end Turns

section Later

/-! Turns come after those that have been. -/

theorem past_append (as bs : List Act) : past (as ++ bs) = past as ++ (outcomes (after as) bs).flatten := by
  rw [past, outcomes_append, List.flatten_append]
  rfl

theorem accepted_append (q : String) (es fs : List Event) :
    accepted q (es ++ fs) = accepted q es ++ accepted q fs := List.filterMap_append

theorem Lane.taken_step (q : String) (l : Lane) (e : Event) : l.taken <+: (l.step q e).taken := by
  cases e with
  | sent r m =>
    simp only [step]
    split <;> exact List.prefix_rfl
  | delivered s d =>
    simp only [step]
    split
    · exact List.prefix_append _ _
    · exact List.prefix_rfl
  | rejected u k => cases k <;> exact List.prefix_rfl
  | acked u | restored u => exact List.prefix_rfl

theorem Lane.taken_advance (q : String) (l : Lane) (es : List Event) : l.taken <+: (l.advance q es).taken := by
  induction es with
  | nil => exact List.prefix_rfl
  | cons e es ih => exact ih.trans ((l.advance q es).taken_step q e)

theorem turns_snoc (q : String) (p : Nat) (as : List Act) (a : Act) :
    turns q p as <+: turns q p (as ++ [a]) := by
  obtain ⟨more, taken⟩ := (lane q as).taken_advance q ((after as).events a)
  have grown : handings q (past (as ++ [a])) (lane q (as ++ [a])) = handings q (past as) (lane q as) ++
      (deliveries q ((after as).events a)).zip more := by
    rw [handings, past_snoc, lane_snoc, deliveries_append, ← taken, List.zip_append (length_deliveries q as)]
    rfl
  rw [turns, turns, grown, List.filter_append, List.map_append]
  exact List.prefix_append _ _

theorem turns_append (q : String) (p : Nat) (as bs : List Act) : turns q p as <+: turns q p (as ++ bs) := by
  induction bs using List.reverseRecOn with
  | nil => exact (List.append_nil as).symm ▸ List.prefix_rfl
  | append_singleton bs b ih =>
    rw [← List.append_assoc]
    exact ih.trans (turns_snoc q p _ b)

theorem turns_over {bs : List Act} (h : (turns q p as).getLast? = some d)
    (still : (turns q p (as ++ bs)).getLast? = some d) : turns q p (as ++ bs) = turns q p as := by
  obtain ⟨more, grown⟩ := turns_append q p as bs
  have rising := turns_rising q p (as ++ bs)
  rw [← grown] at still rising ⊢
  cases more with
  | nil => exact List.append_nil _
  | cons c more =>
    rw [List.getLast?_append_cons] at still
    have last := (List.pairwise_append.1 rising).2.2 d (List.mem_of_getLast? h) d (List.mem_of_getLast? still)
    exact absurd last (Nat.lt_irrefl _)

end Later

end QueueProbe.Broker
