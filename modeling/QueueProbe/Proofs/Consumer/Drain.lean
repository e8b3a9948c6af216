import QueueProbe.Proofs.Consumer.Steps

/-! Draining a queue. A consumer that gives a body up after so many failed deliveries comes to rest
once every good letter was delivered once and every bad one that often, however sending and working
take turns. What is kept, what is lost and all counts depend on the letters alone. -/

namespace QueueProbe

variable {K V : Type} [DecidableEq K] {s : Site K V} {life : Nat} {w : Bench K V} {c : Course}
  {sent : List Letter} {n togo : Nat}

/-- A consumer on channel `c` over a broker, before it is started, with letters sent to `q`. -/
def Bench.awaiting (b : Broker) (c d : ChannelId) (q : String) (prefetch : Nat) (early : List Letter) :
    Bench K V :=
  early.foldl (fun w l => (w.send d q l.body l.properties).2)
    (({ broker := b } : Bench K V).newStore.2.newConsumer c 0 prefetch).2

/-- The policy gives a body up at its delivery number `life`. -/
def Site.GivesUpAt (s : Site K V) (life : Nat) : Prop :=
  ∀ n < life, s.filing.policy.keeps (UInt32.ofNat (n + 1)).toNat = decide (n + 1 < life)

/-- A bench on course, with so many steps of its worker to go. -/
def OnCourse (s : Site K V) (life : Nat) (w : Bench K V) (sent : List Letter) (togo : Nat) : Prop :=
  ∃ c n, Serving s life w c n ∧ c.Fair s.good life ∧ c.sent = sent ∧ 3 * c.left s.good life = togo + n

theorem OnCourse.serving (h : OnCourse s life w sent togo) : ∃ c n, Serving s life w c n := by
  obtain ⟨c, n, hs, -⟩ := h
  exact ⟨c, n, hs⟩

theorem OnCourse.post (h : OnCourse s life w sent togo) (hlife : 0 < life) (l : Letter) :
    ∃ more, OnCourse s life (w.send s.sender s.filing.queue l.body l.properties).2 (sent ++ [l]) more := by
  obtain ⟨c, n, hs, hf, rfl, ht⟩ := h
  refine ⟨togo + 3 * Course.due s.good life ⟨c.sent.length, l, 0⟩, c.post l, n, (hs.post l).2,
    hf.post hlife l, rfl, ?_⟩
  simp only [Course.left, Course.post, List.map_append, List.sum_append, List.map_cons, List.map_nil,
    List.sum_cons, List.sum_nil] at ht ⊢
  omega

/-- The steps to go are at most three for each delivery that the letters are worth. -/
theorem OnCourse.togo_le (h : OnCourse s life w sent togo) :
    togo ≤ 3 * (sent.countP s.good + sent.countP (fun l => !s.good l) * life) := by
  obtain ⟨c, n, -, hf, rfl, ht⟩ := h
  have := hf.owed
  omega

theorem Awaiting.posts (h : Awaiting s w c) (hf : c.Fair s.good life) (hlife : 0 < life)
    (ls : List Letter) : ∃ c', c'.Fair s.good life ∧ c'.sent = c.sent ++ ls ∧
      Awaiting s (ls.foldl (fun w l => (w.send s.sender s.filing.queue l.body l.properties).2) w) c' := by
  induction ls generalizing w c with
  | nil => exact ⟨c, hf, (List.append_nil _).symm, h⟩
  | cons l ls ih =>
    obtain ⟨c', hf', hs, h'⟩ := ih (h.post l) (hf.post hlife l)
    exact ⟨c', hf', by simpa [Course.post] using hs, h'⟩

variable [Debug K]

def Bench.turn (d : ChannelId) (q : String) (w : Bench K V) : Option Letter → Bench K V
  | some l => (w.send d q l.body l.properties).2
  | none => w.step.getD w

/-- How the first consumer of a bench leaves queue `q` once it was sent so many good and bad letters:
the good ones are filed as messages, and a bad one is given up at its delivery number `life`. -/
structure AtRest (w : Bench K V) (q : String) (filed : Letter → Option (K × Message V)) (life : Nat)
    (sent : List Letter) (base good bad : Nat) : Prop where
  still : w.step = none
  ready : w.broker.readyOf q = []
  unacked : w.broker.unackedOf q = []
  lost : (w.broker.deadOf q).map Envelope.letter = sent.filter fun l => (filed l).isNone
  store : w.storeOf 0 = Store.ofPuts (sent.filterMap filed)
  deliveries : w.broker.lastTag = base + (good + bad * life)
  stats : w.statsOf 0 = {
    delivered := good + bad * life
    stored := good
    rejected := bad * (life - 1)
    deadLettered := bad
    transportFailures := 0 }

namespace OnCourse

/-- Each step of the worker is one step less to go, and it waits only when none is left. The policy
has no say unless there is a bad letter. -/
theorem advance (h : OnCourse s life w sent togo)
    (policy : ∀ l ∈ sent, s.good l = false → s.GivesUpAt life) :
    (∃ w' less, w.step = some w' ∧ OnCourse s life w' sent less ∧ togo = less + 1) ∨
    (w.step = none ∧ ∃ c, Serving s life w c 0 ∧ c.Fair s.good life ∧ c.sent = sent ∧ c.line = []) := by
  obtain ⟨c, n, hs, hf, rfl, ht⟩ := h
  cases hl : c.line with
  | nil =>
    obtain ⟨rfl, hw⟩ := hs.rest hl
    exact Or.inr ⟨hw, c, hs, hf, rfl, hl⟩
  | cons x rest =>
    left
    have hleft := hf.left_next (by simp [hl])
    obtain ⟨w', hw, h' | ⟨rfl, h'⟩⟩ := hs.step
      (fun y hy bad => policy y.letter (hf.mem_sent hy) bad y.count (hf.alive y hy)) hl
    · have hn : n + 1 ≤ 2 := by cases h' <;> decide
      exact ⟨w', togo - 1, hw, ⟨c, n + 1, h', hf, rfl, by omega⟩, by omega⟩
    · exact ⟨w', togo - 1, hw, ⟨_, 0, h', hf.next, Course.sent_next _, by omega⟩, by omega⟩

theorem step (h : OnCourse s life w sent togo)
    (policy : ∀ l ∈ sent, s.good l = false → s.GivesUpAt life) :
    ∃ more, OnCourse s life (w.step.getD w) sent more := by
  rcases h.advance policy with ⟨w', less, hw, h', -⟩ | ⟨hw, -⟩
  · exact ⟨less, by rw [hw]; exact h'⟩
  · exact ⟨togo, by rw [hw]; exact h⟩

theorem turn (h : OnCourse s life w sent togo) (hlife : 0 < life) (policy : s.GivesUpAt life)
    (t : Option Letter) :
    ∃ more, OnCourse s life (w.turn s.sender s.filing.queue t) (sent ++ t.toList) more := by
  cases t with
  | some l => exact h.post hlife l
  | none =>
    rw [Option.toList_none, List.append_nil]
    exact h.step fun _ _ _ => policy

theorem turns (h : OnCourse s life w sent togo) (hlife : 0 < life) (policy : s.GivesUpAt life)
    (ts : List (Option Letter)) : ∃ more,
      OnCourse s life (ts.foldl (Bench.turn s.sender s.filing.queue) w) (sent ++ ts.filterMap id) more := by
  induction ts generalizing w sent togo with
  | nil => exact ⟨togo, by simpa using h⟩
  | cons t ts ih =>
    obtain ⟨more, h'⟩ := h.turn hlife policy t
    obtain ⟨more, h'⟩ := ih h'
    refine ⟨more, ?_⟩
    cases t <;> simpa using h'

/-- Left to itself for long enough, the worker gets to the end of the line. -/
theorem rests (h : OnCourse s life w sent togo)
    (policy : ∀ l ∈ sent, s.good l = false → s.GivesUpAt life) {fuel : Nat} (hf : togo ≤ fuel) :
    (w.run fuel).step = none ∧
      ∃ c, Serving s life (w.run fuel) c 0 ∧ c.Fair s.good life ∧ c.sent = sent ∧ c.line = [] := by
  induction fuel generalizing w togo with
  | zero =>
    rcases h.advance policy with ⟨w', less, -, -, rfl⟩ | hrest
    · omega
    · exact hrest
  | succ fuel ih =>
    rcases h.advance policy with ⟨w', less, hw, h', rfl⟩ | hrest
    · rw [Bench.run, hw]
      exact ih h' (by omega)
    · rw [Bench.run, hrest.1]
      exact hrest

theorem run (h : OnCourse s life w sent togo) (policy : s.GivesUpAt life) {fuel : Nat} (hf : togo ≤ fuel) :
    (w.run fuel).step = none ∧
      ∃ c, Serving s life (w.run fuel) c 0 ∧ c.Fair s.good life ∧ c.sent = sent ∧ c.line = [] :=
  h.rests (fun _ _ _ => policy) hf

end OnCourse

theorem Serving.atRest (h : Serving s life w c 0) (hf : c.Fair s.good life) (empty : c.line = [])
    (still : w.step = none) : AtRest w s.filing.queue (filedAs s.filing.decoder s.filing.key) life c.sent
      s.base (c.sent.countP s.good) (c.sent.countP fun l => !s.good l) := by
  obtain ⟨stock, free, tags, staff⟩ := h
  have hkept : c.sent.filter s.good = c.kept := by simpa [empty] using hf.keeping
  have hlost : c.sent.filter (fun l => !s.good l) = c.lost := by
    obtain ⟨rest, -, hp, hs⟩ := hf.losing
    simp only [Course.bads, empty, List.filter_nil, List.map_nil, List.perm_nil] at hp
    simpa [hp] using hs
  have howed := hf.owed
  have hreturned := hf.returned
  simp only [Course.left, Course.bads, empty, List.filter_nil, List.map_nil, List.sum_nil,
    Nat.add_zero, Nat.zero_add] at howed hreturned
  have hputs : s.puts c.kept = c.sent.filterMap (filedAs s.filing.decoder s.filing.key) := by
    rw [← hkept, Site.puts, List.filterMap_filter]
    refine List.filterMap_congr fun l _ => ?_
    cases hl : filedAs s.filing.decoder s.filing.key l <;> simp [Site.good, hl]
  exact {
    still
    ready := by simpa [empty] using stock.ready
    unacked := free
    lost := by
      rw [stock.dead, ← hlost]
      exact List.filter_congr fun l _ => by simp [Site.good]
    store := by simp [Bench.storeOf, staff.books, staff.store, hputs]
    deliveries := by rw [tags, howed]
    stats := by
      rw [List.countP_eq_length_filter, List.countP_eq_length_filter, hkept, hlost] at *
      simp [Bench.statsOf, staff.books, Course.stats, howed, hreturned] }

omit [DecidableEq K] [Debug K] in
theorem Site.givesUpAt_limit {limit : UInt32} (h : s.filing.policy = .deadLetterAfter limit.toNat) :
    s.GivesUpAt (max limit.toNat 1) := by
  intro n hn
  have hl := limit.toNat_lt
  have hm : (n + 1) % 2 ^ 32 = n + 1 := Nat.mod_eq_of_lt (by omega)
  simp only [h, FailurePolicy.keeps, UInt32.toNat_ofNat', hm]
  exact decide_eq_decide.2 (by omega)

omit [Debug K] in
theorem awaiting_start {es : List Broker.Event} {b : Broker} (run : Broker.Run es b)
    (up : b.connected = true) (opened : b.isClosed s.channel = false) (sending : b.isClosed s.sender = false)
    (new : b.queue? s.filing.queue = some { name := s.filing.queue })
    (free : b.unackedOf s.filing.queue = []) (first : s.filing.consumer = 0)
    (tag : s.tag = Broker.consumerTag b.nextConsumer) (base : s.base = b.lastTag) {prefetch : Nat}
    (fixed : s.prefetch = if prefetch = 0 then Bench.defaultPrefetch else prefetch) :
    Awaiting s (({ broker := b } : Bench K V).newStore.2.newConsumer s.channel 0 prefetch).2 {} := by
  have hb : (({ broker := b } : Bench K V).newStore.2.newConsumer s.channel 0 prefetch).2.broker = b := by
    unfold Bench.newConsumer
    dsimp only
    split <;> rfl
  refine ⟨?_, ?_, by rw [hb]; exact free, by rw [hb, base]; rfl, by rw [hb]; exact tag⟩
  · rw [hb]
    exact {
      up, opened, sending
      awake := tag ▸ run.awake
      sound := run.sound
      known := by rw [Broker.hasQueue_eq, new]; rfl
      subscribed := by
        refine List.find?_eq_none.2 fun r hr => ?_
        simpa [tag] using run.sound.fresh r hr
      ready := by simp [Broker.readyOf, new]
      dead := by simp [Broker.deadOf, new] }
  · refine ⟨first, ?_, ?_, ?_, ?_, ?_⟩
    all_goals
      unfold Bench.newConsumer
      dsimp only
      split <;> simp_all [Bench.newStore, Bench.note, Course.stats, Store.ofPuts, Site.puts]

/-- However letters are sent to a queue that was empty, before its only consumer starts and between
the steps of its worker, the worker comes to rest when it is left to itself. Then each letter that
can be filed was delivered once and each other one as often as the limit says, at least once; the
store holds what was filed, last write wins, and the dead letters are the others as they were sent. -/
theorem drained {es : List Broker.Event} {b : Broker} (run : Broker.Run es b)
    {c d : ChannelId} {q : String} (up : b.connected = true) (opened : b.isClosed c = false)
    (sending : b.isClosed d = false) (new : b.queue? q = some { name := q }) (free : b.unackedOf q = [])
    (prefetch : Nat) (decoder : Decoder V) (key : KeyFn K V) (limit : UInt32)
    (early : List Letter) (turns : List (Option Letter)) :
    let sent := early ++ turns.filterMap id
    let good := sent.countP fun l => (filedAs decoder key l).isSome
    let bad := sent.countP fun l => (filedAs decoder key l).isNone
    let life := max limit.toNat 1
    ∃ handle w, (Bench.awaiting b c d q prefetch early).start 0 q decoder key
        (.deadLetterAfter limit.toNat) none = (.ok handle, w) ∧
      ∀ fuel, 3 * (good + bad * life) ≤ fuel →
        AtRest ((turns.foldl (Bench.turn d q) w).run fuel) q (filedAs decoder key) life sent b.lastTag
          good bad := by
  intro sent good bad life
  let s : Site K V := {
    filing := ⟨0, q, decoder, key, .deadLetterAfter limit.toNat⟩
    channel := c
    sender := d
    tag := Broker.consumerTag b.nextConsumer
    prefetch := if prefetch = 0 then Bench.defaultPrefetch else prefetch
    base := b.lastTag }
  have hlife : 0 < life := Nat.lt_of_lt_of_le Nat.one_pos (Nat.le_max_right _ _)
  have policy : s.GivesUpAt life := Site.givesUpAt_limit rfl
  have hawait : Awaiting s _ {} := awaiting_start run up opened sending new free rfl rfl rfl rfl
  obtain ⟨c₀, hf, hs, h⟩ := hawait.posts .start hlife early
  obtain ⟨w, hw, hserve⟩ := h.start
  have hcourse : OnCourse s life w early (3 * c₀.left s.good life) :=
    ⟨c₀, 0, hserve, hf, by simpa using hs, rfl⟩
  obtain ⟨togo, h⟩ := hcourse.turns hlife policy turns
  refine ⟨_, w, hw, fun fuel hfuel => ?_⟩
  have hgood : good = sent.countP s.good := rfl
  have hbad : bad = sent.countP fun l => !s.good l :=
    List.countP_congr fun l _ => by simp [Site.good, s]
  have htogo := h.togo_le
  rw [← hbad, ← hgood] at htogo
  obtain ⟨still, c₁, hserve, hf, hsent, empty⟩ := h.run policy (htogo.trans hfuel)
  have hrest := hserve.atRest hf empty still
  rw [hsent, ← hbad, ← hgood] at hrest
  exact hrest

/-- Of three letters the second has no key; the third, sent while the worker holds the first, is filed
over it. -/
theorem drained_overwriting : ∃ handle w,
    (Bench.awaiting ((({} : Broker).act .openChannel).act (.declare "jobs")) ⟨1⟩ ⟨1⟩ "jobs" 1
      [⟨[1], { messageId := some "a" }⟩, ⟨[2], {}⟩]).start 0 "jobs" Codec.bytesDecoder Codec.byMessageId
        (.deadLetterAfter 2) none = (.ok handle, w) ∧
    AtRest (([none, some ⟨[3], { messageId := some "a" }⟩].foldl (Bench.turn ⟨1⟩ "jobs") w).run 12) "jobs"
      (filedAs Codec.bytesDecoder Codec.byMessageId) 2
      [⟨[1], { messageId := some "a" }⟩, ⟨[2], {}⟩, ⟨[3], { messageId := some "a" }⟩] 0 2 1 ∧
    (([none, some ⟨[3], { messageId := some "a" }⟩].foldl (Bench.turn ⟨1⟩ "jobs") w).run 12).storeOf 0 =
      ⟨[("a", ⟨[3], { messageId := some "a" }⟩)]⟩ := by
  have run : Broker.Run _ ((({} : Broker).act .openChannel).act (.declare "jobs")) :=
    .snoc (.declare "jobs") (.snoc .openChannel .nil)
  obtain ⟨handle, w, hw, h⟩ := drained run (c := ⟨1⟩) (d := ⟨1⟩) (q := "jobs") rfl rfl rfl
    (by decide) rfl 1 Codec.bytesDecoder Codec.byMessageId 2
    [⟨[1], { messageId := some "a" }⟩, ⟨[2], {}⟩] [none, some ⟨[3], { messageId := some "a" }⟩]
  have hrest := h 12 (by decide)
  exact ⟨handle, w, hw, hrest, hrest.store⟩

end QueueProbe
