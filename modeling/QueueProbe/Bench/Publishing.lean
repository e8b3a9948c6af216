import QueueProbe.Bench.Channel

/-! Publishing a batch. Members of a crew claim the messages one after another by a shared counter;
whoever holds one encodes and sends it. A schedule says who moves when: every way of interleaving
their claims and sends is one, and the crew ends up the same after each. A member whose encoder or
send panics falls, and claims no more. Where there are too few threads for the crew, those members
that were started publish the whole batch, and the answer is an error all the same. -/

namespace QueueProbe

structure Publisher (V : Type) where
  channel : ChannelId
  encoder : Encoder V
  parallelism : Nat

namespace Publisher

variable {V : Type}

def defaultParallelism : Nat := 4

def make (c : ChannelId) (encoder : Encoder V) : Publisher V := ⟨c, encoder, defaultParallelism⟩

/-- There is always at least one to do the work. -/
def withParallelism (p : Publisher V) (n : Nat) : Publisher V := { p with parallelism := max n 1 }

instance : Debug (Publisher V) where
  debug p := Text.record "MessagePublisher"
    [("channel", debug p.channel), ("parallelism", debug p.parallelism)]

end Publisher

inductive Hand where
  | free
  | holding (index : Nat)
  | done
  | fallen (why : Panic)
deriving DecidableEq, Repr

/-- What was sent, and the failure at the smallest index. -/
structure Tally where
  sent : Nat := 0
  firstError : Option (Nat × QueueError) := none
deriving DecidableEq, Repr

namespace Tally

def success (t : Tally) : Tally := { t with sent := t.sent + 1 }

def failure (t : Tally) (index : Nat) (e : QueueError) : Tally :=
  match t.firstError with
  | some (seen, _) => if seen ≤ index then t else { t with firstError := some (index, e) }
  | none => { t with firstError := some (index, e) }

def merge (t u : Tally) : Tally :=
  let both := { t with sent := t.sent + u.sent }
  match u.firstError with
  | some (index, e) => both.failure index e
  | none => both

end Tally

structure Member where
  hand : Hand := .free
  tally : Tally := {}
deriving DecidableEq, Repr

structure Crew where
  /-- The index claimed next. -/
  next : Nat := 0
  members : List Member
deriving DecidableEq, Repr

namespace Crew

def ofSize (n : Nat) : Crew := { members := List.replicate n {} }

def isAtWork (m : Member) : Bool :=
  match m.hand with
  | .free | .holding _ => true
  | .done | .fallen _ => false

def firstAtWork (c : Crew) : Option Nat := c.members.findIdx? isAtWork

def falls (c : Crew) : List Panic :=
  c.members.filterMap fun m => match m.hand with | .fallen p => some p | _ => none

def tally (c : Crew) : Tally := c.members.foldl (fun t m => t.merge m.tally) {}

def setMember (c : Crew) (i : Nat) (m : Member) : Crew := { c with members := c.members.set i m }

end Crew

namespace Bench

variable {K V : Type}

def sendMessage (w : Bench K V) (p : Publisher V) (queue : String) (m : Message V) :
    Outcome QueueError Unit × Bench K V :=
  match p.encoder m.content with
  | .error e => (.error (.encode e), w)
  | .panic q => (.panic q, w)
  | .ok body =>
    let w := w.note (.trace ("publishing " ++ toString body.length ++ " bytes to " ++ queue))
    match w.send p.channel queue body m.properties with
    | (a, w') => (a.mapError .ofBroker, w')

/-- Member `i` makes its next move: it claims a message, or sends the one it holds. -/
def crewStep (p : Publisher V) (queue : String) (batch : List (Message V)) (s : Crew × Bench K V)
    (i : Nat) : Crew × Bench K V :=
  match s.1.members[i]? with
  | none => s
  | some m =>
    match m.hand with
    | .done | .fallen _ => s
    | .free =>
      let hand := if s.1.next < batch.length then Hand.holding s.1.next else .done
      ({ s.1.setMember i { m with hand } with next := s.1.next + 1 }, s.2)
    | .holding index =>
      match batch[index]? with
      | none => (s.1.setMember i { m with hand := .done }, s.2)
      | some message =>
        match s.2.sendMessage p queue message with
        | (.ok (), w) => (s.1.setMember i { hand := .free, tally := m.tally.success }, w)
        | (.error e, w) => (s.1.setMember i { hand := .free, tally := m.tally.failure index e }, w)
        | (.panic q, w) => (s.1.setMember i { m with hand := .fallen q }, w)

/-- The first member at work moves until nobody is, or `fuel` moves are made. -/
def finishCrew (p : Publisher V) (queue : String) (batch : List (Message V)) :
    Nat → Crew × Bench K V → Crew × Bench K V
  | 0, s => s
  | fuel + 1, s =>
    match s.1.firstAtWork with
    | some i => finishCrew p queue batch fuel (crewStep p queue batch s i)
    | none => s

/-- Moves as the schedule says, and then in turn what is left: at most two moves a message, and one
more for each member. -/
def runCrew (p : Publisher V) (queue : String) (batch : List (Message V)) (workers : Nat)
    (schedule : List Nat) (w : Bench K V) : Crew × Bench K V :=
  finishCrew p queue batch (2 * batch.length + workers)
    (schedule.foldl (crewStep p queue batch) (Crew.ofSize workers, w))

/-- One worker's panic is its caller's. Of several workers one may fall and is reported; when a
second has fallen the call itself panics. -/
def publishVerdict (queue : String) (batch workers : Nat) (c : Crew) :
    Outcome QueueError Nat × List Note :=
  match c.falls with
  | [] =>
    match c.tally with
    | ⟨sent, some (index, e)⟩ =>
      (.error e, [.warn ("published " ++ toString sent ++ " of " ++ toString batch ++
        " messages to " ++ queue ++ "; message " ++ toString index ++ " failed: " ++ e.message)])
    | ⟨sent, none⟩ => (.ok sent, [])
  | [p] => if workers = 1 then (.panic p, []) else (.error (.transport "publisher thread panicked"), [])
  | _ => (.panic (.message "a scoped thread panicked"), [])

/-- If a worker could not be started, those that were are waited for, but not asked. -/
def publishAnswer (queue : String) (batch workers : Nat) (lack : Option Shortage) (c : Crew) :
    Outcome QueueError Nat × List Note :=
  match lack with
  | none => publishVerdict queue batch workers c
  | some lack =>
    if c.falls.isEmpty then (.error (.transport ("cannot start publisher thread: " ++ lack.why)), [])
    else (.panic (.message "a scoped thread panicked"), [])

/-- What keeps so many workers from being started; one alone works in its caller's thread. -/
def short (w : Bench K V) (workers : Nat) : Option Shortage := w.lack (if workers = 1 then 0 else workers)

/-- How many of so many workers are started, one after another. -/
def crewSize (w : Bench K V) (workers : Nat) : Nat :=
  match w.short workers with
  | none => workers
  | some lack => lack.threads

/-- Publishes a batch with at most `parallelism` workers, interleaved as `schedule` says. -/
def publishWith (w : Bench K V) (p : Publisher V) (queue : String) (batch : List (Message V))
    (parallelism : Nat) (schedule : List Nat) : Outcome QueueError Nat × Bench K V :=
  if batch.isEmpty then (.ok 0, w)
  else
    let workers := min parallelism batch.length
    let w := w.note (.debug ("publishing " ++ toString batch.length ++ " messages to " ++ queue ++
      " with " ++ toString workers ++ " workers"))
    let s := runCrew p queue batch (w.crewSize workers) schedule w
    let v := publishAnswer queue batch.length workers (w.short workers) s.1
    (v.1, { s.2 with journal := s.2.journal ++ v.2 })

def publish (w : Bench K V) (p : Publisher V) (queue : String) (batch : List (Message V))
    (schedule : List Nat) : Outcome QueueError Nat × Bench K V :=
  w.publishWith p queue batch p.parallelism schedule

def publishValues (w : Bench K V) (p : Publisher V) (queue : String) (values : List V)
    (schedule : List Nat) : Outcome QueueError Nat × Bench K V :=
  w.publish p queue (values.map fun v => ⟨v, {}⟩) schedule

def publishSequential (w : Bench K V) (p : Publisher V) (queue : String)
    (batch : List (Message V)) : Outcome QueueError Nat × Bench K V :=
  w.publishWith p queue batch 1 []

end Bench
end QueueProbe
