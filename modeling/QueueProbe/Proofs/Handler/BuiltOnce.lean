import QueueProbe.Bench.Sharing
import QueueProbe.Proofs.Handler.Lasting
import QueueProbe.Proofs.Handler.Lifecycle

/-! A shared handler is built once. Whoever asks for it before a build has succeeded has one made, and is told
if it fails. The first build that succeeds is the last: everybody gets that handler from then on, whatever
is done to it meanwhile. -/

namespace QueueProbe

variable {K V : Type} [DecidableEq K] [Debug K]

/-- A way to build a handler. It works on the bench like anybody else; what it has built, is there. -/
structure Factory (K V : Type) [DecidableEq K] [Debug K] where
  run : Bench K V → Except QueueError Nat × Bench K V
  works : ∀ w, Bench.Meanwhile w (run w).2
  builds : ∀ {w n}, (run w).1 = .ok n → ∃ h, (run w).2.handlers[n]? = some h

def Factory.ofPlan (plan : Bench K V → HandlerPlan K V) : Factory K V where
  run w := w.build (plan w)
  works w := .befell (.build (plan w)) trivial .nothing
  builds {w n} hr := by
    unfold Bench.build at hr ⊢
    cases hp : (plan w).complete w.consumers.length with
    | error e =>
      rw [hp] at hr
      cases hr
    | ok h =>
      rw [hp] at hr
      cases hr
      exact ⟨h, by simp [Bench.note]⟩

namespace Shared

variable {s : Shared} {w : Bench K V} {n : Nat} {e : QueueError}
  {factory : Bench K V → Except QueueError Nat × Bench K V}

omit [DecidableEq K] [Debug K] in
theorem get_full (full : s.built = some n) : s.get factory w = (.ok n, s, w) := by
  unfold get
  simp only [full]

omit [DecidableEq K] [Debug K] in
theorem get_fails (empty : s.built = none)
    (fails : (factory (w.note (.debug "building shared queue handler"))).1 = .error e) :
    s.get factory w = (.error e, ⟨none, s.runs + 1⟩,
      let left := (factory (w.note (.debug "building shared queue handler"))).2
      { left with journal := left.journal ++ reportError e "building shared queue handler" }) := by
  unfold get
  rcases hf : factory (w.note (.debug "building shared queue handler")) with ⟨_ | _, w'⟩ <;>
    rw [hf] at fails <;> cases fails
  simp only [empty]

omit [DecidableEq K] [Debug K] in
theorem get_builds (empty : s.built = none)
    (builds : (factory (w.note (.debug "building shared queue handler"))).1 = .ok n) :
    s.get factory w = (.ok n, ⟨some n, s.runs + 1⟩,
      (factory (w.note (.debug "building shared queue handler"))).2) := by
  unfold get
  rcases hf : factory (w.note (.debug "building shared queue handler")) with ⟨_ | _, w'⟩ <;>
    rw [hf] at builds <;> cases builds
  simp only [empty]

end Shared

/-- Somebody asks for the shared handler: the factory that would build it, and what there is when he asks. -/
structure Visit (K V : Type) [DecidableEq K] [Debug K] where
  factory : Factory K V
  cell : Shared
  bench : Bench K V

namespace Visit

def attempt (v : Visit K V) : Except QueueError Nat × Bench K V :=
  v.factory.run (v.bench.note (.debug "building shared queue handler"))

def answer (v : Visit K V) : Except QueueError Nat := (v.cell.get v.factory.run v.bench).1

def cellAfter (v : Visit K V) : Shared := (v.cell.get v.factory.run v.bench).2.1

def benchAfter (v : Visit K V) : Bench K V := (v.cell.get v.factory.run v.bench).2.2

structure Fails (v : Visit K V) (e : QueueError) : Prop where
  attempt : v.attempt.1 = .error e
  answer : v.answer = .error e
  before : v.cell.isInitialised = false
  after : v.cellAfter.isInitialised = false
  ran : v.cellAfter.runs = v.cell.runs + 1
  left : v.benchAfter = { v.attempt.2 with
    journal := v.attempt.2.journal ++ reportError e "building shared queue handler" }

structure Builds (v : Visit K V) (n : Nat) : Prop where
  attempt : v.attempt.1 = .ok n
  answer : v.answer = .ok n
  before : v.cell.isInitialised = false
  after : v.cellAfter.isInitialised = true
  ran : v.cellAfter.runs = v.cell.runs + 1
  left : v.benchAfter = v.attempt.2

/-- Handler `n` is there already. No factory has any part in the answer, so none is run. -/
structure Finds (v : Visit K V) (n : Nat) : Prop where
  answer : v.answer = .ok n
  before : v.cell.isInitialised = true
  after : v.cellAfter = v.cell
  idle : ∀ factory, v.cell.get factory v.bench = (.ok n, v.cell, v.bench)

end Visit

/-- Visits from bench `w₀` on, with anything between them. -/
inductive Visits (w₀ : Bench K V) : List (Visit K V) → Shared → Bench K V → Prop where
  | nil : Visits w₀ [] {} w₀
  | snoc {vs : List (Visit K V)} {s : Shared} {w w' : Bench K V} (f : Factory K V) (past : Visits w₀ vs s w)
      (between : Bench.Meanwhile w w') : Visits w₀ (vs ++ [⟨f, s, w'⟩])
        (Visit.cellAfter ⟨f, s, w'⟩) (Visit.benchAfter ⟨f, s, w'⟩)

def SameHandler (n : Nat) (w w' : Bench K V) : Prop :=
  ∃ h h', w.handlers[n]? = some h ∧ w'.handlers[n]? = some h' ∧ h.Ages h'

/-- How visits go. Each fails until one builds the handler, and all later ones find that. -/
inductive BuiltOnce : List (Visit K V) → Shared → Bench K V → Prop where
  | unbuilt {fails : List (Visit K V)} (failed : ∀ v ∈ fails, ∃ e, v.Fails e) (w : Bench K V) :
      BuiltOnce fails ⟨none, fails.length⟩ w
  | built {fails later : List (Visit K V)} {first : Visit K V} {n : Nat}
      (failed : ∀ v ∈ fails, ∃ e, v.Fails e) (builds : first.Builds n) (finds : ∀ v ∈ later, v.Finds n)
      (same : ∀ v ∈ later, SameHandler n first.benchAfter v.bench) {w : Bench K V}
      (here : SameHandler n first.benchAfter w) :
      BuiltOnce (fails ++ first :: later) ⟨some n, fails.length + 1⟩ w

namespace Visit

variable {v : Visit K V} {n : Nat} {e : QueueError}

theorem fails (empty : v.cell.built = none) (failed : v.attempt.1 = .error e) : v.Fails e := by
  have got := Shared.get_fails empty failed
  refine ⟨failed, congrArg Prod.fst got, ?_, ?_, ?_, congrArg (·.2.2) got⟩
  · rw [Shared.isInitialised, empty, Option.isSome_none]
  · rw [cellAfter, got]
    rfl
  · rw [cellAfter, got]

theorem builds (empty : v.cell.built = none) (built : v.attempt.1 = .ok n) : v.Builds n := by
  have got := Shared.get_builds empty built
  refine ⟨built, congrArg Prod.fst got, ?_, ?_, ?_, congrArg (·.2.2) got⟩
  · rw [Shared.isInitialised, empty, Option.isSome_none]
  · rw [cellAfter, got]
    rfl
  · rw [cellAfter, got]

theorem finds (full : v.cell.built = some n) : v.Finds n := by
  have got : ∀ factory, v.cell.get factory v.bench = (.ok n, v.cell, v.bench) := fun _ => Shared.get_full full
  refine ⟨congrArg Prod.fst (got _), ?_, congrArg (·.2.1) (got _), got⟩
  rw [Shared.isInitialised, full, Option.isSome_some]

theorem leads (v : Visit K V) : Bench.Leads v.bench v.benchAfter := by
  have attempted : Bench.Leads v.bench v.attempt.2 :=
    (Bench.Leads.deed v.bench (.note _)).trans (v.factory.works _).leads
  cases hb : v.cell.built with
  | some n =>
    rw [benchAfter, Shared.get_full hb]
    exact .refl v.bench
  | none =>
    cases ha : v.attempt.1 with
    | ok n =>
      rw [(builds hb ha).left]
      exact attempted
    | error e =>
      rw [(fails hb ha).left]
      exact attempted.trans (.notes _ _)

end Visit

namespace SameHandler

variable {n : Nat} {w w' w'' : Bench K V} {log : List (Entry K V)}

theorem meanwhile (same : SameHandler n w w') (run : Bench.Run log w') (m : Bench.Meanwhile w' w'') :
    SameHandler n w w'' := by
  obtain ⟨h, h', hn, hn', ages⟩ := same
  obtain ⟨h'', hn'', later⟩ := (run.lasts m).handler hn'
  exact ⟨h, h'', hn, hn'', ages.trans later⟩

end SameHandler

variable {w₀ w w' : Bench K V} {vs : List (Visit K V)} {s : Shared} {log : List (Entry K V)}

theorem Visits.run (run : Bench.Run log w₀) (visits : Visits w₀ vs s w) : ∃ log, Bench.Run log w := by
  induction visits with
  | nil => exact ⟨log, run⟩
  | @snoc vs s w w' f past between ih =>
    obtain ⟨log, run⟩ := ih
    obtain ⟨more, run⟩ := run.leads (between.leads.trans (Visit.leads ⟨f, s, w'⟩))
    exact ⟨_, run⟩

/-- What happens between visits makes no difference. -/
theorem BuiltOnce.meanwhile (once : BuiltOnce vs s w) (run : Bench.Run log w) (m : Bench.Meanwhile w w') :
    BuiltOnce vs s w' := by
  cases once with
  | unbuilt failed => exact .unbuilt failed w'
  | built failed builds finds same here => exact .built failed builds finds same (here.meanwhile run m)

theorem BuiltOnce.snoc (once : BuiltOnce vs s w) (f : Factory K V) :
    BuiltOnce (vs ++ [⟨f, s, w⟩]) (Visit.cellAfter ⟨f, s, w⟩) (Visit.benchAfter ⟨f, s, w⟩) := by
  cases once with
  | unbuilt failed w =>
    let v : Visit K V := ⟨f, ⟨none, vs.length⟩, w⟩
    cases ha : v.attempt.1 with
    | error e =>
      have failed' : ∀ u ∈ vs ++ [v], ∃ e, u.Fails e := by
        intro u hu
        rcases List.mem_append.1 hu with hu | hu
        · exact failed u hu
        · rw [List.mem_singleton.1 hu]
          exact ⟨e, Visit.fails rfl ha⟩
      have cell : v.cellAfter = ⟨none, (vs ++ [v]).length⟩ := by
        rw [Visit.cellAfter, Shared.get_fails rfl ha, List.length_append]
        rfl
      exact cell ▸ .unbuilt failed' _
    | ok n =>
      have builds : v.Builds n := Visit.builds rfl ha
      have cell : v.cellAfter = ⟨some n, vs.length + 1⟩ := congrArg (·.2.1) (Shared.get_builds rfl ha)
      obtain ⟨h, hh⟩ := v.factory.builds ha
      have here : SameHandler n v.benchAfter v.benchAfter := by
        rw [builds.left]
        exact ⟨h, h, hh, hh, .refl h⟩
      exact cell ▸ .built failed builds (by simp) (by simp) here
  | @built fails later first n failed builds finds same w here =>
    let v : Visit K V := ⟨f, ⟨some n, fails.length + 1⟩, w⟩
    have found : v.Finds n := Visit.finds rfl
    have bench : v.benchAfter = w := by rw [Visit.benchAfter, Shared.get_full (s := v.cell) rfl]
    have finds' : ∀ u ∈ later ++ [v], u.Finds n := by
      intro u hu
      rcases List.mem_append.1 hu with hu | hu
      · exact finds u hu
      · rw [List.mem_singleton.1 hu]
        exact found
    have same' : ∀ u ∈ later ++ [v], SameHandler n first.benchAfter u.bench := by
      intro u hu
      rcases List.mem_append.1 hu with hu | hu
      · exact same u hu
      · rw [List.mem_singleton.1 hu]
        exact here
    have once := BuiltOnce.built failed builds finds' same' (bench ▸ here)
    rw [List.append_assoc, List.cons_append]
    exact found.after ▸ once

/-- However often a shared handler is asked for, with whatever factories, and whatever is done in between, to
that handler or to anything else: the factory runs once for each visitor until it succeeds, whose builds
fail one after another as each is told, and never again; he for whom it succeeds and all who come later
are given one handler, which is the same as long as there is a bench. -/
theorem shared_handler_built_once (run : Bench.Run log w₀) (visits : Visits w₀ vs s w)
    (after : Bench.Meanwhile w w') : BuiltOnce vs s w' := by
  obtain ⟨log', run'⟩ := visits.run run
  refine BuiltOnce.meanwhile ?_ run' after
  clear run' after
  induction visits with
  | nil => exact .unbuilt (by simp) w₀
  | @snoc vs s w w' f past between ih =>
    obtain ⟨log'', run''⟩ := past.run run
    exact ((ih).meanwhile run'' between).snoc f

/-- The first plan has a blank name for the queue. The next one is built, consumed with and closed, and who
asks then gets that same handler, closed as it is. -/
theorem shared_handler_built_once_closed : ∃ (vs : List (Visit String Bytes)) (s : Shared)
    (w : Bench String Bytes), BuiltOnce vs s w ∧
    vs.map (·.answer.toOption) = [none, some 0, some 0, some 0] ∧
    vs.map (fun v => v.bench.stateOf 0) = [none, none, some .consuming, some .closed] ∧
    s = ⟨some 0, 2⟩ ∧ w.handlers.length = 1 := by
  have run := Bench.Run.nil (K := String) (V := Bytes) |>.snoc .openChannel |>.snoc (.declare "jobs")
  have once := shared_handler_built_once run (Visits.nil
    |>.snoc (.ofPlan fun _ => { Bench.jobsPlan ⟨1⟩ .requeue with queue := some " " }) .nothing
    |>.snoc (.ofPlan fun _ => Bench.jobsPlan ⟨1⟩ .requeue) .nothing
    |>.snoc (.ofPlan fun _ => Bench.jobsPlan ⟨1⟩ .requeue) (.asked (.consume 0 none) .nothing)
    |>.snoc (.ofPlan fun _ => {}) (.asked (.close 0) .nothing)) .nothing
  refine ⟨_, _, _, once, ?_, ?_, ?_, ?_⟩ <;> decide +kernel

end QueueProbe
