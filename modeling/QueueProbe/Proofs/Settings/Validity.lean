import QueueProbe.Settings.Reading

/-! Which settings are valid. The checks are made one after another and the first that fails is reported, but
they have nothing to do with each other: settings pass just if each choice makes sense by itself. So do
all that are read from a text. -/

namespace QueueProbe

theorem bind_eq_ok {ε α β : Type} {x : Except ε α} {f : α → Except ε β} {b : β} :
    x.bind f = .ok b ↔ ∃ a, x = .ok a ∧ f a = .ok b := by
  cases x <;> simp [Except.bind]

theorem find?_named {κ : Type} {name : κ → String} (distinct : Function.Injective name) {all : List κ} {k : κ}
    (listed : k ∈ all) (s : String) : all.find? (fun k => name k = s) = some k ↔ name k = s := by
  refine ⟨fun h => by simpa using List.find?_some h, fun h => ?_⟩
  cases hf : all.find? fun k => name k = s with
  | none => simp_all
  | some k' =>
    have same : name k' = s := by simpa using List.find?_some hf
    rw [distinct (same.trans h.symm)]

/-- A kind of backoff is read from its name, whatever the case of the letters, and from nothing else. -/
theorem BackoffKind.ofName?_eq_some {s : String} {k : BackoffKind} :
    ofName? s = some k ↔ k.name = Text.lowerAscii s :=
  find?_named (fun j k h => by cases j <;> cases k <;> first | rfl | (revert h; decide)) (by cases k <;> decide) _

theorem LogFormat.ofName?_eq_some {s : String} {f : LogFormat} :
    ofName? s = some f ↔ f.name = Text.lowerAscii s :=
  find?_named (fun j k h => by cases j <;> cases k <;> first | rfl | (revert h; decide)) (by cases f <;> decide) _

theorem RetrySettings.backoffKind_eq_ok {s : RetrySettings} {k : BackoffKind} :
    s.backoffKind = .ok k ↔ k.name = Text.lowerAscii s.backoff := by
  rw [← BackoffKind.ofName?_eq_some, backoffKind]
  cases BackoffKind.ofName? s.backoff <;> simp

theorem LoggingSettings.logFormat_eq_ok {s : LoggingSettings} {f : LogFormat} :
    s.logFormat = .ok f ↔ f.name = Text.lowerAscii s.format := by
  rw [← LogFormat.ofName?_eq_some, logFormat]
  cases LogFormat.ofName? s.format <;> simp

/-- The backoff of a kind, with the delays of these settings. -/
def RetrySettings.schedule (s : RetrySettings) : BackoffKind → Backoff
  | .fixed => .fixed (.millis s.delayMs)
  | .exponential => .exponential (.millis s.delayMs) s.multiplier (.millis s.maxDelayMs)

theorem RetrySettings.toPolicy_eq {s : RetrySettings} {k : BackoffKind} (h : s.backoffKind = .ok k) :
    s.toPolicy = { maxDuration := .millis s.maxDurationMs, backoff := s.schedule k } := by
  unfold toPolicy
  cases k <;> simp only [h] <;> rfl

theorem QueueSettings.failurePolicy_eq (s : QueueSettings) (k : Nat) :
    s.failurePolicy = .deadLetterAfter k ↔ s.deadLetterAfter = some k := by
  unfold failurePolicy
  cases s.deadLetterAfter <;> simp

theorem QueueSettings.keeps_eq_false (s : QueueSettings) (count : Nat) :
    s.failurePolicy.keeps count = false ↔ ∃ k, s.deadLetterAfter = some k ∧ k ≤ count := by
  unfold failurePolicy
  cases s.deadLetterAfter <;> simp [FailurePolicy.keeps]

namespace Settings

variable {s : Settings}

/-- Every choice makes sense. -/
structure Sensible (s : Settings) : Prop where
  named : ∀ q, s.queue.name = some q → Text.allBlank q = false
  bounded : s.queue.prefetch ≠ 0
  manned : s.queue.publishParallelism ≠ 0
  delivered : s.queue.deadLetterAfter ≠ some 0
  delayed : s.retry.delayMs ≠ 0
  growing : (s.retry.multiplier.isFinite && s.retry.multiplier.ge .one) = true
  backoff : ∃ k, s.retry.backoffKind = .ok k
  format : ∃ f, s.logging.logFormat = .ok f

theorem require_ok {b : Bool} {text : String} {u : Unit} : require b text = .ok u ↔ b = true := by
  cases b <;> simp [require]

theorem validate_ok : s.validate = .ok () ↔ s.Sensible := by
  simp only [validate, bind, bind_eq_ok, require_ok]
  constructor
  · rintro ⟨⟨⟩, named, ⟨⟩, bounded, ⟨⟩, manned, ⟨⟩, delivered, ⟨⟩, delayed, ⟨⟩, growing, k, backoff, f, format, -⟩
    refine ⟨fun q hq => ?_, of_decide_eq_true bounded, of_decide_eq_true manned, of_decide_eq_true delivered,
      of_decide_eq_true delayed, growing, ⟨k, backoff⟩, f, format⟩
    rw [hq] at named
    simpa using named
  · rintro ⟨named, bounded, manned, delivered, delayed, growing, ⟨k, backoff⟩, f, format⟩
    refine ⟨(), ?_, (), decide_eq_true bounded, (), decide_eq_true manned, (), decide_eq_true delivered, (),
      decide_eq_true delayed, (), growing, k, backoff, f, format, rfl⟩
    cases hq : s.queue.name with
    | none => rfl
    | some q => simp [named q hq]

/-- A check that does not fail but for what is invalid. -/
def FindsInvalid {α : Type} (x : Except ConfigError α) : Prop := ∀ e, x = .error e → ∃ text, e = .invalid text

theorem FindsInvalid.bind {α β : Type} {x : Except ConfigError α} {f : α → Except ConfigError β}
    (first : FindsInvalid x) (next : ∀ a, FindsInvalid (f a)) : FindsInvalid (x.bind f) := by
  intro e he
  cases x with
  | error e' =>
    cases he
    exact first _ rfl
  | ok a => exact next a e he

theorem findsInvalid_require (b : Bool) (text : String) : FindsInvalid (require b text) := by
  intro e he
  cases b <;> cases he
  exact ⟨text, rfl⟩

theorem findsInvalid_backoffKind (s : RetrySettings) : FindsInvalid s.backoffKind := by
  intro e he
  unfold RetrySettings.backoffKind at he
  split at he <;> cases he
  exact ⟨_, rfl⟩

theorem findsInvalid_logFormat (s : LoggingSettings) : FindsInvalid s.logFormat := by
  intro e he
  unfold LoggingSettings.logFormat at he
  split at he <;> cases he
  exact ⟨_, rfl⟩

theorem findsInvalid_validate (s : Settings) : FindsInvalid s.validate := by
  have check := findsInvalid_require
  exact (check _ _).bind fun _ => (check _ _).bind fun _ => (check _ _).bind fun _ => (check _ _).bind fun _ =>
    (check _ _).bind fun _ => (check _ _).bind fun _ => (findsInvalid_backoffKind _).bind fun _ =>
      (findsInvalid_logFormat _).bind fun _ => nofun

theorem validate_invalid (h : ¬ s.Sensible) : ∃ text, s.validate = .error (.invalid text) := by
  cases hv : s.validate with
  | ok u => exact absurd (validate_ok.1 hv) h
  | error e =>
    obtain ⟨text, rfl⟩ := findsInvalid_validate s e hv
    exact ⟨text, rfl⟩

theorem validate_ofToml {text : String} (h : ofToml text = .ok s) : s.validate = .ok () := by
  unfold ofToml at h
  split at h
  · cases h
  · split at h
    · cases h
    · next s' _ =>
      cases hv : s'.validate with
      | error e =>
        rw [hv] at h
        cases h
      | ok u =>
        rw [hv] at h
        cases h
        exact hv

end Settings
end QueueProbe
