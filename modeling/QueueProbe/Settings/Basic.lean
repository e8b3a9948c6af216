import QueueProbe.Bench.Consuming
import QueueProbe.Bench.Publishing
import QueueProbe.Journal.Line

/-! Settings: what a user may choose, what is taken when nothing is chosen, and which choices make
no sense. Kinds of backoff, like formats, are named in any case of the basic alphabet. -/

namespace QueueProbe

inductive BackoffKind where
  | fixed
  | exponential
deriving DecidableEq, Repr

namespace BackoffKind

def all : List BackoffKind := [fixed, exponential]

def name : BackoffKind → String
  | fixed => "fixed"
  | exponential => "exponential"

def ofName? (s : String) : Option BackoffKind := all.find? fun k => k.name = Text.lowerAscii s

instance : Debug BackoffKind := ⟨fun | fixed => "Fixed" | exponential => "Exponential"⟩

end BackoffKind

structure QueueSettings where
  name : Option String := none
  prefetch : Nat := Bench.defaultPrefetch
  publishParallelism : Nat := Publisher.defaultParallelism
  deadLetterAfter : Option Nat := none
deriving DecidableEq, Repr

def QueueSettings.failurePolicy (s : QueueSettings) : FailurePolicy :=
  match s.deadLetterAfter with
  | some n => .deadLetterAfter n
  | none => .requeue

structure RetrySettings where
  maxDurationMs : Nat := 10000
  delayMs : Nat := 250
  backoff : String := BackoffKind.fixed.name
  multiplier : Binary64 := .ofNat 2
  maxDelayMs : Nat := 2000
deriving DecidableEq, Repr

namespace RetrySettings

def backoffKind (s : RetrySettings) : Except ConfigError BackoffKind :=
  match BackoffKind.ofName? s.backoff with
  | some k => .ok k
  | none => .error (.invalid
      ("unknown backoff '" ++ s.backoff ++ "' (expected fixed or exponential)"))

/-- A backoff of an unknown name is a fixed one. -/
def toPolicy (s : RetrySettings) : RetryPolicy :=
  let delay := Span.millis s.delayMs
  let backoff := match s.backoffKind with
    | .ok .exponential => Backoff.exponential delay s.multiplier (.millis s.maxDelayMs)
    | _ => .fixed delay
  (RetryPolicy.withMaxDuration {} (.millis s.maxDurationMs)).withBackoff backoff

end RetrySettings

structure LoggingSettings where
  level : String := "info"
  format : String := LogFormat.text.name
  file : Option String := none
  color : Bool := true
deriving DecidableEq, Repr

def LoggingSettings.logFormat (s : LoggingSettings) : Except ConfigError LogFormat :=
  match LogFormat.ofName? s.format with
  | some f => .ok f
  | none => .error (.invalid
      ("unknown log format '" ++ s.format ++ "' (expected text, ext or json)"))

structure Settings where
  queue : QueueSettings := {}
  retry : RetrySettings := {}
  logging : LoggingSettings := {}
deriving DecidableEq, Repr

namespace Settings

def require (ok : Bool) (otherwise : String) : Except ConfigError Unit :=
  if ok then .ok () else .error (.invalid otherwise)

/-- The first thing wrong with the settings, section by section. -/
def validate (s : Settings) : Except ConfigError Unit := do
  require (s.queue.name.all fun n => !Text.allBlank n) "queue.name must not be empty"
  require (s.queue.prefetch ≠ 0) "queue.prefetch must be greater than 0"
  require (s.queue.publishParallelism ≠ 0) "queue.publish_parallelism must be greater than 0"
  require (s.queue.deadLetterAfter ≠ some 0) "queue.dead_letter_after must be greater than 0"
  require (s.retry.delayMs ≠ 0) "retry.delay_ms must be greater than 0"
  require (s.retry.multiplier.isFinite && s.retry.multiplier.ge .one)
    ("retry.multiplier must be at least 1.0, got " ++
      Binary64.Layout.sentence.render s.retry.multiplier)
  let _ ← s.retry.backoffKind
  let _ ← s.logging.logFormat
  return ()

end Settings
end QueueProbe
