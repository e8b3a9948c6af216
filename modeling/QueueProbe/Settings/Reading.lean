import QueueProbe.Settings.Basic
import QueueProbe.Toml.Document

/-! Settings read from TOML text. A section is a table of its fields, or a list of their values in
order; a field that is missing has its default, and an unknown one is a fault. -/

namespace QueueProbe

namespace Toml

/-- How a field is read; none if the value is of another type. -/
abbrev Field (α : Type) := Value → Option α

def text : Field String
  | .string s => some s
  | _ => none

def flag : Field Bool
  | .scalar (.bool b) => some b
  | _ => none

def upTo (greatest : Nat) : Field Nat
  | .scalar (.integer (some n)) => if 0 ≤ n ∧ n ≤ greatest then some n.toNat else none
  | _ => none

def word16 : Nat := 0xffff
def word32 : Nat := 0xffffffff
def word64 : Nat := 0xffffffffffffffff

/-- A float, or a whole number of 64 bits rounded to one. -/
def real : Field Binary64
  | .scalar (.float x) => x
  | .scalar (.integer (some n)) => if -0x8000000000000000 ≤ n ∧ n ≤ word64 then some (.ofInt n) else none
  | _ => none

/-- A section's fields by name, in order, each with the change its value makes. -/
abbrev Fields (σ : Type) := List (String × (Value → σ → Option σ))

def field {α σ : Type} (name : String) (read : Field α) (set : α → σ → σ) :
    String × (Value → σ → Option σ) :=
  (name, fun v s => (read v).map fun a => set a s)

def section? {σ : Type} (fields : Fields σ) (start : σ) : Value → Option σ
  | .table _ es => es.foldlM (fun s e =>
      match fields.find? (·.1 = e.1) with
      | some f => f.2 e.2 s
      | none => none) start
  | .array vs => (fields.zip vs).foldlM (fun s f => f.1.2 f.2 s) start
  | .tables ts => (fields.zip ts).foldlM (fun s f => f.1.2 (.table .header f.2) s) start
  | _ => none

end Toml

open Toml

def QueueSettings.fields : Fields QueueSettings := [
  field "name" text fun a s => { s with name := some a },
  field "prefetch" (upTo word16) fun a s => { s with prefetch := a },
  field "publish_parallelism" (upTo word64) fun a s => { s with publishParallelism := a },
  field "dead_letter_after" (upTo word32) fun a s => { s with deadLetterAfter := some a }]

def RetrySettings.fields : Fields RetrySettings := [
  field "max_duration_ms" (upTo word64) fun a s => { s with maxDurationMs := a },
  field "delay_ms" (upTo word64) fun a s => { s with delayMs := a },
  field "backoff" text fun a s => { s with backoff := a },
  field "multiplier" real fun a s => { s with multiplier := a },
  field "max_delay_ms" (upTo word64) fun a s => { s with maxDelayMs := a }]

def LoggingSettings.fields : Fields LoggingSettings := [
  field "level" text fun a s => { s with level := a },
  field "format" text fun a s => { s with format := a },
  field "file" text fun a s => { s with file := some a },
  field "color" flag fun a s => { s with color := a }]

namespace Settings

def fields : Fields Settings := [
  field "queue" (section? QueueSettings.fields {}) fun a s => { s with queue := a },
  field "retry" (section? RetrySettings.fields {}) fun a s => { s with retry := a },
  field "logging" (section? LoggingSettings.fields {}) fun a s => { s with logging := a }]

def ofToml (text : String) : Except ConfigError Settings :=
  match Toml.parse text with
  | none => .error (.parse "malformed document")
  | some es =>
    match section? fields {} (.table .header es) with
    | none => .error (.parse "unknown field, or a value of another type")
    | some s => s.validate.map fun _ => s

end Settings
end QueueProbe
