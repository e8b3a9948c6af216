import QueueProbe.Journal.Line
import QueueProbe.Proofs.Json.Texts

/-! Log lines as JSON. Whatever a record says, it is one line with one object in it: its texts cannot
end a string, a line or the object, nor bring in a member of their own, and each is read as it was.
Only the control characters below the space are escaped for that; those above it stand as they are. -/

namespace QueueProbe

open Json

theorem Json.printable_members {ms : List (String × Value)} (h : ∀ m ∈ ms, Printable m.2.render) :
    Printable (Value.renderMembers ms) := by
  induction ms with
  | nil => exact fun c hc => absurd hc List.not_mem_nil
  | cons m ms ih =>
    have colon := printable_singleton.2 (by decide : 0x20 ≤ ':'.toNat)
    have comma := printable_singleton.2 (by decide : 0x20 ≤ ','.toNat)
    have member : Printable (Value.renderMembers [m]) :=
      printable_append.2 ⟨printable_append.2 ⟨printable_quote m.1, colon⟩, h m List.mem_cons_self⟩
    cases ms with
    | nil => exact member
    | cons n ms =>
      have more := ih fun x hx => h x (List.mem_cons_of_mem _ hx)
      exact printable_append.2 ⟨printable_append.2 ⟨member, comma⟩, more⟩

theorem Json.printable_object {ms : List (String × Value)} (h : ∀ m ∈ ms, Printable m.2.render) :
    Printable (Value.object ms).render := by
  have opening := printable_singleton.2 (by decide : 0x20 ≤ '\x7b'.toNat)
  have closing := printable_singleton.2 (by decide : 0x20 ≤ '\x7d'.toNat)
  exact printable_append.2 ⟨printable_append.2 ⟨opening, printable_members h⟩, closing⟩

namespace LogRecord

def members (stamp : Stamp) (r : LogRecord) : List (String × String) :=
  [("level", r.level.tag), ("message", r.text), ("target", r.location), ("thread", r.threadName),
    ("timestamp", stamp 'T' ++ "Z")]

/-- A record as JSON has no line feed, no carriage return and no other control character below the space as
it stands, and is one object. Its members are the five, with the texts of the record. -/
theorem json_line_unforged (r : LogRecord) (painted : Bool) (stamp : Stamp) :
    (∀ c ∈ (r.written .json painted stamp).toList, 0x20 ≤ c.toNat) ∧
    Tree.parse (Utf8.encode (r.written .json painted stamp)) = some (.object [
      (some "level", .string (some r.level.tag)),
      (some "message", .string (some r.text)),
      (some "target", .string (some r.location)),
      (some "thread", .string (some (r.thread.getD "unnamed"))),
      (some "timestamp", .string (some (stamp 'T' ++ "Z")))]) := by
  have line : r.written .json painted stamp =
      String.ofList (Value.object ((r.members stamp).map fun m => (m.1, .string m.2))).render := rfl
  rw [line]
  constructor
  · rw [String.toList_ofList]
    refine printable_object fun m hm => ?_
    obtain ⟨t, -, rfl⟩ := List.mem_map.1 hm
    exact printable_quote t.2
  · rw [Utf8.encode_ofList]
    exact (reads_strings (r.members stamp)).parse

/-- Other control characters go out raw: a delete, a next line and a control sequence introducer do, and so
does a line separator. -/
theorem json_line_raw :
    let r : LogRecord := { level := .info, target := "jobs", text := "\x7f\u0085\u009b\u2028" }
    r.text.toList.map Char.toNat = [0x7f, 0x85, 0x9b, 0x2028] ∧
    r.text.toList ⊆ (r.written .json false fun _ => "now").toList := by
  decide +kernel

end LogRecord
end QueueProbe
