import QueueProbe.Codec
import QueueProbe.Json.Value

/-! The types that JSON bodies are read as and written from. A shape reads a tree; what a shape does
not ask for may be anything that is written well. -/

namespace QueueProbe.Json

/-- A kind of value with its written form. -/
structure Shape (α : Type) where
  read : Tree → Option α
  write : α → Value

namespace Shape

variable {α : Type}

def value : Shape Value := ⟨Value.ofTree? Value.depthLimit, id⟩

def string : Shape String := ⟨fun | .string t => t | _ => none, .string⟩

def bool : Shape Bool := ⟨fun | .bool b => some b | _ => none, .bool⟩

/-- Whole numbers within bounds. -/
def integer (least greatest : Int) : Shape Int where
  read
    | .number n => n.value?.bind (Number.toInt? least greatest)
    | _ => none
  write := Value.ofInt

def int64 : Shape Int := integer (-0x8000000000000000) 0x7fffffffffffffff

def uint8 : Shape Int := integer 0 255

def float : Shape Binary64 where
  read
    | .number n => n.value?.map Number.toFloat
    | _ => none
  write x := .number (.float x)

def optional (s : Shape α) : Shape (Option α) where
  read
    | .null => some none
    | t => (s.read t).map some
  write
    | none => .null
    | some a => s.write a

def list (s : Shape α) : Shape (List α) where
  read
    | .array ts => ts.mapM s.read
    | _ => none
  write as := .array (as.map s.write)

/-- A table by name; of entries with one name the last counts. -/
def table (s : Shape α) : Shape (Ledger String α) where
  read
    | .object ms => (ms.mapM fun (m : Option String × Tree) =>
        m.1.bind fun k => (s.read m.2).map (k, ·)).map Ledger.ofList
    | _ => none
  write t := .object (t.map fun e => (e.1, s.write e.2))

end Shape

/-- An item of stock: what most bodies carry. -/
structure Item where
  id : String
  qty : Int64 := 0
deriving DecidableEq, Repr

namespace Item

instance : Debug Item :=
  ⟨fun i => Text.record "Item" [("id", debug i.id), ("qty", debug i.qty.toInt)]⟩

def readQty (t : Tree) : Option Int64 := (Shape.int64.read t).map Int64.ofInt

/-- The members with a name; none if a name has no text. -/
def named (ms : List (Option String × Tree)) : Option (List (String × Tree)) :=
  ms.mapM fun m => m.1.map (·, m.2)

def valuesOf (name : String) (ms : List (String × Tree)) : List Tree :=
  (ms.filter (·.1 = name)).map (·.2)

/-- An object with the members `id` and `qty`, neither of them twice, or an array of the two. The
quantity may be left out. -/
def read : Tree → Option Item
  | .array [a] => (Shape.string.read a).map ({ id := · })
  | .array [a, b] => do
    let id ← Shape.string.read a
    let qty ← readQty b
    return { id, qty }
  | .object ms => do
    let ms ← named ms
    let id ← match valuesOf "id" ms with
      | [a] => Shape.string.read a
      | _ => none
    let qty ← match valuesOf "qty" ms with
      | [] => some 0
      | [b] => readQty b
      | _ => none
    return { id, qty }
  | _ => none

def toValue (i : Item) : Value :=
  .object [("id", .string i.id), ("qty", .ofInt i.qty.toInt)]

def shape : Shape Item := ⟨read, toValue⟩

end Item

/-- Why a body is not of a shape. -/
inductive Fault where
  | malformed
  | mismatch
deriving DecidableEq, Repr

def Fault.text : Fault → String
  | malformed => "malformed text"
  | mismatch => "unexpected value"

variable {α : Type}

def decode (s : Shape α) (body : Bytes) : Except Fault α :=
  match Tree.parse body with
  | none => .error .malformed
  | some t =>
    match s.read t with
    | some a => .ok a
    | none => .error .mismatch

def encode (s : Shape α) (a : α) : Bytes := (s.write a).render.flatMap Utf8.encodeChar

/-- A decoder that names what it wanted, and shows the start of what it got. -/
def decoder (kind : String) (s : Shape α) (wording : Fault → String) : Decoder α := fun body =>
  match decode s body with
  | .ok a => .ok a
  | .error f => .error ("not a " ++ kind ++ ": " ++ wording f ++ " | data_length: " ++
      toString body.length ++ ", data_preview: '" ++ Codec.preview body ++ "'")

def encoder (s : Shape α) : Encoder α := fun a => .ok (encode s a)

/-- Tables can be written if their keys can be names. -/
def tableEncoder {κ : Type} (name : κ → Option String) (s : Shape α) : Encoder (List (κ × α)) :=
  fun t =>
    match t.mapM fun e => (name e.1).map (·, s.write e.2) with
    | some members => .ok ((Value.object members).render.flatMap Utf8.encodeChar)
    | none => .error "key must be a string"

end QueueProbe.Json
