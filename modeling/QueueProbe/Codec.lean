import QueueProbe.Message
import QueueProbe.Outcome

/-! How bodies become values and values bodies, and what a message is filed under. Such a function
may give a value, refuse with a text, or panic. -/

namespace QueueProbe

abbrev Decoder (V : Type) := Bytes → Outcome String V
abbrev Encoder (V : Type) := V → Outcome String Bytes
abbrev KeyFn (K V : Type) := Message V → Outcome String K

namespace Codec

def previewLimit : Nat := 100

/-- The start of a body as text, with dots if more follows. -/
def preview (body : Bytes) : String :=
  if body.length > previewLimit then Utf8.lossy (body.take previewLimit) ++ "..."
  else Utf8.lossy body

def utf8Decoder : Decoder String := fun body =>
  match Utf8.decode body with
  | .ok s => .ok s
  | .error n => .error ("invalid UTF-8 at byte " ++ toString n)

def utf8Encoder : Encoder String := fun s => .ok (Utf8.encode s)

def bytesDecoder : Decoder Bytes := .ok

def bytesEncoder : Encoder Bytes := .ok

variable {K V : Type}

def byContent (key : V → K) : KeyFn K V := fun m => .ok (key m.content)

def tryByContent (key : V → Except String K) : KeyFn K V := fun m => .ofExcept (key m.content)

def byMessageId : KeyFn String V := fun m =>
  match m.properties.messageId with
  | some id => .ok id
  | none => .error "message has no message_id property"

end Codec
end QueueProbe
