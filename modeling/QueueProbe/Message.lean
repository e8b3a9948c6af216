import QueueProbe.Table
import QueueProbe.Text.Quoted
import QueueProbe.Text.Utf8

/-! What travels: a body or a decoded content, with properties. Setting a property replaces it;
headers are kept in the order of their names. -/

namespace QueueProbe

structure Properties where
  messageId : Option String := none
  contentType : Option String := none
  /-- Nanoseconds from the epoch. -/
  timestamp : Option Int := none
  headers : Ledger String String := []
deriving DecidableEq, Repr

namespace Properties

def withMessageId (p : Properties) (id : String) : Properties := { p with messageId := some id }

def withContentType (p : Properties) (kind : String) : Properties :=
  { p with contentType := some kind }

def withTimestamp (p : Properties) (ns : Int) : Properties := { p with timestamp := some ns }

def withHeader (p : Properties) (name value : String) : Properties :=
  { p with headers := p.headers.put name value }

def header (p : Properties) (name : String) : Option String := p.headers.get? name

/-- Whole seconds toward the past, then the nanoseconds that are left. -/
def debugTimestamp (ns : Int) : String :=
  Text.record "SystemTime" [("tv_sec", debug (ns.fdiv 1000000000)),
    ("tv_nsec", debug (ns.fmod 1000000000))]

instance : Debug Properties where
  debug p := Text.record "MessageProperties" [
    ("message_id", debug p.messageId),
    ("content_type", debug p.contentType),
    ("timestamp", match p.timestamp with
      | none => "None"
      | some ns => Text.applied "Some" [debugTimestamp ns]),
    ("headers", debugEntries p.headers)]

end Properties

structure Message (V : Type) where
  content : V
  properties : Properties := {}
deriving DecidableEq, Repr

namespace Message

variable {V : Type}

def withProperties (m : Message V) (p : Properties) : Message V := { m with properties := p }

instance [Debug V] : Debug (Message V) where
  debug m := Text.record "Message" [("content", debug m.content), ("properties", debug m.properties)]

end Message
end QueueProbe
