import QueueProbe.Journal.Level
import QueueProbe.Json.Value
import QueueProbe.Text.Blank

/-! Log lines. A record is written as plain text, as text with the place it comes from, or as one
JSON object; text may be painted for a terminal. -/

namespace QueueProbe

inductive LogFormat where
  | text
  | ext
  | json
deriving DecidableEq, Repr

namespace LogFormat

def all : List LogFormat := [text, ext, json]

def name : LogFormat → String
  | text => "text"
  | ext => "ext"
  | json => "json"

def ofName? (s : String) : Option LogFormat := all.find? fun k => k.name = Text.lowerAscii s

instance : Debug LogFormat := ⟨fun | text => "Text" | ext => "Ext" | json => "Json"⟩

end LogFormat

structure LogRecord where
  level : Level
  target : String
  line : Option Nat := none
  /-- The name of the thread, if it has one. -/
  thread : Option String := some "main"
  text : String
deriving DecidableEq, Repr

/-- The text of the time of a record, with a character between the date and the time of day. -/
abbrev Stamp := Char → String

namespace Paint

def dim : String := "2"
def cyan : String := "36"

def ofLevel : Level → String
  | .error => "1;31"
  | .warn => "33"
  | .info => "32"
  | .debug => "34"
  | .trace => "35"

def reset : List Char := ['\x1b', '[', '0', 'm']

def start (code : String) : List Char := ['\x1b', '['] ++ code.toList ++ ['m']

/-- After a reset inside the text the paint is put on again. -/
def renew (start : List Char) : List Char → List Char
  | '\x1b' :: '[' :: '0' :: 'm' :: rest => reset ++ start ++ renew start rest
  | c :: rest => c :: renew start rest
  | [] => []

def apply (painted : Bool) (code s : String) : String :=
  if painted then String.ofList (start code ++ renew (start code) s.toList ++ reset) else s

end Paint

namespace LogRecord

/-- Targets of this library start with it. -/
def ownTarget : List Char := "mqverify::".toList

def slashed : List Char → List Char
  | ':' :: ':' :: rest => '/' :: slashed rest
  | c :: rest => c :: slashed rest
  | [] => []

/-- The target as the path of a file, with the line if there is one. -/
def location (r : LogRecord) : String :=
  let cs := r.target.toList
  let path := if ownTarget.isPrefixOf cs then slashed (cs.drop ownTarget.length) ++ ".rs".toList
    else slashed cs
  String.ofList path ++ (match r.line with | some n => ":" ++ toString n | none => "")

def threadName (r : LogRecord) : String := r.thread.getD "unnamed"

def textLine (painted : Bool) (stamp : Stamp) (r : LogRecord) : String :=
  Paint.apply painted Paint.dim (stamp ' ') ++ " " ++
    Paint.apply painted (Paint.ofLevel r.level) r.level.tag ++ " [" ++
    Paint.apply painted Paint.cyan r.threadName ++ "] " ++ r.text

def extLine (painted : Bool) (stamp : Stamp) (r : LogRecord) : String :=
  r.textLine painted stamp ++ " (" ++ Paint.apply painted Paint.dim r.location ++ ")"

/-- Members stand in the order of their names. -/
def jsonLine (stamp : Stamp) (r : LogRecord) : String :=
  (Json.Value.object [
    ("level", .string r.level.tag),
    ("message", .string r.text),
    ("target", .string r.location),
    ("thread", .string r.threadName),
    ("timestamp", .string (stamp 'T' ++ "Z"))]).text

/-- JSON is never painted. -/
def written (f : LogFormat) (painted : Bool) (stamp : Stamp) (r : LogRecord) : String :=
  match f with
  | .text => r.textLine painted stamp
  | .ext => r.extLine painted stamp
  | .json => r.jsonLine stamp

end LogRecord
end QueueProbe
