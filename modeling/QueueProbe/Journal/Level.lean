/-! Levels of log records, from the gravest down, and the records themselves. -/

namespace QueueProbe

inductive Level where
  | error
  | warn
  | info
  | debug
  | trace
deriving DecidableEq, Repr

namespace Level

/-- How much a reader must want to see before a record of this level is shown. -/
def rank : Level → Nat
  | error => 1
  | warn => 2
  | info => 3
  | debug => 4
  | trace => 5

def name : Level → String
  | error => "ERROR"
  | warn => "WARN"
  | info => "INFO"
  | debug => "DEBUG"
  | trace => "TRACE"

/-- The three letters of a log line. -/
def tag : Level → String
  | error => "ERR"
  | warn => "WRN"
  | info => "INF"
  | debug => "DBG"
  | trace => "TRC"

end Level

/-- What the library notes about its own work. -/
structure Note where
  level : Level
  text : String
deriving DecidableEq, Repr

namespace Note

def line (n : Note) : String := n.level.name ++ " " ++ n.text

def error (text : String) : Note := ⟨.error, text⟩
def warn (text : String) : Note := ⟨.warn, text⟩
def debug (text : String) : Note := ⟨.debug, text⟩
def trace (text : String) : Note := ⟨.trace, text⟩

end Note
end QueueProbe
