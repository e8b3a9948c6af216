import QueueProbe.Files
import QueueProbe.Journal.Line
import QueueProbe.Journal.Spec
import QueueProbe.Settings.Basic

/-! The log of a running program: started once, with one format and one place to write to, while
what is wanted of it may change. The directory of a log file is made at the start, and the file when
the first line is written to it. -/

namespace QueueProbe

inductive LoggingError where
  | spec (spec message : String)
  | file (path message : String)
  | start (message : String)
  | notInitialised
deriving DecidableEq, Repr

def LoggingError.message : LoggingError → String
  | spec s m => "Invalid log specification '" ++ s ++ "': " ++ m
  | file p m => "Cannot log to file " ++ p ++ ": " ++ m
  | start m => "Cannot start logger: " ++ m
  | notInitialised => "Logger not initialised; call init_logging first"

instance : Debug LoggingError where
  debug
    | .spec s m => Text.record "Spec" [("spec", debug s), ("message", debug m)]
    | .file p m => Text.record "File" [("path", debug p), ("message", debug m)]
    | .start m => Text.record "Start" [("message", debug m)]
    | .notInitialised => "NotInitialised"

instance : Failure LoggingError := ⟨LoggingError.message⟩

/-- What the log can be asked for in vain. -/
inductive LoggingFault where
  | unreadable
  | noFile
  | noDirectory
  | alreadyStarted
  | noWriter (name : String)
deriving DecidableEq, Repr

def LoggingFault.text : LoggingFault → String
  | unreadable => "a part makes no sense"
  | noFile => "not the path of a file"
  | noDirectory => "no directory can be made there"
  | alreadyStarted => "a logger was started before"
  | noWriter name => "no writer is called " ++ name

structure LogFile where
  start : Place
  way : List String
  name : String
deriving DecidableEq, Repr

structure Logger where
  spec : LogSpec
  format : LogFormat
  color : Bool
  file : Option LogFile
deriving DecidableEq, Repr

structure LogSession where
  logger : Option Logger := none
  files : FileTree := {}
  here : Place := []
  /-- Whether the terminal is to be painted. -/
  painted : Bool := false
  /-- What went to the terminal. -/
  shown : String := ""

namespace LogSession

/-- The file of a path; none if a directory stands there, if the path ends in a slash or in dots that
stand for a directory, or if the name has its only dot in front. -/
def file? (s : LogSession) (path : String) : Option LogFile :=
  match s.files.find? s.here path with
  | some (_, .directory) => none
  | _ =>
    match (FileTree.pieces path).reverse with
    | [] => none
    | name :: way =>
      if name ∈ ["", ".", ".."] ∨ (name.startsWith "." ∧ name.toList.count '.' = 1) then none
      else some ⟨FileTree.origin s.here path, way.reverse.filter fun p => p ≠ "" ∧ p ≠ ".", name⟩

/-- The session once the directory of its log file is there; none if that cannot be. -/
def readied (s : LogSession) : Option LogFile → Option LogSession
  | none => some s
  | some f => (f.way.foldlM FileTree.enter (s.files, f.start)).map fun r => { s with files := r.1 }

def tell (s : LogSession) (line : String) : LogSession := { s with shown := s.shown ++ line ++ "\n" }

/-- Shows a line or adds it to the log file. A file that cannot be written loses it. -/
def write (s : LogSession) (file : Option LogFile) (line : String) : LogSession :=
  match file with
  | none => s.tell line
  | some f =>
    { s with files :=
      (s.files.append f.start f.way f.name (Utf8.encode (line ++ "\n"))).getD s.files }

/-- Writes a record if it is wanted of `source`. -/
def offer (s : LogSession) (l : Logger) (stamp : Stamp) (source : String) (r : LogRecord) :
    LogSession :=
  if l.spec.wants r.level source r.text then
    s.write l.file (r.written l.format (l.color && s.painted) stamp)
  else s

def defaultWriter : String := "_Default"

/-- The writers that a record is for: a target in braces names them, and is no source then. -/
def writers? (r : LogRecord) : Option (List String) :=
  match r.target.toList with
  | '\x7b' :: rest => some ((Text.splitChars ',' rest.dropLast).map String.ofList)
  | _ => none

/-- Takes a record, once there is a logger. Writers that do not exist are told of, on the terminal. -/
def record (s : LogSession) (stamp : Stamp) (wording : LoggingFault → String) (r : LogRecord) :
    LogSession :=
  match s.logger, writers? r with
  | none, _ => s
  | some l, none => s.offer l stamp r.target r
  | some l, some names =>
    let unknown := names.filter (· ≠ defaultWriter)
    let told := unknown.foldl (fun s name => s.tell (wording (.noWriter name))) s
    if defaultWriter ∈ names then told.offer l stamp "" r else told

def opening (level : String) (format : LogFormat) : LogRecord where
  level := .debug
  target := "mqverify::core::logging"
  line := some 85
  text := "logging initialised at " ++ level ++ " in " ++ format.name ++ " format"

def specOf (wording : LoggingFault → String) (level : String) : Except LoggingError LogSpec :=
  match LogSpec.ofText? level with
  | some spec => .ok spec
  | none => .error (.spec level (wording .unreadable))

def fileOf (s : LogSession) (wording : LoggingFault → String) :
    Option String → Except LoggingError (Option LogFile)
  | none => .ok none
  | some path =>
    match s.file? path with
    | some f => .ok (some f)
    | none => .error (.file path (wording .noFile))

/-- The session after a start, and what went wrong with it. A logger that was started before keeps
running as it is. -/
def start (s : LogSession) (stamp : Stamp) (wording : LoggingFault → String) (level : String)
    (format : LogFormat) (file : Option String) (color : Bool) : LogSession × Option LoggingError :=
  match specOf wording level, s.fileOf wording file with
  | .error e, _ => (s, some e)
  | .ok _, .error e => (s, some e)
  | .ok spec, .ok file =>
    match s.readied file with
    | none => (s, some (.start (wording .noDirectory)))
    | some s =>
      if s.logger.isSome then (s, some (.start (wording .alreadyStarted)))
      else
        let running := { s with logger := some ⟨spec, format, color, file⟩ }
        (running.record stamp wording (opening level format), none)

def startFrom (s : LogSession) (stamp : Stamp) (wording : LoggingFault → String)
    (settings : LoggingSettings) : LogSession × Option LoggingError :=
  match settings.logFormat with
  | .ok format => s.start stamp wording settings.level format settings.file settings.color
  | .error e => (s, some (.spec settings.format e.message))

/-- Changes what is wanted; format, file and colour stay. -/
def reconfigure (s : LogSession) (wording : LoggingFault → String) (level : String) :
    LogSession × Option LoggingError :=
  match s.logger with
  | none => (s, some .notInitialised)
  | some l =>
    match specOf wording level with
    | .ok spec => ({ s with logger := some { l with spec } }, none)
    | .error e => (s, some e)

end LogSession
end QueueProbe
