import QueueProbe.Files
import QueueProbe.Settings.Reading

/-! Settings loaded from a file. A path that is given must lead somewhere; the default path may lead
nowhere, and then the defaults are taken. -/

namespace QueueProbe

/-- Where a program runs. -/
structure Surroundings where
  files : FileTree
  here : Place
  home : String
  /-- Where the user wants settings to be kept; counts only if it starts at the top. -/
  configHome : Option String := none

namespace Surroundings

def joinPath (directory name : String) : String :=
  if directory.endsWith "/" then directory ++ name else directory ++ "/" ++ name

def configDirectory (s : Surroundings) : String :=
  match s.configHome with
  | some d => if d.startsWith "/" then d else joinPath s.home ".config"
  | none => joinPath s.home ".config"

def find? (s : Surroundings) (path : String) : Option FileEntry :=
  (s.files.find? s.here path).map (·.2)

/-- The text of a file, or why there is none. -/
def readText : FileEntry → Except String String
  | .directory => .error "Is a directory (os error 21)"
  | .file bs =>
    match Utf8.decode bs with
    | .ok text => .ok text
    | .error _ => .error "stream did not contain valid UTF-8"

end Surroundings

namespace Settings

open Surroundings

def directoryName : String := "mqverify"
def fileName : String := "mqverify.toml"

def defaultPath (s : Surroundings) : String :=
  joinPath (joinPath s.configDirectory directoryName) fileName

def ofFile (path : String) (e : FileEntry) : Except ConfigError Settings :=
  match readText e with
  | .ok text => ofToml text
  | .error why => .error (.io (path ++ ": " ++ why))

def load (s : Surroundings) : Option String → Except ConfigError Settings
  | some path =>
    match s.find? path with
    | some e => ofFile path e
    | none => .error (.notFound path)
  | none =>
    match s.find? (defaultPath s) with
    | some e => ofFile (defaultPath s) e
    | none => .ok {}

end Settings
end QueueProbe
