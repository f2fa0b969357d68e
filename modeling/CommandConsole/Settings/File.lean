import CommandConsole.Settings.Decode

/-! # Configuration files

Settings come from a file: one that is named, or the one in the configuration directory of the
user. What is found at a path is given as a value, so that all decisions are taken here.
-/

namespace CommandConsole.Settings

inductive FileContent where
  | missing
  | directory
  | bytes (content : ByteArray)
  /-- Something that cannot be read, for the given reason. -/
  | unreadable (reason : String)

inductive LoadError where
  /-- The file could not be read. -/
  | unreadable (path reason : String)
  /-- The file holds no settings. -/
  | faulty (path : String) (fault : Fault)
  /-- A text that is in no file holds no settings. -/
  | faultyText (fault : Fault)
deriving DecidableEq

namespace LoadError

def message : LoadError → String
  | .unreadable path reason => s!"Could not read config file at '{path}': {reason}"
  | .faulty path fault => s!"Failed to parse TOML file at '{path}': {fault.report}"
  | .faultyText fault => s!"Invalid configuration: {fault.report}"

def cause : LoadError → String
  | .unreadable _ reason => reason
  | .faulty _ fault | .faultyText fault => fault.report

end LoadError

def FileContent.text : FileContent → Except String String
  | .missing => .error "No such file or directory (os error 2)"
  | .directory => .error "Is a directory (os error 21)"
  | .unreadable reason => .error reason
  | .bytes content =>
      match String.fromUTF8? content with
      | some text => .ok text
      | none => .error "stream did not contain valid UTF-8"

def parse (text : String) : Except LoadError Settings :=
  match ofToml text with
  | .ok settings => .ok settings
  | .error fault => .error (.faultyText fault)

def load (path : String) (content : FileContent) : Except LoadError Settings :=
  match content.text with
  | .error reason => .error (.unreadable path reason)
  | .ok text =>
      match ofToml text with
      | .ok settings => .ok settings
      | .error fault => .error (.faulty path fault)

/-- The settings in the file at a path, or the default ones if there is no such file. -/
def loadOrDefault (path : String) : FileContent → Except LoadError Settings
  | .missing => .ok .default
  | content => load path content

def joinPath (directory entry : String) : String :=
  match directory.toList.getLast? with
  | none => entry
  | some '/' => directory ++ entry
  | some _ => directory ++ "/" ++ entry

/-- The path of the configuration file: the one that is named, unless the name is empty, else the
one in the configuration directory. -/
def configPath? (named configDirectory : Option String) : Option String :=
  match named.filter fun path => !path.isEmpty with
  | some path => some path
  | none =>
      configDirectory.map fun directory =>
        joinPath (joinPath directory "typeshell") "config.toml"

end CommandConsole.Settings
