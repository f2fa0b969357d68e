import CommandConsole.Program

/-! # The command line

Collects what a run depends on, and prints what it gives.
-/

open CommandConsole

def readContent (path : String) : IO Settings.FileContent := do
  try
    return .bytes (← IO.FS.readBinFile path)
  catch error =>
    match error with
    | .noFileOrDirectory _ _ _ | .noSuchThing _ _ _ => return .missing
    | .inappropriateType _ 21 _ => return .directory
    | .inappropriateType _ 20 _ => return .unreadable "Not a directory (os error 20)"
    | .permissionDenied _ code _ => return .unreadable s!"Permission denied (os error {code})"
    | error => return .unreadable (toString error)

def configDirectory : IO (Option String) := do
  match ← IO.getEnv "XDG_CONFIG_HOME" with
  | some directory => if directory.startsWith "/" then return some directory
  | none => pure ()
  return (← IO.getEnv "HOME").map (Settings.joinPath · ".config")

def main (words : List String) : IO UInt32 := do
  let named ← IO.getEnv "TYPESHELL_CONFIG"
  let directory ← configDirectory
  let bare : Program.Environment := ⟨named, directory, fun _ => .missing⟩
  let path? := match Options.read words with
    | .ok options => (Program.settingsPath? bare options).map Prod.fst
    | .error _ => none
  let content ← match path? with
    | some path => readContent path
    | none => pure .missing
  let outcome := Program.run { bare with content := fun _ => content } words
  IO.print outcome.output
  IO.eprint outcome.errors
  return outcome.exitCode.toUInt32
