import CodePad.Settings.Read

/-!
Finding the settings file. A file that is asked for must be there; the one in the home folder
is read only if there is one.
-/

namespace CodePad

inductive FileEntry where
  /-- Nothing that can be read, and why. -/
  | absent (reason : String)
  | folder (reason : String)
  | file (contents : ByteArray)

inductive LoadError where
  | unreadable (reason : String)
  /-- The file at the path is not one of settings. -/
  | invalid (path : String) (error : SettingsError)

namespace Settings

def homeFile : String := ".bracepad.toml"

def joinPath (folder name : String) : String :=
  if folder.isEmpty || folder.toList.getLast? = some '/' then folder ++ name
  else folder ++ "/" ++ name

def ofFile (path : String) : FileEntry → Except LoadError Settings
  | .absent reason | .folder reason => .error (.unreadable reason)
  | .file contents =>
    match String.fromUTF8? contents with
    | none => .error (.unreadable "stream did not contain valid UTF-8")
    | some s =>
      match ofText s.toList with
      | .ok settings => .ok settings
      | .error e => .error (.invalid path e)

/-- The settings of the file asked for, or else of the one in the home folder. -/
def load (look : String → FileEntry) (home explicit : Option String) :
    Except LoadError Settings :=
  match explicit, home with
  | some path, _ => ofFile path (look path)
  | none, none => .ok {}
  | none, some home =>
    let path := joinPath home homeFile
    match look path with
    | .file contents => ofFile path (.file contents)
    | _ => .ok {}

end Settings

end CodePad
