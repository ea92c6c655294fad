import CodePad.CommandLine
import CodePad.Editor.Session
import CodePad.Terminal.KeyInput

/-!
The program. It expects a terminal that passes on every key at once, and takes the size of the
terminal from the environment.
-/

namespace CodePad

def readEntry (path : String) : IO FileEntry := do
  try
    return .file (← IO.FS.readBinFile path)
  catch e =>
    return .absent (toString e)

/-- The settings of a start; a file that is missing from the home folder is none. -/
def readSettings (explicit home : Option String) : IO (Except LoadError Settings) := do
  let path := explicit.orElse fun _ => home.map (Settings.joinPath · Settings.homeFile)
  match path with
  | none => return Settings.load (fun _ => .absent "") home explicit
  | some path =>
    let entry ← readEntry path
    return Settings.load (fun _ => entry) home explicit

def writeLog (s : Settings) : IO Unit := do
  match s.logFile with
  | none => return
  | some path =>
    let filter ← IO.getEnv "BRACEPAD_LOG"
    let handle ← IO.FS.Handle.mk path .append
    for e in CommandLine.logged filter s do
      handle.putStrLn (e.level.name ++ " " ++ e.target)

def envNumber (name : String) (default : Nat) : IO UInt16 := do
  let n := ((← IO.getEnv name).bind String.toNat?).getD default
  return UInt16.ofNat (min n 65535)

def send (commands : List Command) : IO Unit := do
  let out ← IO.getStdout
  out.putStr (String.ofList (Command.encodeAll commands))
  out.flush

/-- Draws frames and takes in keys until the editor stops or the input ends. The start of an
unfinished sequence waits for what the terminal sends next. -/
partial def interact (s : Session) (keys : List Key) (unfinished : Text) : IO Unit := do
  if !s.editor.running then return
  let some s := { s with frames := [] }.draw .standard
    | throw (IO.userError "a line takes more columns than are left")
  send s.output
  match keys with
  | k :: keys => interact (s.receive (.key k)) keys unfinished
  | [] =>
    let bytes ← (← IO.getStdin).read 4096
    if bytes.isEmpty then return
    match Key.read (unfinished ++ ((String.fromUTF8? bytes).getD "").toList) with
    | ([], unfinished) => interact s [] unfinished
    | (k :: keys, unfinished) => interact (s.receive (.key k)) keys unfinished

def edit (s : Settings) : IO (Option CommandLine.Failure) := do
  writeLog s
  if !(← (← IO.getStdin).isTty) then
    return some (.system "not a terminal")
  let size : Size := ⟨← envNumber "LINES" 24, ← envNumber "COLUMNS" 80⟩
  send Command.opening
  try
    interact { editor := s.editor.forceRedraw, size } [] []
  finally
    send Command.closing
  return none

def perform (args : List String) : IO (Option CommandLine.Failure) := do
  match CommandLine.parse none args with
  | .error e => return some (.usage e)
  | .ok .usage =>
    IO.print (CommandLine.unlines CommandLine.usageLines)
    return none
  | .ok .version =>
    IO.print (CommandLine.unlines [CommandLine.versionText])
    return none
  | .ok (.edit explicit) =>
    match ← readSettings explicit (← IO.getEnv "HOME") with
    | .error e => return some (.ofLoadError e)
    | .ok s =>
      try
        edit s
      catch e =>
        return some (.system (toString e))

end CodePad

def main (args : List String) : IO UInt32 := do
  match ← CodePad.perform args with
  | none => return 0
  | some failure =>
    IO.eprintln ("Error: " ++ failure.message)
    return 1
