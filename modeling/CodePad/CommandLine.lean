import CodePad.Log.Filter
import CodePad.Settings.Load

/-!
The command line: what its arguments ask for, and how the editor starts. A start reads the
settings and opens the log; the terminal comes last.
-/

namespace CodePad

namespace CommandLine

inductive Request where
  | usage
  | version
  /-- Editing, with the settings of a file. -/
  | edit (settings : Option String)
  deriving DecidableEq, Repr

inductive UsageError where
  | missingPath
  | unknownArgument (arg : String)
  deriving DecidableEq, Repr

/-- Reads the arguments from left to right; of several settings files the last counts. -/
def parse (settings : Option String) : List String → Except UsageError Request
  | [] => .ok (.edit settings)
  | arg :: args =>
    if arg = "--help" ∨ arg = "-h" then .ok .usage
    else if arg = "--version" ∨ arg = "-V" then .ok .version
    else if arg = "--config" ∨ arg = "-c" then
      match args with
      | path :: args => parse (some path) args
      | [] => .error .missingPath
    else .error (.unknownArgument arg)

def versionText : String := "bracepad 0.1.0"

def usageLines : List String :=
  [versionText ++ " - a minimal terminal code pad",
    "",
    "Usage: bracepad [OPTIONS]",
    "",
    "Options:",
    "  -c, --config PATH  Read settings from PATH instead of ~/.bracepad.toml",
    "  -h, --help         Show this help message",
    "  -V, --version      Show version information",
    "",
    "Keys:",
    "  Enter              New line, keeping indentation and closing braces",
    "  Tab                Insert spaces",
    "  Arrows, Home, End  Move (Shift extends the selection)",
    "  C-Home, C-End      Start / end of document",
    "  F2                 Toggle line numbers",
    "  F3                 Toggle highlighting",
    "  C-n, C-s, C-w      New File, Save, Save As (not implemented)",
    "  C-q                Exit"]

def unlines (ls : List String) : String := String.join (ls.map (· ++ "\n"))

inductive Failure where
  | usage (e : UsageError)
  /-- The system refused something. -/
  | system (reason : String)
  | settings (path : String) (e : SettingsError)

namespace Failure

def ofLoadError : LoadError → Failure
  | .unreadable reason => system reason
  | .invalid path e => settings path e

def message : Failure → String
  | usage .missingPath => "--config needs a path"
  | usage (.unknownArgument arg) => "Unknown argument: " ++ arg
  | system reason => "I/O error: " ++ reason
  | settings path e =>
    "Invalid config file " ++ path ++ ": " ++
      String.ofList (e.message?.getD "TOML parse error".toList)

end Failure

def startEvents (s : Settings) : List Log.Event :=
  [⟨.info, "bracepad"⟩] ++
    (if s.highlight then Lexer.builtin.rules.map fun _ => ⟨.debug, "bracepad::syntax::tokenizer"⟩
      else []) ++
    [⟨.debug, "bracepad::highlight"⟩] ++
    s.badColors.map fun _ => ⟨.warn, "bracepad::config"⟩

structure Surroundings where
  home : Option String
  /-- The text of a filter for the log, if the surroundings give one. -/
  logFilter : Option String
  look : String → FileEntry
  /-- Why a path cannot be written to, if it cannot. -/
  refuses : String → Option String

/-- What a run prints and logs, and the failure in which it ends, if any. -/
structure Outcome where
  output : String := ""
  failure : Option Failure := none
  /-- The path of the log and what is written there. -/
  log : Option (String × List Log.Event) := none

namespace Outcome

def code (o : Outcome) : Nat := if o.failure.isSome then 1 else 0

end Outcome

def logged (logFilter : Option String) (s : Settings) : List Log.Event :=
  (startEvents s).filter (Log.Filter.choose logFilter s.logLevel).keeps

/-- Starts the editor where opening the terminal fails for the given reason. -/
def startWithoutTerminal (w : Surroundings) (reason : String) (s : Settings) : Outcome :=
  match s.logFile with
  | none => { failure := some (.system reason) }
  | some path =>
    -- The log comes before the terminal, so it has been written when opening that one fails.
    match w.refuses path with
    | some refusal => { failure := some (.system refusal) }
    | none => { failure := some (.system reason), log := some (path, logged w.logFilter s) }

def run (w : Surroundings) (noTerminal : String) (args : List String) : Outcome :=
  match parse none args with
  | .error e => { failure := some (.usage e) }
  | .ok .usage => { output := unlines usageLines }
  | .ok .version => { output := unlines [versionText] }
  | .ok (.edit settings) =>
    match Settings.load w.look w.home settings with
    | .error e => { failure := some (.ofLoadError e) }
    | .ok s => startWithoutTerminal w noTerminal s

end CommandLine

end CodePad
