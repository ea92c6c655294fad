import CodePad.Settings.Basic
import CodePad.Text.Quoted
import CodePad.Toml.Reader

/-!
Reading settings from the table of a document. Every key must be one of the settings and have
a value of its type; the first that does not is reported. What is missing keeps its default.
-/

namespace CodePad

inductive SettingsError where
  /-- The file is no TOML document. -/
  | malformed
  | unknownField (name : String)
  | wrongType (found : Toml.Value) (expected : String)
  /-- A number that is less than zero. -/
  | negative (n : Int) (expected : String)
  | unknownPolicy (name : String)
  /-- The policy is neither a name nor a table that holds one. -/
  | noPolicy

namespace Settings

def fields : List String :=
  ["indent_width", "enter_policy", "highlight", "show_line_numbers", "log_file", "log_level",
    "colors"]

def policies : List (String × EnterPolicy) :=
  [("carry-indent", .carryIndent), ("brace-only", .braceOnly)]

/-- The key under which a date or time stands when it is read as a table. -/
def momentKey : String := "$__toml_private_datetime"

end Settings

namespace SettingsError

def named (name : Text) : Text := '\x60' :: name ++ ['\x60']

def describe : Toml.Value → Text
  | .string s => "string ".toList ++ Text.quoted s.toList
  | .integer n => "integer ".toList ++ named (Text.signedDigits n)
  | .float x => "floating point ".toList ++ named x.text
  | .boolean b => "boolean ".toList ++ named (if b then "true" else "false").toList
  | .moment _ | .table _ _ => "map".toList
  | .array _ | .tables _ => "sequence".toList

def namesWith (between : String) (names : List String) : Text :=
  List.intercalate between.toList (names.map fun n => named n.toList)

/-- The message of an error; those of the language itself and of a policy of another type have
none. -/
def message? : SettingsError → Option Text
  | malformed | noPolicy => none
  | unknownField name =>
    some ("unknown field ".toList ++ named name.toList ++ ", expected one of ".toList ++
      namesWith ", " Settings.fields)
  | wrongType found expected =>
    some ("invalid type: ".toList ++ describe found ++ ", expected ".toList ++ expected.toList)
  | negative n expected =>
    some ("invalid value: ".toList ++ describe (.integer n) ++ ", expected ".toList ++
      expected.toList)
  | unknownPolicy name =>
    some ("unknown variant ".toList ++ named name.toList ++ ", expected ".toList ++
      namesWith " or " (Settings.policies.map Prod.fst))

end SettingsError

namespace Settings

def clampWidth (n : Nat) : Nat := max 1 (min n 16)

def width? : Toml.Value → Except SettingsError Nat
  | .integer n => if n < 0 then .error (.negative n "usize") else .ok (clampWidth n.toNat)
  | v => .error (.wrongType v "usize")

def bool? : Toml.Value → Except SettingsError Bool
  | .boolean b => .ok b
  | v => .error (.wrongType v "a boolean")

def path? : Toml.Value → Except SettingsError String
  | .string s => .ok s
  | v => .error (.wrongType v "path string")

def string? : Toml.Value → Except SettingsError String
  | .string s => .ok s
  | v => .error (.wrongType v "a string")

def policyOfName? (name : String) : Except SettingsError EnterPolicy :=
  match policies.lookup name with
  | some p => .ok p
  | none => .error (.unknownPolicy name)

/-- Reads a policy: its name, or a table with the name as its one key and an empty table or
array under it. -/
def policy? : Toml.Value → Except SettingsError EnterPolicy
  | .string s => policyOfName? s
  | .table _ [(name, content)] =>
    match policyOfName? name with
    | .ok p => if content.isEmpty then .ok p else .error .noPolicy
    | .error e => .error e
  | _ => .error .noPolicy

def colors? : Toml.Value → Except SettingsError (List (String × String))
  | .table _ es => do
    let colors ← es.mapM fun (name, v) => return (name, ← string? v)
    return colors.mergeSort fun a b => a.1 ≤ b.1
  -- A date passes for a table with one text in it.
  | .moment text => .ok [(momentKey, text)]
  | v => .error (.wrongType v "a map")

def setField (s : Settings) (key : String) (v : Toml.Value) : Except SettingsError Settings :=
  match key with
  | "indent_width" => return { s with indentWidth := ← width? v }
  | "enter_policy" => return { s with enterPolicy := ← policy? v }
  | "highlight" => return { s with highlight := ← bool? v }
  | "show_line_numbers" => return { s with showLineNumbers := ← bool? v }
  | "log_file" => return { s with logFile := some (← path? v) }
  | "log_level" => return { s with logLevel := ← string? v }
  | "colors" => return { s with colors := ← colors? v }
  | _ => .error (.unknownField key)

def ofEntries (es : Toml.Entries) : Except SettingsError Settings :=
  es.foldlM (fun s (key, v) => s.setField key v) {}

def ofText (t : Text) : Except SettingsError Settings :=
  match Toml.Read.document? t with
  | some es => ofEntries es
  | none => .error .malformed

end Settings

end CodePad
