import CodePad.Toml.Scalars

/-!
Reading the values and documents of TOML 1.0.
-/

namespace CodePad.Toml

namespace Read

/-- The rest of an array, between items; commas separate them and may follow the last. -/
def items? (value? : Text → Read Value) : (fuel : Nat) → Text → Read (List Value)
  | 0, _ => none
  | fuel + 1, t =>
    match gap t with
    | ']' :: t => some ([], t)
    | t =>
      (value? t).bind fun (v, t) =>
        match gap t with
        | ',' :: t => (items? value? fuel t).map fun (vs, t) => (v :: vs, t)
        | ']' :: t => some ([v], t)
        | _ => none

def pair? (value? : Text → Read Value) (t : Text) : Option ((List String × Value) × Text) := do
  let (k, t) ← key? (maxDepth - 1) t
  let t ← expect? '=' t
  let (v, t) ← value? (blanks t)
  some ((k, v), t)

/-- The rest of a table in braces that has at least one pair; no comma follows the last. -/
def pairs? (value? : Text → Read Value) : (fuel : Nat) → Text → Read (List (List String × Value))
  | 0, _ => none
  | fuel + 1, t =>
    (pair? value? t).bind fun (p, t) =>
      match blanks t with
      | ',' :: t => (pairs? value? fuel t).map fun (ps, t) => (p :: ps, t)
      | '\x7d' :: t => some ([p], t)
      | _ => none

/-- A value nested less than `depth` deep. -/
def value? : (depth : Nat) → Text → Read Value
  | 0, _ => none
  | depth + 1, t =>
    match t with
    | '[' :: u =>
      if depth = 0 then none
      else (items? (value? depth) (u.length + 1) u).map fun (vs, rest) => (.array vs, rest)
    | '\x7b' :: u =>
      if depth = 0 then none
      else
        match blanks u with
        | '\x7d' :: rest => some (.table .inline [], rest)
        | u =>
          (pairs? (value? depth) (u.length + 1) u).bind fun (ps, rest) =>
            (Entries.ofPairs ps).map fun es => (.table .inline es, rest)
    | '\x22' :: _ | '\x27' :: _ =>
      (string? t).map fun (s, rest) => (.string (String.ofList s), rest)
    | _ =>
      let (text, rest) := scalarText t
      (scalar? text).map (·, rest)

/-- A header, whose brackets must close in the same line. -/
def header? : Text → Option (Statement × Text)
  | '[' :: '[' :: t => do
    let (k, t) ← key? (maxDepth - 1) t
    let t ← expect? ']' t
    let t ← expect? ']' t
    some (.row k, t)
  | '[' :: t => do
    let (k, t) ← key? (maxDepth - 1) t
    let t ← expect? ']' t
    some (.table k, t)
  | _ => none

def statement? (t : Text) : Read Statement :=
  match t with
  | '[' :: _ => header? t
  | _ => (pair? (value? maxDepth) t).map fun ((k, v), t) => (.entry k v, t)

def statements? : (fuel : Nat) → Text → Option (List Statement)
  | 0, _ => none
  | fuel + 1, t =>
    match gap t with
    | [] => some []
    | '#' :: t => if (t.dropWhile isCommentChar).isEmpty then some [] else none
    | t => do
      let (s, t) ← statement? t
      let t ← lineEnd? t
      let rest ← statements? fuel t
      some (s :: rest)

/-- A document. A byte order mark may come first. -/
def document? (t : Text) : Option Entries :=
  let t := if t.head? = some '\ufeff' then t.drop 1 else t
  (statements? (t.length + 1) t).bind Entries.ofStatements

end Read

end CodePad.Toml
