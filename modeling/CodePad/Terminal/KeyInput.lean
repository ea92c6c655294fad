import CodePad.Terminal.Key
import CodePad.Text.Basic

/-!
Reading keys from the characters that a terminal sends. A key is one character, or an escape
sequence: the escape character, then `O` and a letter, or a bracket, numbers and a final
character. Sequences that name no key are passed over. What a terminal sends comes in pieces,
and a sequence may go on in the next one: the start of it is given back.
-/

namespace CodePad

namespace Key

def ofChar (c : Char) : Key :=
  match c with
  | '\r' => ⟨.enter, {}, .press⟩
  | '\t' => ⟨.tab, {}, .press⟩
  | '\x7f' => ⟨.backspace, {}, .press⟩
  | '\x00' => control ' '
  | c =>
    if c.toNat ≤ 0x1a then control (Char.ofNat (c.toNat + 0x60))
    else if 0x1c ≤ c.toNat && c.toNat ≤ 0x1f then control (Char.ofNat (c.toNat + 0x18))
    else typing c

def ofFinal? (c : Char) : Option KeyCode :=
  match c with
  | 'A' => some .up
  | 'B' => some .down
  | 'C' => some .right
  | 'D' => some .left
  | 'H' => some .home
  | 'F' => some .endKey
  | 'P' => some (.function 1)
  | 'Q' => some (.function 2)
  | 'S' => some (.function 4)
  | _ => none

/-- The key of the letter after the escape character and `O`. -/
def ofSingleShift? (c : Char) : Option KeyCode :=
  if c = 'R' then some (.function 3) else ofFinal? c

def functionNumbers : List Nat :=
  [11, 12, 13, 14, 15, 17, 18, 19, 20, 21, 23, 24, 25, 26, 28, 29, 31, 32, 33, 34]

def ofNumber? (n : Nat) : Option KeyCode :=
  match n with
  | 1 | 7 => some .home
  | 2 => some .insert
  | 3 => some .delete
  | 4 | 8 => some .endKey
  | 5 => some .pageUp
  | 6 => some .pageDown
  | _ =>
    (functionNumbers.idxOf? n).map fun i => .function (UInt8.ofNat (i + 1))

/-- The modifiers of a sequence's parameter, which is one more than the sum of their bits. -/
def modifiersOf (parameter : Nat) : Modifiers :=
  let bits := parameter - 1
  { shift := bits.testBit 0
    alt := bits.testBit 1
    control := bits.testBit 2
    super := bits.testBit 3
    hyper := bits.testBit 4
    metaKey := bits.testBit 5 }

def isFinal (c : Char) : Bool := '@' ≤ c && c ≤ '~'

/-- What stands before the final character of a sequence. Only a digit begins it. -/
def numbersOf : Text → Text
  | [] => []
  | c :: t => if c.isDigit then c :: t.takeWhile (!isFinal ·) else []

def number? (t : Text) : Option Nat :=
  if t.isEmpty || !t.all Char.isDigit then none
  else
    let n := t.foldl (fun n c => 10 * n + (c.toNat - '0'.toNat)) 0
    if n < 256 then some n else none

def parameters (t : Text) : Option Nat × Option Nat :=
  let first := t.takeWhile (· ≠ ';')
  (number? first, number? ((t.drop (first.length + 1)).takeWhile (· ≠ ';')))

/-- The parameter of the modifiers before a letter: the second number, or else the last digit. -/
def letterParameter? (t : Text) : Option Nat :=
  if t.isEmpty then some 0
  else
    match (parameters t).2, t.getLast? with
    | some m, _ => some m
    | none, some c => number? [c]
    | none, none => none

/-- The key of a sequence after its bracket: its numbers and its final character. -/
def ofSequence? (t : Text) (final : Char) : Option Key :=
  if final = '~' then do
    let code ← ofNumber? (← (parameters t).1)
    some ⟨code, modifiersOf ((parameters t).2.getD 0), .press⟩
  else if final = 'Z' && t.isEmpty then some ⟨.backTab, { shift := true }, .press⟩
  else do
    let code ← ofFinal? final
    some ⟨code, modifiersOf (← letterParameter? t), .press⟩

/-- The keys of the characters that a terminal sends, and the sequence at their end that is not
finished. An escape character with nothing after it, or with another one, is the escape key;
before any other key it stands for Alt. -/
def read : Text → List Key × Text
  | [] => ([], [])
  | '\x1b' :: t =>
    match t with
    | [] | ['\x1b'] => ([⟨.escape, {}, .press⟩], [])
    | '\x1b' :: t => (read t).map (⟨.escape, {}, .press⟩ :: ·) id
    | ['O'] => ([], ['\x1b', 'O'])
    | 'O' :: c :: t =>
      match ofSingleShift? c with
      | some code => (read t).map (⟨code, {}, .press⟩ :: ·) id
      | none => read t
    | '[' :: t =>
      match h : t.drop (numbersOf t).length with
      -- No final character has come yet: all of it waits.
      | [] => ([], '\x1b' :: '[' :: t)
      | final :: rest =>
        have : rest.length < t.length := by
          have hle := congrArg List.length h
          rw [List.length_drop, List.length_cons] at hle
          omega
        match ofSequence? (numbersOf t) final with
        | some k => (read rest).map (k :: ·) id
        | none => read rest
    | c :: t => (read t).map ((ofChar c).withAlt :: ·) id
  | c :: t => (read t).map (ofChar c :: ·) id
termination_by t => t.length
decreasing_by
  all_goals
    simp only [List.length_cons]
    omega

end Key

end CodePad
