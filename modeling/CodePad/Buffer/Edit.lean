import CodePad.Buffer.Basic
import CodePad.Text.Blank

/-!
Changing the text of a buffer at its selection. Without one nothing is changed.
-/

namespace CodePad

namespace Buffer

/-- Puts `new` in place of the characters from `start` up to `stop` and the caret after it,
without highlighting. -/
def replace (b : Buffer) (start stop : Nat) (new : Text) : Buffer :=
  let r := b.document.replace start stop new
  { b with document := r.1, selection := some (.caret r.2), goal := none }

def insert (b : Buffer) (t : Text) : Buffer :=
  match b.range with
  | none => b
  | some r => (b.replace r.start r.stop t).highlight

/-- Deletes the selection, or else the character before the caret. -/
def backspace (b : Buffer) : Buffer :=
  match b.range with
  | none => b
  | some r =>
    if !r.isEmpty then (b.replace r.start r.stop []).highlight
    else if 0 < r.start then (b.replace (r.start - 1) r.start []).highlight
    else b

/-- Deletes the selection, or else the character after the caret. -/
def deleteForward (b : Buffer) : Buffer :=
  match b.range with
  | none => b
  | some r =>
    if !r.isEmpty then (b.replace r.start r.stop []).highlight
    else if r.start < b.document.length then (b.replace r.start (r.start + 1) []).highlight
    else b

/-- Inserts one unit of indentation in front of the selection, which ends there. -/
def tab (b : Buffer) : Buffer :=
  match b.range with
  | none => b
  | some r => (b.replace r.start r.start b.indentUnit).highlight

def opensBlock (before : Text) : Bool := before.getLast? = some '\x7b'

/-- What Enter inserts before the caret and after it, and what it puts at the end of the
document, given the line up to the selection. -/
structure LineBreak where
  head : Text
  tail : Text
  last : Text
  deriving DecidableEq, Repr

def lineBreak (policy : EnterPolicy) (indentUnit before : Text) : LineBreak :=
  let closing : Text := ['\x7d']
  match policy, opensBlock before with
  | .carryIndent, false => ⟨'\n' :: before.indent, [], []⟩
  | .carryIndent, true =>
    ⟨'\n' :: before.indent ++ indentUnit, '\n' :: before.indent ++ closing, []⟩
  | .braceOnly, false => ⟨['\n'], [], []⟩
  | .braceOnly, true => ⟨'\n' :: indentUnit, [], '\n' :: closing⟩

/-- Puts a text at the end of the document, without highlighting. -/
def append (b : Buffer) (t : Text) : Buffer :=
  if t.isEmpty then b
  else { b with document := (b.document.replace b.document.length b.document.length t).1 }

def placeCaret (b : Buffer) (offset : Nat) : Buffer :=
  { b with selection := some (.ofRange b.document (.caret offset)) }

def enter (b : Buffer) : Buffer :=
  match b.range with
  | none => b
  | some r =>
    let br := lineBreak b.policy b.indentUnit (b.text.lineBefore r.start)
    let edited := (b.replace r.start r.stop (br.head ++ br.tail)).append br.last
    (edited.placeCaret (r.start + br.head.length)).highlight

end Buffer

end CodePad
