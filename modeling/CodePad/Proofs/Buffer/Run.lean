import Mathlib.Tactic.Common
import CodePad.Buffer.Edit
import CodePad.Buffer.Motion

/-!
Everything that can happen to a buffer, and what becomes of it when such things happen one
after another.
-/

namespace CodePad

namespace Buffer

/-- Something that is done to a buffer. -/
inductive Action where
  | insert (t : Text)
  | insertChar (c : Char)
  | backspace
  | deleteForward
  | enter
  | tab
  | move (m : Motion) (extend : Bool)
  | setHighlighting (enabled : Bool)
  | highlight
  deriving DecidableEq, Repr

/-- The buffer after an action. -/
def apply (b : Buffer) : Action → Buffer
  | .insert t => b.insert t
  | .insertChar c => b.insert [c]
  | .backspace => b.backspace
  | .deleteForward => b.deleteForward
  | .enter => b.enter
  | .tab => b.tab
  | .move m extend => b.move m extend
  | .setHighlighting enabled => b.setHighlighting enabled
  | .highlight => b.highlight

/-- The buffer after some actions, the first of them first. -/
def run (b : Buffer) (actions : List Action) : Buffer := actions.foldl apply b

@[simp] lemma run_cons (b : Buffer) (a : Action) (actions : List Action) :
    b.run (a :: actions) = (b.apply a).run actions := rfl

lemma run_append (b : Buffer) (actions later : List Action) :
    b.run (actions ++ later) = (b.run actions).run later := List.foldl_append

/-- What every action keeps, a run keeps. -/
lemma run_induction {motive : Buffer → Prop} (step : ∀ b a, motive b → motive (b.apply a))
    {b : Buffer} (h : motive b) (actions : List Action) : motive (b.run actions) := by
  induction actions generalizing b with
  | nil => exact h
  | cons a actions ih => exact ih (step b a h)

end Buffer

end CodePad
