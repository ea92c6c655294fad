import Mathlib.Tactic.Common
import CodePad.Terminal.Command

/-!
What commands do to the screen, apart from colours: they write texts, and now and then they move
the cursor. Cut in front of each such move, they are strips: a place on the screen, and what is
done from there on.
-/

namespace CodePad

namespace Command

/-- The text that some commands write. -/
def written (cs : List Command) : Text :=
  cs.flatMap fun
    | .write t => t
    | _ => []

@[simp] lemma written_nil : written [] = [] := rfl

@[simp] lemma written_append (xs ys : List Command) :
    written (xs ++ ys) = written xs ++ written ys := List.flatMap_append

@[simp] lemma written_cons_write (t : Text) (cs : List Command) :
    written (.write t :: cs) = t ++ written cs := rfl

/-- Whether a command moves the cursor elsewhere. -/
def isMove : Command → Bool
  | moveTo _ _ => true
  | _ => false

/-- No command moves the cursor elsewhere. -/
def Stay (cs : List Command) : Prop := ∀ c ∈ cs, c.isMove = false

lemma Stay.append {xs ys : List Command} (hx : Stay xs) (hy : Stay ys) : Stay (xs ++ ys) :=
  fun c hc => (List.mem_append.mp hc).elim (hx c) (hy c)

instance : DecidablePred Stay := fun cs =>
  List.decidableBAll (fun c : Command => c.isMove = false) cs

/-- The commands before the first move of the cursor. -/
def beforeMove (cs : List Command) : List Command := cs.takeWhile fun c => !c.isMove

lemma beforeMove_append {xs : List Command} (h : Stay xs) (ys : List Command) :
    beforeMove (xs ++ ys) = xs ++ beforeMove ys :=
  List.takeWhile_append_of_pos fun c hc => by rw [h c hc, Bool.not_false]

end Command

/-- A place on the screen and what is done from there on. -/
structure Strip where
  row : UInt16
  col : UInt16
  commands : List Command

namespace Strip

def toCommands (s : Strip) : List Command := .moveTo s.row s.col :: s.commands

end Strip

namespace Command

/-- Commands cut in front of each move of the cursor, without those before the first. -/
def strips : List Command → List Strip
  | [] => []
  | moveTo row col :: cs => ⟨row, col, beforeMove cs⟩ :: strips cs
  | _ :: cs => strips cs

lemma strips_append {xs : List Command} (h : Stay xs) (ys : List Command) :
    strips (xs ++ ys) = strips ys := by
  induction xs with
  | nil => rfl
  | cons c xs ih =>
    have hxs := ih fun d hd => h d (by simp [hd])
    cases c with
    | moveTo row col => exact absurd (h (.moveTo row col) (by simp)) (by simp [isMove])
    | _ => exact hxs

lemma beforeMove_flatMap (ss : List Strip) : beforeMove (ss.flatMap Strip.toCommands) = [] := by
  cases ss <;> rfl

/-- Strips are found again in their commands. -/
lemma strips_flatMap {ss : List Strip} (h : ∀ s ∈ ss, Stay s.commands) :
    strips (ss.flatMap Strip.toCommands) = ss := by
  induction ss with
  | nil => rfl
  | cons s ss ih =>
    have hs : Stay s.commands := h s (by simp)
    rw [List.flatMap_cons, Strip.toCommands, List.cons_append, strips, strips_append hs,
      beforeMove_append hs, beforeMove_flatMap, List.append_nil,
      ih fun s' hs' => h s' (by simp [hs'])]

end Command

end CodePad
