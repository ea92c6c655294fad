import CodePad.Proofs.Terminal.Strips

/-!
The looks of what commands write. A terminal writes each character with the colours and attributes
that are in force, its pen, and these stay as they are until a command changes them. Commands that
are tidy give back a plain pen before the cursor goes elsewhere, so what they do in one place does
not show in another.
-/

namespace CodePad

/-- The colours and attributes that a terminal writes with. -/
structure Pen where
  foreground : Color := .default
  background : Color := .default
  bold : Bool := false
  dim : Bool := false
  italic : Bool := false
  reverse : Bool := false
  deriving DecidableEq, Repr

namespace Pen

open Command

/-- The pen to begin with. -/
def plain : Pen := {}

/-- The pen that shows a style. -/
def ofStyle (s : Style) : Pen where
  foreground := s.foreground
  background := s.background
  bold := s.bold
  italic := s.italic
  reverse := s.reverse

/-- The pen for what is not part of the text. -/
def faint : Pen := { dim := true }

/-- What an attribute does to the pen. -/
def set (p : Pen) : Attribute → Pen
  | .reset => plain
  | .bold => { p with bold := true }
  | .dim => { p with dim := true }
  | .italic => { p with italic := true }
  | .reverse => { p with reverse := true }
  | .normalIntensity => { p with bold := false, dim := false }
  | .noReverse => { p with reverse := false }

/-- The pen after a command. -/
def step (p : Pen) : Command → Pen
  | .foreground color => { p with foreground := color }
  | .background color => { p with background := color }
  | .setAttribute a => p.set a
  | _ => p

/-- The pen after some commands. -/
def after (p : Pen) (cs : List Command) : Pen := cs.foldl step p

/-- The characters that some commands write, each with the pen that it is written with. -/
def paint : Pen → List Command → List (Char × Pen)
  | _, [] => []
  | p, .write t :: cs => t.map (fun c => (c, p)) ++ paint p cs
  | p, c :: cs => paint (p.step c) cs

variable (p : Pen)

@[simp] lemma after_append (xs ys : List Command) :
    p.after (xs ++ ys) = (p.after xs).after ys := List.foldl_append

@[simp] lemma paint_cons_write (t : Text) (cs : List Command) :
    p.paint (.write t :: cs) = t.map (fun c => (c, p)) ++ p.paint cs := rfl

lemma paint_append (xs ys : List Command) :
    p.paint (xs ++ ys) = p.paint xs ++ (p.after xs).paint ys := by
  induction xs generalizing p with
  | nil => rfl
  | cons c xs ih =>
    cases c with
    | write t =>
      rw [List.cons_append, paint_cons_write, paint_cons_write, ih, List.append_assoc]
      rfl
    | _ => exact ih _

/-- The text that is painted is the text that is written. -/
lemma map_fst_paint (cs : List Command) : (p.paint cs).map Prod.fst = written cs := by
  induction cs generalizing p with
  | nil => rfl
  | cons c cs ih =>
    cases c with
    | write t => simp [ih, Function.comp_def]
    | _ => exact ih _

/-- Commands that take a plain pen and leave a plain pen, and have one whenever the cursor goes
elsewhere. -/
structure Tidy (cs : List Command) : Prop where
  moves : ∀ before row col rest, cs = before ++ .moveTo row col :: rest → plain.after before = plain
  final : plain.after cs = plain

namespace Tidy

lemma append {xs ys : List Command} (hx : Tidy xs) (hy : Tidy ys) : Tidy (xs ++ ys) := by
  refine ⟨fun before row col rest h => ?_, by rw [after_append, hx.final, hy.final]⟩
  rcases List.append_eq_append_iff.mp h with ⟨mid, rfl, hmid⟩ | ⟨mid, rfl, hmid⟩
  · -- the cursor goes elsewhere in the second part
    rw [after_append, hx.final]
    exact hy.moves mid row col rest hmid
  · cases mid with
    | nil =>
      have hfinal := hx.final
      rwa [List.append_nil] at hfinal
    | cons c mid =>
      rw [List.cons_append, List.cons.injEq] at hmid
      exact hx.moves before row col mid (by rw [hmid.1])

lemma of_stay {cs : List Command} (hstay : Stay cs) (hfinal : plain.after cs = plain) :
    Tidy cs := by
  refine ⟨fun before row col rest h => ?_, hfinal⟩
  have hmove := hstay (.moveTo row col) (by simp [h])
  exact absurd hmove (by simp [isMove])

lemma move (row col : UInt16) : Tidy [.moveTo row col] := by
  refine ⟨fun before row' col' rest h => ?_, rfl⟩
  cases before with
  | nil => rfl
  | cons c before => simp at h

/-- Strips are tidy together if each of them is for itself, and then each begins with a plain
pen. -/
lemma of_strips {ss : List Strip} (h : ∀ s ∈ ss, Stay s.commands ∧ plain.after s.commands = plain) :
    Tidy (ss.flatMap Strip.toCommands) ∧
      plain.paint (ss.flatMap Strip.toCommands) = ss.flatMap fun s => plain.paint s.commands := by
  induction ss with
  | nil => exact ⟨of_stay nofun rfl, rfl⟩
  | cons s ss ih =>
    obtain ⟨hstay, hfinal⟩ := h s (by simp)
    obtain ⟨htidy, hpaint⟩ := ih fun s' hs' => h s' (by simp [hs'])
    have hs : Tidy s.toCommands := (move s.row s.col).append (.of_stay hstay hfinal)
    rw [List.flatMap_cons, List.flatMap_cons]
    refine ⟨hs.append htidy, ?_⟩
    rw [paint_append, hs.final, hpaint]
    rfl

end Tidy

end Pen

end CodePad
