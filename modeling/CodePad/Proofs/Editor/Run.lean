import CodePad.Proofs.Screen.Frame
import CodePad.Settings.Basic

/-!
What happens to an editor: events, changes of the terminal's size and frames, in any order. The
size itself matters to frames only, so each frame comes with its own. A run may end with a frame
that ends the program; then no editor is left.
-/

namespace CodePad

namespace Editor

/-- Something that happens to an editor. -/
inductive Step where
  | event (event : Event)
  | resize
  | render (size : Size)
  deriving DecidableEq, Repr

variable (p : Platform)

def step (e : Editor) : Step → Option Editor
  | .event event => some (e.handle event)
  | .resize => some e.forceRedraw
  | .render size => (e.render p size).map Prod.snd

/-- The editor after some things have happened, the first of them first. -/
def run (e : Editor) (steps : List Step) : Option Editor := steps.foldlM (step p) e

@[simp] lemma run_nil (e : Editor) : e.run p [] = some e := rfl

@[simp] lemma run_cons (e : Editor) (x : Step) (steps : List Step) :
    e.run p (x :: steps) = (e.step p x).bind (·.run p steps) := List.foldlM_cons

variable {p}

lemma run_cons_eq_some_iff {e e' : Editor} {x : Step} {steps : List Step} :
    e.run p (x :: steps) = some e' ↔ ∃ mid, e.step p x = some mid ∧ mid.run p steps = some e' := by
  rw [run_cons, Option.bind_eq_some_iff]

/-- What each step keeps, a run keeps. -/
lemma run_induction {P : Editor → Prop} (hstep : ∀ e x e', P e → e.step p x = some e' → P e')
    {e e' : Editor} {steps : List Step} (he : P e) (hrun : e.run p steps = some e') : P e' := by
  induction steps generalizing e with
  | nil => exact Option.some.inj hrun ▸ he
  | cons x steps ih =>
    obtain ⟨mid, hmid, hrest⟩ := run_cons_eq_some_iff.mp hrun
    exact ih (hstep e x mid he hmid) hrest

/-- A frame changes nothing of an editor but how it is scrolled and whether the screen is to be
cleared. -/
lemma eq_of_render {e e' : Editor} {size : Size} {cs : List Command}
    (h : e.render p size = some (cs, e')) : ∃ scroll redraw,
      e' = { e with scroll, display := { e.display with redraw } } := by
  by_cases hroom : 4 ≤ size.rows.toNat ∧ 1 ≤ size.cols.toNat
  · obtain ⟨-, -, rfl⟩ := (e.render_eq_some_iff p hroom).mp h
    exact ⟨_, _, rfl⟩
  · rw [e.render_of_no_room p hroom] at h
    obtain ⟨-, rfl⟩ := Prod.mk.inj (Option.some.inj h)
    exact ⟨e.scroll, e.display.redraw, rfl⟩

lemma step_render_eq_some_iff {e e' : Editor} {size : Size} :
    e.step p (.render size) = some e' ↔ ∃ cs, e.render p size = some (cs, e') := by
  simp [step, Option.map_eq_some_iff]

lemma theme_step {e e' : Editor} {x : Step} (h : e.step p x = some e') :
    e'.display.theme = e.display.theme := by
  cases x with
  | event event =>
    obtain rfl := Option.some.inj h
    cases event with
    | menu m => cases m <;> rfl
    | _ => rfl
  | resize =>
    obtain rfl := Option.some.inj h
    rfl
  | render size =>
    obtain ⟨cs, hrender⟩ := step_render_eq_some_iff.mp h
    obtain ⟨scroll, redraw, rfl⟩ := eq_of_render hrender
    rfl

lemma theme_run {e e' : Editor} {steps : List Step} (h : e.run p steps = some e') :
    e'.display.theme = e.display.theme :=
  run_induction (P := fun f => f.display.theme = e.display.theme)
    (fun _ _ _ hf hstep => (theme_step hstep).trans hf) rfl h

/-! ### Runs that end the program -/

lemma step_eq_none_iff {e : Editor} {x : Step} :
    e.step p x = none ↔ ∃ size, x = .render size ∧ e.RenderEnds p size := by
  cases x <;> simp [step, render_eq_none_iff]

/-- A run ends the program exactly if it comes to a frame that does. -/
lemma run_eq_none_iff {e : Editor} {steps : List Step} : e.run p steps = none ↔
    ∃ before size later e', steps = before ++ .render size :: later ∧
      e.run p before = some e' ∧ e'.RenderEnds p size := by
  induction steps generalizing e with
  | nil => simp
  | cons x steps ih =>
    rw [run_cons, Option.bind_eq_none_iff]
    constructor
    · intro h
      cases hx : e.step p x with
      | none =>
        obtain ⟨size, rfl, hends⟩ := step_eq_none_iff.mp hx
        exact ⟨[], size, steps, e, rfl, rfl, hends⟩
      | some mid =>
        obtain ⟨before, size, later, e', rfl, hrun, hends⟩ := ih.mp (h mid hx)
        exact ⟨x :: before, size, later, e', rfl, by rw [run_cons, hx, Option.bind_some, hrun],
          hends⟩
    · rintro ⟨before, size, later, e', hsteps, hrun, hends⟩ mid hx
      cases before with
      | nil =>
        -- The frame that ends the program would be the first step, but that one has been taken.
        obtain ⟨rfl, -⟩ := List.cons.inj hsteps
        obtain rfl := Option.some.inj hrun
        exact absurd hx (by simp [step_eq_none_iff.mpr ⟨size, rfl, hends⟩])
      | cons y before =>
        obtain ⟨rfl, rfl⟩ := List.cons.inj hsteps
        rw [run_cons, hx, Option.bind_some] at hrun
        exact ih.mpr ⟨before, size, later, e', rfl, hrun, hends⟩

lemma exists_run (h : p.NeverStops) (e : Editor) (steps : List Step) :
    ∃ e', e.run p steps = some e' := by
  rw [← Option.ne_none_iff_exists', Ne, run_eq_none_iff]
  rintro ⟨-, size, -, e', -, -, hroom, hends⟩
  exact Screen.not_endsProgram h hends

end Editor

end CodePad
