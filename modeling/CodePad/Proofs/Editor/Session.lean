import CodePad.Editor.Session
import CodePad.Proofs.Editor.Effects

/-!
Whole sessions. A session draws a frame, takes in a report, and so on, and it stops with the first
report that tells the editor to exit: what comes later is not read and gets no frame. A frame does
nothing to the editor that an event could tell, and most reports are no events. So a session leaves
behind what the events alone make of the editor, one after another, if none of its frames ends the
program.
-/

namespace CodePad

namespace Report

/-- The event that a report brings, if it brings one. -/
def event? : Report → Option Event
  | .key k => Event.ofKey? k
  | .resize _ => none

/-- Reports that tell the editor to exit. -/
def isExit (r : Report) : Bool := r.event? = some (.menu .exit)

/-- The events that some reports bring. -/
def events (reports : List Report) : List Event := reports.filterMap event?

end Report

namespace Editor

variable (e : Editor)

/-- An editor as if no frame had been drawn of it. -/
def unframed : Editor := { e with scroll := {}, display := { e.display with redraw := true } }

lemma eq_of_unframed {e e' : Editor} (h : e.unframed = e'.unframed) :
    e.buffer = e'.buffer ∧ e.display.message = e'.display.message ∧
      e.display.lineNumbers = e'.display.lineNumbers := by
  simp only [unframed, mk.injEq, Display.mk.injEq] at h
  exact ⟨h.1, h.2.1.2.1, h.2.1.2.2.1⟩

lemma unframed_of_render {p : Platform} {e e' : Editor} {size : Size} {cs : List Command}
    (h : e.render p size = some (cs, e')) : e'.unframed = e.unframed := by
  obtain ⟨scroll, redraw, rfl⟩ := eq_of_render h
  rfl

lemma unframed_handle (event : Event) : (e.handle event).unframed = e.unframed.handle event := by
  cases event with
  | menu m => cases m <;> rfl
  | _ => rfl

/-- The editor after some events, the first of them first. -/
def handleAll (events : List Event) : Editor := events.foldl handle e

lemma handleAll_append (events later : List Event) :
    e.handleAll (events ++ later) = (e.handleAll events).handleAll later := List.foldl_append

lemma unframed_handleAll (events : List Event) :
    (e.handleAll events).unframed = e.unframed.handleAll events := by
  induction events generalizing e with
  | nil => rfl
  | cons event events ih => exact (ih _).trans (by rw [unframed_handle]; rfl)

end Editor

namespace Session

/-- A session as it starts: the screen is to be cleared. -/
def start (editor : Editor) (size : Size) : Session := { editor := editor.forceRedraw, size }

section

variable (p : Platform) (s : Session)

/-- The frame that a session draws next. -/
def frame? : Option (List Command) := (s.editor.render p s.size).map Prod.fst

/-- A frame and the report after it. -/
def turn (r : Report) : Option Session := (s.draw p).map (·.receive r)

/-- The session after some reports, each with a frame before it. -/
def after (reports : List Report) : Option Session := reports.foldlM (turn p) s

@[simp] lemma after_nil : s.after p [] = some s := rfl

lemma after_cons (r : Report) (reports : List Report) :
    s.after p (r :: reports) = (s.turn p r).bind (·.after p reports) := List.foldlM_cons

end

variable {p : Platform} {s s' : Session}

/-! ### One report -/

lemma unframed_receive (s : Session) (r : Report) :
    (s.receive r).editor.unframed = s.editor.unframed.handleAll r.event?.toList := by
  cases r with
  | key k =>
    simp only [receive, Report.event?]
    cases Event.ofKey? k with
    | none => rfl
    | some event => exact s.editor.unframed_handle event
  | resize size => rfl

lemma running_receive_iff (s : Session) (r : Report) :
    (s.receive r).editor.running = true ↔ s.editor.running = true ∧ r.isExit = false := by
  rw [Report.isExit, decide_eq_false_iff_not]
  cases r with
  | key k =>
    simp only [receive, Report.event?]
    cases Event.ofKey? k with
    | none => simp
    | some event =>
      rw [Option.some.injEq]
      exact s.editor.running_handle_iff
  | resize size => simp [receive, Report.event?, Editor.forceRedraw]

lemma frames_unread_receive (s : Session) (r : Report) :
    (s.receive r).frames = s.frames ∧ (s.receive r).unread = s.unread := by
  cases r with
  | key k =>
    simp only [receive]
    split <;> exact ⟨rfl, rfl⟩
  | resize size => exact ⟨rfl, rfl⟩

/-- What a frame and the report after it do to a session. -/
structure Turn (p : Platform) (r : Report) (s s' : Session) : Prop where
  unframed : s'.editor.unframed = s.editor.unframed.handleAll r.event?.toList
  running : s'.editor.running = true ↔ s.editor.running = true ∧ r.isExit = false
  frames : s'.frames.map some = s.frames.map some ++ [s.frame? p]
  unread : s'.unread = s.unread

lemma turn_spec {r : Report} (h : s.turn p r = some s') : Turn p r s s' := by
  obtain ⟨drawn, hdraw, rfl⟩ := Option.map_eq_some_iff.mp h
  obtain ⟨⟨cs, editor⟩, hrender, hdrawn⟩ := Option.bind_eq_some_iff.mp hdraw
  obtain rfl := Option.some.inj hdrawn
  set drawn : Session := { s with editor, frames := s.frames ++ [cs] }
  have hunframed : drawn.editor.unframed = s.editor.unframed := Editor.unframed_of_render hrender
  have hrunning : drawn.editor.unframed.running = s.editor.unframed.running := by rw [hunframed]
  obtain ⟨hframes, hunread⟩ := drawn.frames_unread_receive r
  refine ⟨?_, ?_, ?_, hunread⟩
  · rw [drawn.unframed_receive r, hunframed]
  · rw [drawn.running_receive_iff r, show drawn.editor.running = s.editor.running from hrunning]
  · rw [hframes, frame?, hrender]
    exact List.map_append

lemma turn_eq_none_iff {r : Report} : s.turn p r = none ↔ s.editor.RenderEnds p s.size := by
  rw [turn, Option.map_eq_none_iff, draw, Option.bind_eq_bind, Option.bind_eq_none_iff,
    ← Editor.render_eq_none_iff, Option.eq_none_iff_forall_ne_some]
  exact forall_congr' fun x => by simp

/-! ### Sessions -/

lemma after_cons_eq_some_iff {r : Report} {reports : List Report} :
    s.after p (r :: reports) = some s' ↔
      ∃ mid, s.turn p r = some mid ∧ mid.after p reports = some s' := by
  rw [after_cons, Option.bind_eq_some_iff]

/-- The first of some reports is taken in before the others. -/
lemma after_take_cons {mid : Session} {r : Report} (h : s.turn p r = some mid)
    (reports : List Report) (i : Nat) :
    s.after p ((r :: reports).take (i + 1)) = mid.after p (reports.take i) := by
  rw [List.take_succ_cons, after_cons, h, Option.bind_some]

lemma unframed_after {reports : List Report} (h : s.after p reports = some s') :
    s'.editor.unframed = s.editor.unframed.handleAll (Report.events reports) := by
  induction reports generalizing s with
  | nil =>
    obtain rfl := Option.some.inj h
    rfl
  | cons r reports ih =>
    obtain ⟨mid, hmid, hrest⟩ := after_cons_eq_some_iff.mp h
    rw [ih hrest, (turn_spec hmid).unframed, ← Editor.handleAll_append]
    congr 1
    cases h : r.event? <;> simp [Report.events, h]

/-- A session draws one frame for each report, before it takes the report in. -/
lemma frames_after {reports : List Report} (h : s.after p reports = some s') :
    s'.frames.map some = s.frames.map some ++
      (List.range reports.length).map fun i => (s.after p (reports.take i)).bind (frame? p) := by
  induction reports generalizing s with
  | nil =>
    obtain rfl := Option.some.inj h
    exact (List.append_nil _).symm
  | cons r reports ih =>
    obtain ⟨mid, hmid, hrest⟩ := after_cons_eq_some_iff.mp h
    have hlater := after_take_cons hmid reports
    rw [ih hrest, (turn_spec hmid).frames, List.length_cons, List.range_succ_eq_map,
      List.map_cons, List.map_map, List.append_assoc]
    simp only [Function.comp_def, Nat.succ_eq_add_one, hlater]
    rfl

lemma unread_after {reports : List Report} (h : s.after p reports = some s') :
    s'.unread = s.unread := by
  induction reports generalizing s with
  | nil =>
    obtain rfl := Option.some.inj h
    rfl
  | cons r reports ih =>
    obtain ⟨mid, hmid, hrest⟩ := after_cons_eq_some_iff.mp h
    rw [ih hrest, (turn_spec hmid).unread]

lemma running_after_iff {reports : List Report} (h : s.after p reports = some s') :
    s'.editor.running = true ↔ s.editor.running = true ∧ ∀ r ∈ reports, r.isExit = false := by
  induction reports generalizing s with
  | nil =>
    obtain rfl := Option.some.inj h
    simp
  | cons r reports ih =>
    obtain ⟨mid, hmid, hrest⟩ := after_cons_eq_some_iff.mp h
    rw [ih hrest, (turn_spec hmid).running, List.forall_mem_cons, and_assoc]

/-- There is no session left exactly if one of its frames ends the program. -/
lemma after_eq_none_iff {reports : List Report} : s.after p reports = none ↔
    ∃ i < reports.length, ∃ mid, s.after p (reports.take i) = some mid ∧
      mid.editor.RenderEnds p mid.size := by
  induction reports generalizing s with
  | nil => simp
  | cons r reports ih =>
    cases hr : s.turn p r with
    | none =>
      rw [after_cons, hr]
      exact iff_of_true rfl ⟨0, Nat.zero_lt_succ _, s, rfl, turn_eq_none_iff.mp hr⟩
    | some mid =>
      have hlater := after_take_cons hr reports
      -- The first frame has been drawn, so one that ends the program comes later.
      have hfirst : ¬ s.editor.RenderEnds p s.size := fun hends => by
        rw [turn_eq_none_iff.mpr hends] at hr
        cases hr
      rw [after_cons, hr, Option.bind_some, ih]
      constructor
      · rintro ⟨i, hi, last, hlast, hends⟩
        exact ⟨i + 1, Nat.succ_lt_succ hi, last, (hlater i).trans hlast, hends⟩
      · rintro ⟨i, hi, last, hlast, hends⟩
        cases i with
        | zero =>
          obtain rfl := Option.some.inj hlast
          exact absurd hends hfirst
        | succ i =>
          exact ⟨i, Nat.lt_of_succ_lt_succ hi, last, (hlater i).symm.trans hlast, hends⟩

lemma loop_cons (h : s.editor.running = true) (r : Report) (reports : List Report) :
    s.loop p (r :: reports) = (s.turn p r).bind (·.loop p reports) := by
  rw [loop, if_pos h, turn]
  cases s.draw p <;> rfl

/-- As long as there is no report to exit, each report is taken in, after a frame. -/
lemma loop_append {before : List Report} (later : List Report) (hrunning : s.editor.running = true)
    (h : ∀ r ∈ before, r.isExit = false) :
    s.loop p (before ++ later) = (s.after p before).bind (·.loop p later) := by
  induction before generalizing s with
  | nil => rfl
  | cons r before ih =>
    rw [List.forall_mem_cons] at h
    rw [List.cons_append, loop_cons hrunning, after_cons]
    cases hr : s.turn p r with
    | none => rfl
    | some mid => exact ih ((turn_spec hr).running.mpr ⟨hrunning, h.1⟩) h.2

/-- A session whose editor has ended leaves everything unread and draws nothing. -/
lemma loop_of_not_running (reports : List Report) (h : s.editor.running = false)
    (hunread : s.unread = []) : s.loop p reports = some { s with unread := reports } := by
  cases reports with
  | nil =>
    rw [loop, if_neg (by simp [h]), ← hunread]
  | cons r reports => rw [loop, if_neg (by simp [h])]

/-- A session goes on up to the first report to exit, and no further. -/
lemma loop_append_exit {before : List Report} {exit : Report} (later : List Report)
    (hrunning : s.editor.running = true) (hunread : s.unread = [])
    (h : ∀ r ∈ before, r.isExit = false) (hexit : exit.isExit = true) :
    s.loop p (before ++ exit :: later) =
      (s.after p (before ++ [exit])).map fun last => { last with unread := later } := by
  have hlast : s.after p (before ++ [exit]) = (s.after p before).bind (·.turn p exit) := by
    rw [after, List.foldlM_append]
    simp only [List.foldlM_cons, List.foldlM_nil]
    cases hbefore : before.foldlM (turn p) s with
    | none => simp [after, hbefore]
    | some mid => cases hturn : mid.turn p exit <;> simp [after, hbefore, hturn]
  rw [loop_append (exit :: later) hrunning h, hlast]
  cases hbefore : s.after p before with
  | none => rfl
  | some mid =>
    have hmid : mid.editor.running = true := (running_after_iff hbefore).mpr ⟨hrunning, h⟩
    rw [Option.bind_some, Option.bind_some, loop_cons hmid]
    -- The report to exit is still taken in, and the loop stops at the one behind it.
    cases hturn : mid.turn p exit with
    | none => rfl
    | some last =>
      have hspec := turn_spec hturn
      have hend : last.editor.running = false := by
        rw [← Bool.not_eq_true, hspec.running]
        simp [hexit]
      exact loop_of_not_running later hend
        (hspec.unread.trans ((unread_after hbefore).trans hunread))

/-- Reports cut at the first one to exit. -/
lemma exists_first_exit {reports : List Report} (h : ∃ r ∈ reports, r.isExit = true) :
    let k := reports.findIdx Report.isExit
    ∃ exit, exit.isExit = true ∧ (∀ r ∈ reports.take k, r.isExit = false) ∧
      reports.take (k + 1) = reports.take k ++ [exit] ∧
      reports = reports.take k ++ exit :: reports.drop (k + 1) := by
  intro k
  have hk : k < reports.length := List.findIdx_lt_length_of_exists h
  refine ⟨reports[k], List.findIdx_getElem, ?_, ?_, ?_⟩
  · intro r hr
    obtain ⟨j, hj, rfl⟩ := List.mem_take_iff_getElem.mp hr
    exact List.not_of_lt_findIdx (by omega)
  · rw [List.take_add_one, List.getElem?_eq_getElem hk]
    rfl
  · rw [← List.drop_eq_getElem_cons hk, List.take_append_drop]

lemma take_take_findIdx {reports : List Report} {i : Nat}
    (hi : i < reports.findIdx Report.isExit + 1) :
    (reports.take (reports.findIdx Report.isExit + 1)).take i = reports.take i := by
  rw [List.take_take, Nat.min_eq_left (Nat.le_of_lt hi)]

/-- **A session is what its events make of the editor, up to the first that tells it to exit.** It
stops with the report that brings this event and leaves the later ones unread. One frame comes
before each report that is read, showing what the reports before have left, and none comes after the
last. The buffer, the message and the line numbers are in the end what the events alone make of
them, since a frame changes only how the editor is scrolled and whether the screen is to be
cleared. There is such a session if writing a line never ends the program, as when arithmetic wraps
around; otherwise there is one unless a frame before one of these reports comes to a line whose
columns run out. -/
theorem run_stops_at_exit (p : Platform) (e : Editor) (size : Size) (reports : List Report)
    (hrunning : e.running = true) (hexit : ∃ r ∈ reports, r.isExit = true) :
    let n := reports.findIdx Report.isExit + 1
    let last := e.handleAll (Report.events (reports.take n))
    (∀ s, run p e size reports = some s →
      (s.unread = reports.drop n ∧ s.editor.running = false) ∧
        (s.editor.buffer = last.buffer ∧ s.editor.display.message = last.display.message ∧
          s.editor.display.lineNumbers = last.display.lineNumbers) ∧
        s.frames.map some = (List.range n).map fun i =>
          ((start e size).after p (reports.take i)).bind (frame? p)) ∧
      (p.NeverStops → ∃ s, run p e size reports = some s) ∧
      (run p e size reports = none ↔ ∃ i < n, ∃ s,
        (start e size).after p (reports.take i) = some s ∧ s.editor.RenderEnds p s.size) ∧
      ∀ (e' e'' : Editor) (size' : Size) (cs : List Command),
        e'.render p size' = some (cs, e'') →
          ∃ scroll redraw, e'' = { e' with scroll, display := { e'.display with redraw } } := by
  intro n last
  obtain ⟨exit, hisExit, hbefore, htake, hsplit⟩ := exists_first_exit hexit
  have hrun : run p e size reports =
      ((start e size).after p (reports.take n)).map fun s =>
        { s with unread := reports.drop n } := by
    have hloop := loop_append_exit (p := p) (s := start e size) (reports.drop n) hrunning rfl
      hbefore hisExit
    rw [← hsplit, ← htake] at hloop
    exact hloop
  have hlen : (reports.take n).length = n := by
    have hlt : reports.findIdx Report.isExit < reports.length :=
      List.findIdx_lt_length_of_exists hexit
    rw [List.length_take]
    omega
  have hnone : run p e size reports = none ↔ ∃ i < n, ∃ s,
      (start e size).after p (reports.take i) = some s ∧ s.editor.RenderEnds p s.size := by
    rw [hrun, Option.map_eq_none_iff, after_eq_none_iff, hlen]
    exact exists_congr fun i => and_congr_right fun hi => by rw [take_take_findIdx hi]
  -- The loop only sets aside what is unread; all else is as the turns have left it.
  refine ⟨fun s hs => ?_, fun hnever => ?_, hnone, fun _ _ _ _ => Editor.eq_of_render⟩
  · rw [hrun, Option.map_eq_some_iff] at hs
    obtain ⟨final, hfinal, rfl⟩ := hs
    have hunframed : final.editor.unframed = last.unframed := by
      rw [unframed_after hfinal, Editor.unframed_handleAll]
      rfl
    refine ⟨⟨rfl, ?stopped⟩, Editor.eq_of_unframed hunframed, ?frames⟩
    case stopped =>
      rw [← Bool.not_eq_true, running_after_iff hfinal, htake]
      exact fun hall => by simpa [hisExit] using hall.2 exit (by simp)
    case frames =>
      refine (frames_after hfinal).trans ?_
      rw [hlen]
      exact List.map_congr_left fun i hi => by rw [take_take_findIdx (List.mem_range.mp hi)]
  · rw [← Option.ne_none_iff_exists', Ne, hnone]
    rintro ⟨i, -, s, -, -, hends⟩
    exact Screen.not_endsProgram hnever hends

/-- A letter, a change of size, the same letter let go, and Control with Q twice: the session ends
with the first of these, and the other is not read. -/
theorem run_stops_at_first_exit :
    let e : Editor := ({} : Settings).editor
    let size : Size := ⟨24, 80⟩
    let reports : List Report := [.key (.typing 'a'), .resize ⟨4, 9⟩,
      .key { Key.typing 'a' with action := .release }, .key (.control 'q'), .key (.control 'Q')]
    (e.running = true ∧ ∃ r ∈ reports, r.isExit = true) ∧
      ∃ s, run .standard e size reports = some s ∧ s.unread = [.key (.control 'Q')] ∧
        s.editor.buffer = ((e.handle (.insert 'a')).handle (.menu .exit)).buffer := by
  intro e size reports
  have hexit : ∃ r ∈ reports, r.isExit = true := by decide
  obtain ⟨hends, hsome, -⟩ := run_stops_at_exit .standard e size reports rfl hexit
  obtain ⟨s, hs⟩ := hsome Platform.neverStops_standard
  obtain ⟨⟨hunread, -⟩, ⟨hbuffer, -⟩, -⟩ := hends s hs
  exact ⟨⟨rfl, hexit⟩, s, hs, hunread, hbuffer⟩

end Session

end CodePad
