import CodePad.Proofs.Document.Order
import CodePad.Proofs.Highlighting

/-!
Selections carried from one document to another. However the two documents are cut into runs, it is
the offsets that are kept: if the texts are the same, the range is, and otherwise what lies past the
end moves to the end. Where runs meet, an offset goes to the first of them. No number is subtracted
from a smaller one on the way, since the ends of a selection are put in order first.
-/

namespace CodePad

namespace Selection

/-- The offsets that a selection covers, the second by way of their difference; it fails if that
is below zero. -/
def range? (s : Selection) (d : Document) : Option Range := do
  let start := d.offsetOf (s.ordered d).1
  let length ← Document.sub? (d.offsetOf (s.ordered d).2) start
  some ⟨start, start + length⟩

/-- The selection of a range; it fails if a position cannot be found without a difference below
zero. -/
def ofRange? (d : Document) (r : Range) : Option Selection := do
  let anchor ← Document.positionFrom? 0 0 r.start d.runs
  let focus ← if r.isEmpty then some anchor
    else Document.positionFrom? 0 0 (max r.stop r.start) d.runs
  some ⟨anchor, focus⟩

lemma range?_eq (s : Selection) (d : Document) : s.range? d = some (s.range d) := by
  have hle : d.offsetOf (s.ordered d).1 ≤ d.offsetOf (s.ordered d).2 := s.range_start_le d
  simp only [range?, Document.sub?, if_pos hle, Option.bind_eq_bind, Option.bind_some, range,
    Nat.add_sub_cancel' hle]

lemma ofRange?_eq (d : Document) (r : Range) : ofRange? d r = some (ofRange d r) := by
  simp only [ofRange?, Document.positionFrom?_eq_positionAt, Option.bind_eq_bind,
    Option.bind_some, ofRange, Nat.max_comm r.stop]
  by_cases h : r.start = r.stop
  · simp [Range.isEmpty, h]
  · simp [Range.isEmpty, h]

lemma range_ofRange_eq_min (d : Document) (r : Range) :
    (ofRange d r).range d = ⟨min r.start d.length, min (max r.start r.stop) d.length⟩ := by
  have hanchor := offsetOf_ofRange_anchor d r
  have hfocus := offsetOf_ofRange_focus d r
  calc (ofRange d r).range d
      = ⟨((ofRange d r).range d).start, ((ofRange d r).range d).stop⟩ := rfl
    _ = ⟨min r.start d.length, min (max r.start r.stop) d.length⟩ := by
      rw [range_start, range_stop, hanchor, hfocus, Nat.min_eq_left (by omega),
        Nat.max_eq_right (by omega)]

/-- **A selection keeps its range through any change of the runs.** The range of a selection,
whatever its positions are, lies in the text, and it is found without a difference below zero. The
selection that it makes in a document with the same text is found without one too and has the same
range. Each end is in the first run that holds its offset, the focus is in no earlier run than the
anchor, and both are the same if the range is empty. The ends of a range that reaches past the end
of the text are moved to the end. -/
theorem carry_keeps_range {source target : Document} (h : target.text = source.text)
    (s : Selection) :
    let r := s.range source
    let carried := s.carry source target
    (s.range? source = some r ∧ r.start ≤ r.stop ∧ r.stop ≤ source.text.length) ∧
      (ofRange? target r = some carried ∧ carried.range target = r ∧
        target.IsFirstAt r.start carried.anchor ∧ target.IsFirstAt r.stop carried.focus ∧
        carried.anchor.run ≤ carried.focus.run ∧
        (r.start = r.stop → carried.anchor = carried.focus)) ∧
      ∀ r' : Range, ofRange? target r' = some (ofRange target r') ∧
        (ofRange target r').range target =
          ⟨min r'.start target.text.length,
            min (max r'.start r'.stop) target.text.length⟩ := by
  intro r carried
  have hlength : target.length = source.length := by
    rw [← target.length_text, h, source.length_text]
  have horder : r.start ≤ r.stop := s.range_start_le source
  have hstop : r.stop ≤ source.length := s.range_stop_le source
  have hmax : max r.start r.stop = r.stop := Nat.max_eq_right horder
  have hfocus : carried.focus = target.positionAt r.stop := congrArg target.positionAt hmax
  rw [source.length_text, target.length_text]
  refine ⟨⟨s.range?_eq source, horder, hstop⟩,
    ⟨ofRange?_eq target r, s.range_carry hlength, ?_, ?_, ?_, ?_⟩,
    fun r' => ⟨ofRange?_eq target r', range_ofRange_eq_min target r'⟩⟩
  · exact target.isFirstAt_positionAt (by omega)
  · rw [hfocus]
    exact target.isFirstAt_positionAt (by omega)
  · rw [hfocus]
    exact (Document.positionIn_mono target.runs horder).elim Nat.le_of_lt fun hrun =>
      Nat.le_of_eq hrun.1
  · intro hempty
    rw [hfocus, ← hempty]
    rfl

/-- A selection that was begun past the last run, turned round and carried over to runs of which one
is empty: the offset where three of them meet goes to the first. -/
theorem carry_keeps_range_turned :
    let source : Document := ⟨[⟨none, ['a', 'b', 'c']⟩]⟩
    let target : Document := ⟨[⟨some .keyword, ['a']⟩, ⟨none, []⟩, ⟨none, ['b', 'c']⟩]⟩
    let s : Selection := ⟨⟨5, 0⟩, ⟨0, 1⟩⟩
    target.text = source.text ∧ (s.carry source target).range target = ⟨1, 3⟩ ∧
      s.carry source target = ⟨⟨0, 1⟩, ⟨2, 2⟩⟩ := by
  intro source target s
  have htext : target.text = source.text := by decide
  obtain ⟨-, ⟨-, hrange, -⟩, -⟩ := carry_keeps_range htext s
  exact ⟨htext, hrange, by decide⟩

end Selection

end CodePad
