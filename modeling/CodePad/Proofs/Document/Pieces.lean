import CodePad.Proofs.Document.Kinds
import CodePad.Proofs.Document.Lines

/-!
The pieces of a line and the characters of the document. A piece begins at some offset and has the
kind of its run; so it tells of each of its characters where in the document it is and what kind it
has, and what it tells is true.
-/

namespace CodePad

/-- A character of a document, the kind of its run and its offset. -/
structure Glyph where
  char : Char
  kind : Option TokenKind
  offset : Nat
  deriving DecidableEq, Repr

namespace Glyph

/-- Characters with their kinds, the first of which has the offset `k`. -/
def place (k : Nat) : List (Char × Option TokenKind) → List Glyph
  | [] => []
  | x :: xs => ⟨x.1, x.2, k⟩ :: place (k + 1) xs

lemma place_append (k : Nat) (xs ys : List (Char × Option TokenKind)) :
    place k (xs ++ ys) = place k xs ++ place (k + xs.length) ys := by
  induction xs generalizing k with
  | nil => rfl
  | cons x xs ih =>
    rw [List.cons_append, place, place, ih, List.cons_append, List.length_cons, Nat.add_assoc,
      Nat.add_comm 1]

/-- The characters of a text of one kind. -/
def ofText (kind : Option TokenKind) (k : Nat) (t : Text) : List Glyph :=
  place k (t.map fun c => (c, kind))

@[simp] lemma ofText_cons (kind : Option TokenKind) (k : Nat) (c : Char) (t : Text) :
    ofText kind k (c :: t) = ⟨c, kind, k⟩ :: ofText kind (k + 1) t := rfl

lemma ofText_append (kind : Option TokenKind) (k : Nat) (t u : Text) :
    ofText kind k (t ++ u) = ofText kind k t ++ ofText kind (k + t.length) u := by
  rw [ofText, List.map_append, place_append, List.length_map]
  rfl

@[simp] lemma map_char_ofText (kind : Option TokenKind) (k : Nat) (t : Text) :
    (ofText kind k t).map char = t := by
  induction t generalizing k with
  | nil => rfl
  | cons c t ih => rw [ofText_cons, List.map_cons, ih]

lemma kind_of_mem_ofText {kind : Option TokenKind} {k : Nat} {t : Text} {g : Glyph}
    (h : g ∈ ofText kind k t) : g.kind = kind := by
  induction t generalizing k with
  | nil => exact absurd h List.not_mem_nil
  | cons c t ih =>
    rcases List.mem_cons.mp h with rfl | h
    · rfl
    · exact ih h

end Glyph

namespace Piece

/-- The characters of a piece. -/
def glyphs (p : Piece) : List Glyph := Glyph.ofText p.kind p.start p.text

lemma map_char_glyphs (p : Piece) : p.glyphs.map Glyph.char = p.text :=
  Glyph.map_char_ofText p.kind p.start p.text

lemma length_glyphs (p : Piece) : p.glyphs.length = p.text.length := by
  rw [← map_char_glyphs, List.length_map]

lemma kind_of_mem_glyphs {p : Piece} {g : Glyph} (h : g ∈ p.glyphs) : g.kind = p.kind :=
  Glyph.kind_of_mem_ofText h

/-- The characters of the pieces of a line. -/
def lineGlyphs (line : List Piece) : List Glyph := line.flatMap glyphs

lemma map_char_lineGlyphs (line : List Piece) :
    (lineGlyphs line).map Glyph.char = lineText line := by
  rw [lineGlyphs, lineText, List.map_flatMap]
  exact congrArg line.flatMap (funext map_char_glyphs)

lemma length_lineGlyphs (line : List Piece) :
    (lineGlyphs line).length = (lineText line).length := by
  rw [← map_char_lineGlyphs, List.length_map]

end Piece

namespace Document

open Piece

/-- The characters of a document. -/
def glyphs (d : Document) : List Glyph := Glyph.place 0 d.cells

/-- The characters of a line of a document, given its number and its text. -/
def lineGlyphs (d : Document) (i : Nat) (line : Text) : List Glyph :=
  (d.glyphs.drop (d.text.offsetAt i 0)).take line.length

/-- Characters and the lines of pieces that they make: the pieces of a line follow one another, and
one more character stands between two lines. -/
inductive Laid : List (List Piece) → List Glyph → Prop
  | nil : Laid [[]] []
  | newline {ls : List (List Piece)} {gs : List Glyph} (g : Glyph) (rest : Laid ls gs) :
      Laid ([] :: ls) (g :: gs)
  | piece {l : List Piece} {ls : List (List Piece)} {gs : List Glyph} (p : Piece)
      (rest : Laid (l :: ls) gs) : Laid ((p :: l) :: ls) (p.glyphs ++ gs)

namespace Laid

variable {l : List Piece} {ls : List (List Piece)} {gs : List Glyph}

lemma ofText_append (h : Laid (l :: ls) gs) (kind : Option TokenKind) (start : Nat) (t : Text) :
    Laid ((ofText kind start t ++ l) :: ls) (Glyph.ofText kind start t ++ gs) := by
  cases t with
  | nil => exact h
  | cons c t => exact h.piece ⟨kind, c :: t, start⟩

/-- The lines of a run are laid in front of the lines that follow. -/
lemma joinLines (h : Laid ls gs) (kind : Option TokenKind) (start : Nat) {ts : List Text}
    (hts : ts ≠ []) :
    Laid (joinLines kind start ts ls)
      (Glyph.ofText kind start (List.intercalate ['\n'] ts) ++ gs) := by
  induction ts generalizing start with
  | nil => exact absurd rfl hts
  | cons t ts ih =>
    by_cases hnil : ts = []
    · subst hnil
      rw [List.intercalate_singleton]
      cases h with
      | nil => exact Laid.nil.ofText_append kind start t
      | newline g rest => exact (rest.newline g).ofText_append kind start t
      | piece p rest => exact (rest.piece p).ofText_append kind start t
    · have hrest := ((ih (start + t.length + 1) hnil).newline
        ⟨'\n', kind, start + t.length⟩).ofText_append kind start t
      rw [List.append_nil] at hrest
      rw [joinLines_cons kind start t hnil, List.intercalate_cons_of_ne_nil hnil]
      simpa [Glyph.ofText_append, Nat.add_assoc] using hrest

/-- The characters of a line are some of those of the document, and as many stand before them as
there are in the lines before, with one more for each of these. -/
lemma exists_line (h : Laid ls gs) {i : Nat} {line : List Piece} (hline : ls[i]? = some line) :
    ∃ before rest, gs = before ++ (Piece.lineGlyphs line ++ rest) ∧
      before.length = Text.linesLength ((ls.map lineText).take i) := by
  induction h generalizing i line with
  | nil =>
    obtain ⟨hi, rfl⟩ := List.getElem?_eq_some_iff.mp hline
    obtain rfl : i = 0 := by simpa using hi
    exact ⟨[], [], rfl, rfl⟩
  | newline g rest ih =>
    cases i with
    | zero =>
      obtain rfl : [] = line := Option.some.inj hline
      exact ⟨[], _, rfl, rfl⟩
    | succ i =>
      obtain ⟨before, after, rfl, hlen⟩ := ih hline
      refine ⟨g :: before, after, rfl, ?_⟩
      rw [List.length_cons, hlen, List.map_cons, List.take_succ_cons, Text.linesLength_cons]
      simp [Nat.add_comm]
  | @piece l ls gs p rest ih =>
    cases i with
    | zero =>
      obtain rfl : p :: l = line := Option.some.inj hline
      obtain ⟨before, after, rfl, hlen⟩ := ih (i := 0) rfl
      -- The piece belongs to the first line, in front of which nothing stands.
      obtain rfl : before = [] := List.length_eq_zero_iff.mp hlen
      exact ⟨[], after, by simp [Piece.lineGlyphs], rfl⟩
    | succ i =>
      obtain ⟨before, after, rfl, hlen⟩ := ih (i := i + 1) hline
      refine ⟨p.glyphs ++ before, after, by simp, ?_⟩
      rw [List.length_append, hlen, length_glyphs]
      simp [lineText, Nat.add_assoc]

end Laid

lemma laid_linesFrom (start : Nat) (rs : List Run) :
    Laid (linesFrom start rs) (Glyph.place start (rs.flatMap Run.cells)) := by
  induction rs generalizing start with
  | nil => exact .nil
  | cons r rs ih =>
    have hjoin := (ih (start + r.length)).joinLines r.kind start (Text.lines_ne_nil r.text)
    rw [Text.lines_eq_splitOn, List.intercalate_splitOn] at hjoin
    rw [linesFrom, Text.lines_eq_splitOn, List.flatMap_cons, Glyph.place_append, Run.length_cells]
    exact hjoin

/-- The pieces of a line have the characters that the line has in the document. -/
lemma lineGlyphs_eq {d : Document} {i : Nat} {pieces : List Piece} (h : d.lines[i]? = some pieces) :
    d.lineGlyphs i (lineText pieces) = Piece.lineGlyphs pieces := by
  have hline : d.text.lines[i]? = some (lineText pieces) := by
    rw [← map_lineText_lines, List.getElem?_map, h]
    rfl
  obtain ⟨before, rest, heq, hlen⟩ := (laid_linesFrom 0 d.runs).exists_line h
  have hstart : d.text.offsetAt i 0 = before.length := by
    rw [Text.offsetAt_eq_linesLength hline, Nat.zero_min, Nat.add_zero, hlen,
      ← map_lineText_lines]
    rfl
  have hglyphs : d.glyphs = before ++ (Piece.lineGlyphs pieces ++ rest) := heq
  rw [lineGlyphs, hglyphs, hstart, List.drop_left, ← length_lineGlyphs, List.take_left]

end Document

end CodePad
