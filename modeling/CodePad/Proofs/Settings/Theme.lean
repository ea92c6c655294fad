import Mathlib.Data.List.DropRight
import CodePad.Proofs.Lookup
import CodePad.Settings.Basic

/-!
The theme that settings make. A kind of text takes the colour that the settings give under exactly
its name, if the value is a name of a colour, which may be written with blanks around it, in letters
of any case and with underscores for hyphens. Nothing else about the kind changes, and entries that
name no kind or no colour change nothing.
-/

namespace CodePad

namespace Text

variable {front t back : Text}

/-- What has no blanks is left when blanks around it are trimmed. -/
lemma trim_append (hfront : ∀ c ∈ front, isBlank c = true) (ht : ∀ c ∈ t, isBlank c = false)
    (hback : ∀ c ∈ back, isBlank c = true) : trim (front ++ t ++ back) = t := by
  rw [trim, List.append_assoc, List.dropWhile_append_of_pos hfront]
  cases t with
  | nil =>
    have hnone : back.dropWhile isBlank = [] := List.dropWhile_eq_nil_iff.mpr hback
    rw [List.nil_append, hnone]
    rfl
  | cons c t =>
    have hlast : (c :: t).rdropWhile isBlank = c :: t :=
      List.rdropWhile_eq_self_iff.mpr fun hne => by simp [ht _ (List.getLast_mem hne)]
    rw [List.cons_append, List.dropWhile_cons_of_neg (by simp [ht c]), ← List.cons_append,
      List.reverse_append, List.dropWhile_append_of_pos (by simpa using hback)]
    exact hlast

/-- A text is trimmed of blanks only. -/
lemma exists_trim (t : Text) :
    ∃ front back, t = front ++ t.trim ++ back ∧ (∀ c ∈ front, isBlank c = true) ∧
      ∀ c ∈ back, isBlank c = true := by
  refine ⟨t.takeWhile isBlank, (t.dropWhile isBlank).rtakeWhile isBlank, ?_,
    fun _ => List.mem_takeWhile_imp, fun _ => List.mem_rtakeWhile_imp⟩
  have hrest : t.trim ++ (t.dropWhile isBlank).rtakeWhile isBlank = t.dropWhile isBlank := by
    rw [trim, List.rtakeWhile, ← List.reverse_append, List.takeWhile_append_dropWhile,
      List.reverse_reverse]
  rw [List.append_assoc, hrest, List.takeWhile_append_dropWhile]

end Text

namespace Color

/-- A value calls a colour by one of its names: there may be blanks around it, letters may be in any
case, and underscores may stand for hyphens. -/
def CalledBy (color : Color) (value : String) : Prop :=
  ∃ front written back name, value.toList = front ++ written ++ back ∧
    (∀ c ∈ front, isBlank c = true) ∧ (∀ c ∈ back, isBlank c = true) ∧ (name, color) ∈ names ∧
      written.map (fun c => if c = '_' then '-' else lowerLetter c) = name.toList

/-- The lower case of a blank is the blank itself. -/
lemma lowerLetter_of_isBlank {c : Char} (h : isBlank c = true) :
    (if c = '_' then '-' else lowerLetter c) = c := by
  have hrange : ¬ (65 ≤ c.toNat ∧ c.toNat ≤ 90) := by
    simp [isBlank, CharClass.has, CharClass.blank] at h
    omega
  have hupper : ¬ (c.val ≥ 'A'.val ∧ c.val ≤ 'Z'.val) := fun hc =>
    hrange ⟨UInt32.le_iff_toNat_le.mp hc.1, UInt32.le_iff_toNat_le.mp hc.2⟩
  have hunderscore : c ≠ '_' := by
    rintro rfl
    exact absurd h (by decide)
  have hkelvin : c ≠ '\u212a' := by
    rintro rfl
    exact absurd h (by decide)
  rw [if_neg hunderscore, lowerLetter, if_neg hkelvin]
  exact dif_neg hupper

lemma not_isBlank_of_mem_names {name : String} {color : Color} (h : (name, color) ∈ names) :
    ∀ c ∈ name.toList, isBlank c = false := by
  have hall : names.all fun e => e.1.toList.all fun c => !isBlank c := by decide
  simp only [List.all_eq_true, Bool.not_eq_true'] at hall
  exact hall _ h

/-- A colour is known by what it is called by. -/
lemma ofName?_eq_some_iff {value : String} {color : Color} :
    ofName? value = some color ↔ color.CalledBy value := by
  rw [ofName?, Lookup.eq_some_iff_mem (by decide)]
  constructor
  · intro h
    obtain ⟨front, back, htext, hfront, hback⟩ := Text.exists_trim value.toList
    exact ⟨front, _, back, normalName value, htext, hfront, hback, h, by simp [normalName]⟩
  · rintro ⟨front, written, back, name, htext, hfront, hback, hname, hwritten⟩
    have hsolid : ∀ c ∈ written, isBlank c = false := by
      intro c hc
      by_contra hblank
      rw [Bool.not_eq_false] at hblank
      have hmem : (if c = '_' then '-' else lowerLetter c) ∈ name.toList :=
        hwritten ▸ List.mem_map_of_mem hc
      rw [lowerLetter_of_isBlank hblank] at hmem
      exact absurd hblank (by simp [not_isBlank_of_mem_names hname c hmem])
    have hnormal : normalName value = name := by
      rw [normalName, htext, Text.trim_append hfront hsolid hback, hwritten, String.ofList_toList]
    rwa [hnormal]

end Color

namespace TokenKind

lemma ofName?_eq_some_iff {name : String} {kind : TokenKind} :
    ofName? name = some kind ↔ name = kind.name := by
  constructor
  · intro h
    have hname := List.find?_some h
    exact (of_decide_eq_true hname).symm
  · rintro rfl
    exact ofName?_name kind

end TokenKind

namespace Theme

variable {overrides : List (TokenKind × Color)} {kind : TokenKind} {color : Color}

/-- Colours for other kinds leave a kind as it is. -/
lemma styleOf_foldl_of_not_mem (t : Theme) (h : ∀ x ∈ overrides, x.1 ≠ kind) :
    (overrides.foldl (fun t x => t.recolor x.1 x.2) t).styleOf kind = t.styleOf kind := by
  induction overrides generalizing t with
  | nil => rfl
  | cons x overrides ih =>
    rw [List.forall_mem_cons] at h
    rw [List.foldl_cons, ih _ h.2]
    exact if_neg h.1.symm

lemma styleOf_foldl_of_mem (t : Theme) (hapart : overrides.Pairwise fun x y => x.1 ≠ y.1)
    (h : (kind, color) ∈ overrides) :
    (overrides.foldl (fun t x => t.recolor x.1 x.2) t).styleOf kind =
      (t.styleOf kind).withForeground color := by
  induction overrides generalizing t with
  | nil => exact absurd h List.not_mem_nil
  | cons x overrides ih =>
    rw [List.pairwise_cons] at hapart
    rw [List.foldl_cons]
    rcases List.mem_cons.mp h with rfl | h
    · rw [styleOf_foldl_of_not_mem _ fun y hy => (hapart.1 y hy).symm]
      exact if_pos rfl
    · rw [ih _ hapart.2 h]
      exact congrArg (Style.withForeground · color) (if_neg (hapart.1 _ h).symm)

end Theme

namespace Settings

variable {s : Settings} {kind : TokenKind} {color : Color}

lemma override?_eq_some_iff {entry : String × String} :
    override? entry = some (kind, color) ↔ entry.1 = kind.name ∧ color.CalledBy entry.2 := by
  rw [← TokenKind.ofName?_eq_some_iff, ← Color.ofName?_eq_some_iff]
  cases hkind : TokenKind.ofName? entry.1 <;> cases hcolor : Color.ofName? entry.2 <;>
    simp [override?, hkind, hcolor]

lemma mem_overrides : (kind, color) ∈ s.overrides ↔
    ∃ value, (kind.name, value) ∈ s.colors ∧ color.CalledBy value := by
  rw [overrides, List.mem_filterMap]
  constructor
  · rintro ⟨⟨name, value⟩, hmem, h⟩
    obtain ⟨rfl, hcolor⟩ := override?_eq_some_iff.mp h
    exact ⟨value, hmem, hcolor⟩
  · rintro ⟨value, hmem, hcolor⟩
    exact ⟨(kind.name, value), hmem, override?_eq_some_iff.mpr ⟨rfl, hcolor⟩⟩

section

variable (h : (s.colors.map Prod.fst).Nodup)

include h

/-- If no two entries have the same name, no kind is recoloured twice. -/
lemma pairwise_overrides : s.overrides.Pairwise fun x y => x.1 ≠ y.1 := by
  refine (List.pairwise_map.mp h).filterMap _ ?_
  rintro e e' hne ⟨kind, color⟩ he ⟨kind', color'⟩ he' (rfl : kind = kind')
  exact hne ((override?_eq_some_iff.mp he).1.trans (override?_eq_some_iff.mp he').1.symm)

lemma styleOf_theme_of_mem (hmem : (kind, color) ∈ s.overrides) :
    s.theme.styleOf kind = kind.defaultStyle.withForeground color :=
  Theme.styleOf_foldl_of_mem .standard (pairwise_overrides h) hmem

end

lemma styleOf_theme_of_not_mem (h : ∀ color, (kind, color) ∉ s.overrides) :
    s.theme.styleOf kind = kind.defaultStyle := by
  refine Theme.styleOf_foldl_of_not_mem .standard ?_
  rintro ⟨kind', color⟩ hmem (rfl : kind' = kind)
  exact h color hmem

/-- The theme is told by what recolours a kind. -/
lemma theme_congr {s' : Settings} (h : (s.colors.map Prod.fst).Nodup)
    (h' : (s'.colors.map Prod.fst).Nodup)
    (hsame : ∀ kind color, (kind, color) ∈ s'.overrides ↔ (kind, color) ∈ s.overrides) :
    s'.theme = s.theme := by
  have hstyle : ∀ kind, s'.theme.styleOf kind = s.theme.styleOf kind := by
    intro kind
    by_cases hgiven : ∃ color, (kind, color) ∈ s.overrides
    · obtain ⟨color, hcolor⟩ := hgiven
      rw [styleOf_theme_of_mem h hcolor, styleOf_theme_of_mem h' ((hsame kind color).mpr hcolor)]
    · rw [not_exists] at hgiven
      rw [styleOf_theme_of_not_mem hgiven,
        styleOf_theme_of_not_mem fun color hcolor => hgiven color ((hsame kind color).mp hcolor)]
  exact congrArg Theme.mk (funext hstyle)

/-- **The theme gives each kind the colour of its name.** Whatever the colours of the settings are,
as long as no two are given under the same name: a kind whose name stands among them with a value
that calls a colour has its default style with this colour in the foreground, any other kind has its
default style, and plain text is plain. So two tables with the same entries of this sort make the
same theme, however many others they have, whose name is that of no kind or whose value calls no
colour, and wherever these stand. -/
theorem theme_recolors (s : Settings) (h : (s.colors.map Prod.fst).Nodup) :
    (∀ (kind : TokenKind) (value : String) (color : Color), (kind.name, value) ∈ s.colors →
        color.CalledBy value →
          s.theme.style (some kind) = { kind.defaultStyle with foreground := color }) ∧
      (∀ kind : TokenKind,
        (∀ (value : String) (color : Color), (kind.name, value) ∈ s.colors →
          ¬ color.CalledBy value) →
          s.theme.style (some kind) = kind.defaultStyle) ∧
      s.theme.style none = {} ∧
      (∀ (value : String) (color : Color),
        Color.ofName? value = some color ↔ color.CalledBy value) ∧
      ∀ s' : Settings, (s'.colors.map Prod.fst).Nodup →
        (∀ (kind : TokenKind) (value : String) (color : Color), color.CalledBy value →
          ((kind.name, value) ∈ s'.colors ↔ (kind.name, value) ∈ s.colors)) →
        s'.theme = s.theme := by
  refine ⟨?given, ?other, rfl, fun value color => Color.ofName?_eq_some_iff, ?same⟩
  case given =>
    intro kind value color hmem hcolor
    exact styleOf_theme_of_mem h (mem_overrides.mpr ⟨value, hmem, hcolor⟩)
  case other =>
    intro kind hnone
    refine styleOf_theme_of_not_mem fun color hmem => ?_
    obtain ⟨value, hvalue, hcolor⟩ := mem_overrides.mp hmem
    exact hnone value color hvalue hcolor
  case same =>
    intro s' h' hsame
    refine theme_congr h h' fun kind color => ?_
    rw [mem_overrides, mem_overrides]
    exact exists_congr fun value => and_congr_left (hsame kind value color)

/-- Of four names that look alike only the one that is written exactly so counts, and a value with
the Kelvin sign for a letter calls a colour. -/
theorem theme_recolors_exactly :
    let colors := [("Keyword", "red"), ("comment", "ultraviolet"),
      ("keyword", " BRIGHT_BLAC\u212a\t"), ("keyword ", "blue")]
    let s : Settings := { colors }
    (s.colors.map Prod.fst).Nodup ∧ Color.CalledBy .brightBlack " BRIGHT_BLAC\u212a\t" ∧
      s.theme.style (some .keyword) = { foreground := .brightBlack, bold := true } ∧
      s.theme.style (some .comment) = TokenKind.comment.defaultStyle := by
  intro colors s
  have hapart : (s.colors.map Prod.fst).Nodup := by decide
  have hcolor : Color.CalledBy .brightBlack " BRIGHT_BLAC\u212a\t" :=
    ⟨[' '], "BRIGHT_BLAC\u212a".toList, ['\t'], "bright-black", by decide,
      List.forall_mem_singleton.mpr rfl, List.forall_mem_singleton.mpr rfl, by decide, by decide⟩
  obtain ⟨hgiven, hother, -⟩ := theme_recolors s hapart
  refine ⟨hapart, hcolor, hgiven .keyword _ _ (by decide) hcolor, hother .comment ?_⟩
  intro value color hmem hcalled
  have hvalue : value = "ultraviolet" := by simpa [s, colors, TokenKind.name] using hmem
  have hnone : Color.ofName? "ultraviolet" = none := by decide
  rw [← Color.ofName?_eq_some_iff, hvalue, hnone] at hcalled
  cases hcalled

end Settings

end CodePad
