import Mathlib.Tactic.Common
import CodePad.Text.Width

/-!
Columns of texts, for any measure. A text is cut by the columns of its characters, and its width as
a whole may be another number. Nothing is taken for granted here about how the two are related; what
is known of some texts is that the width is the sum of the columns. Of printable ASCII texts every
measure is expected to say so.
-/

namespace CodePad

namespace Text

/-- The characters that ASCII has a shape or a blank for. -/
def IsPrintable (c : Char) : Prop := 0x20 ≤ c.toNat ∧ c.toNat < 0x7f

instance : DecidablePred IsPrintable := fun c =>
  inferInstanceAs (Decidable (0x20 ≤ c.toNat ∧ c.toNat < 0x7f))

def Printable (t : Text) : Prop := ∀ c ∈ t, IsPrintable c

instance : DecidablePred Printable := fun t => List.decidableBAll IsPrintable t

namespace Printable

variable {t u : Text}

lemma append (ht : t.Printable) (hu : u.Printable) : Printable (t ++ u) :=
  List.forall_mem_append.mpr ⟨ht, hu⟩

lemma replicate {c : Char} (h : IsPrintable c) (n : Nat) : Printable (List.replicate n c) :=
  fun d hd => by rwa [List.eq_of_mem_replicate hd]

end Printable

/-! ### Decimal digits -/

lemma isDigit_of_mem_digits {n : Nat} {c : Char} (h : c ∈ digits n) : c.isDigit = true :=
  Nat.isDigit_of_mem_toDigits (by decide) (by decide) h

lemma printable_digits (n : Nat) : (digits n).Printable := by
  intro c hc
  have hdigit : c.isDigit = true := isDigit_of_mem_digits hc
  simp only [Char.isDigit, Bool.and_eq_true, decide_eq_true_eq] at hdigit
  have hge : 48 ≤ c.toNat := hdigit.1
  have hle : c.toNat ≤ 57 := hdigit.2
  exact ⟨by omega, by omega⟩

lemma length_digits_le {m n : Nat} (h : m ≤ n) : (digits m).length ≤ (digits n).length := by
  have hpos : 0 < (digits n).length := Nat.length_toDigits_pos
  have hn : n < 10 ^ (digits n).length :=
    (Nat.length_toDigits_le_iff (by decide) hpos).mp (Nat.le_refl _)
  exact (Nat.length_toDigits_le_iff (by decide) hpos).mpr (by omega)

end Text

namespace Measure

variable {m : Measure} {t u : Text} {n : Nat} {c : Char}

/-! ### Cutting -/

lemma truncate_prefix (m : Measure) (n : Nat) (t : Text) : m.truncate n t <+: t := by
  induction t generalizing n with
  | nil => exact List.prefix_refl _
  | cons c t ih =>
    rw [truncate]
    split
    · exact (List.prefix_cons_inj c).mpr (ih _)
    · exact List.nil_prefix

lemma columns_truncate_le (m : Measure) (n : Nat) (t : Text) : m.columns (m.truncate n t) ≤ n := by
  induction t generalizing n with
  | nil => exact Nat.zero_le n
  | cons c t ih =>
    rw [truncate]
    split
    · have := ih (n - m.charWidth c)
      rw [columns_cons]
      omega
    · exact Nat.zero_le n

lemma truncate_of_columns_le (h : m.columns t ≤ n) : m.truncate n t = t := by
  induction t generalizing n with
  | nil => rfl
  | cons c t ih =>
    rw [columns_cons] at h
    rw [truncate, if_pos (by omega), ih (by omega)]

lemma truncate_eq_nil_iff : m.truncate n t = [] ↔ ∀ c ∈ t.head?, n < m.charWidth c := by
  cases t with
  | nil => simp [truncate]
  | cons c t =>
    rw [truncate]
    split <;> simp <;> omega

lemma truncate_append_of_le (h : m.columns t ≤ n) (u : Text) :
    m.truncate n (t ++ u) = t ++ m.truncate (n - m.columns t) u := by
  induction t generalizing n with
  | nil => rfl
  | cons c t ih =>
    rw [columns_cons] at h
    rw [List.cons_append, truncate, if_pos (by omega), ih (by omega), columns_cons, Nat.sub_sub,
      List.cons_append]

/-- A text that does not fit is cut in front of a character that is too wide for what is left. -/
lemma exists_truncate_of_lt (h : n < m.columns t) : ∃ c rest,
    t = m.truncate n t ++ c :: rest ∧ n - m.columns (m.truncate n t) < m.charWidth c := by
  induction t generalizing n with
  | nil => exact absurd h (Nat.not_lt_zero n)
  | cons c t ih =>
    rw [columns_cons] at h
    by_cases hc : m.charWidth c ≤ n
    · obtain ⟨d, rest, ht, hd⟩ := ih (n := n - m.charWidth c) (by omega)
      refine ⟨d, rest, ?_, ?_⟩
      · rw [truncate, if_pos hc, List.cons_append, ← ht]
      · rw [truncate, if_pos hc, columns_cons]
        omega
    · exact ⟨c, t, by rw [truncate, if_neg hc, List.nil_append],
        by rw [truncate, if_neg hc, columns_nil]; omega⟩

lemma truncate_append_of_lt (h : n < m.columns t) (u : Text) :
    m.truncate n (t ++ u) = m.truncate n t := by
  induction t generalizing n with
  | nil => exact absurd h (Nat.not_lt_zero n)
  | cons c t ih =>
    rw [columns_cons] at h
    rw [List.cons_append, truncate, truncate]
    split
    · rw [ih (by omega)]
    · rfl

/-- Behind a text that is cut short, what fits into the columns left does not go on with the
text. -/
lemma truncate_append_prefix_iff {v : Text} (h : n < m.columns t)
    (hu : m.columns u ≤ n - m.columns (m.truncate n t)) :
    m.truncate n t ++ u <+: t ++ v ↔ u = [] := by
  obtain ⟨d, rest, ht, hd⟩ := exists_truncate_of_lt h
  have hsplit : t ++ v = m.truncate n t ++ d :: (rest ++ v) := by
    rw [← List.cons_append, ← List.append_assoc, ← ht]
  rw [hsplit, List.prefix_append_right_inj]
  cases u with
  | nil => simp
  | cons c u =>
    rw [List.cons_prefix_cons, columns_cons] at *
    simp only [reduceCtorEq, iff_false, not_and]
    rintro rfl
    omega

/-! ### Widths that add up -/

/-- Of each front of a text the width is the sum of the columns. -/
def AddsUp (m : Measure) (t : Text) : Prop := ∀ u : Text, u <+: t → m.width u = m.columns u

/-- The widths of some characters add up in every text that is made of them. -/
def Additive (m : Measure) (A : Char → Prop) : Prop :=
  ∀ t : Text, (∀ c ∈ t, A c) → m.width t = m.columns t

lemma Additive.addsUp {A : Char → Prop} (h : m.Additive A) (ht : ∀ c ∈ t, A c) : m.AddsUp t :=
  fun _ hu => h _ fun c hc => ht c (hu.subset hc)

lemma AddsUp.width_truncate (h : m.AddsUp t) (n : Nat) :
    m.width (m.truncate n t) = m.columns (m.truncate n t) := h _ <| truncate_prefix m n t

/-! ### Characters of a single column -/

/-- Each character takes a single column. -/
def SingleColumn (m : Measure) (t : Text) : Prop := ∀ c ∈ t, m.charWidth c = 1

lemma singleColumn_append_iff :
    m.SingleColumn (t ++ u) ↔ m.SingleColumn t ∧ m.SingleColumn u := List.forall_mem_append

namespace SingleColumn

lemma replicate (h : m.charWidth c = 1) (n : Nat) : m.SingleColumn (List.replicate n c) :=
  fun d hd => by rw [List.eq_of_mem_replicate hd, h]

lemma columns_eq (ht : m.SingleColumn t) : m.columns t = t.length := by
  induction t with
  | nil => rfl
  | cons c t ih =>
    rw [columns_cons, ht c (by simp), ih fun d hd => ht d (by simp [hd]), List.length_cons]
    omega

lemma truncate_eq (ht : m.SingleColumn t) (n : Nat) : m.truncate n t = t.take n := by
  induction t generalizing n with
  | nil => simp [truncate]
  | cons c t ih =>
    rw [truncate, ht c (by simp)]
    cases n with
    | zero => simp
    | succ n => simp [ih fun d hd => ht d (by simp [hd])]

end SingleColumn

/-! ### Printable texts -/

/-- What is known of a measure: printable ASCII characters take one column each, and just as many
together as there are of them. -/
structure Ascii (m : Measure) : Prop where
  char? : ∀ c, Text.IsPrintable c → m.char? c = some 1
  width : ∀ t : Text, t.Printable → m.width t = t.length

namespace Ascii

variable (h : m.Ascii)

include h

lemma charWidth_eq (hc : Text.IsPrintable c) : m.charWidth c = 1 := by
  rw [charWidth, h.char? c hc, Option.getD_some]

lemma singleColumn (ht : t.Printable) : m.SingleColumn t :=
  fun c hc => h.charWidth_eq (ht c hc)

lemma columns_eq (ht : t.Printable) : m.columns t = t.length := (h.singleColumn ht).columns_eq

lemma additive : m.Additive Text.IsPrintable :=
  fun t ht => (h.width t ht).trans (h.columns_eq ht).symm

lemma addsUp (ht : t.Printable) : m.AddsUp t := h.additive.addsUp ht

end Ascii

/-! ### The measure of the program -/

/-- Without a variation selector behind it, a character adds its own columns. -/
lemma width_unicode_cons (c : Char) (h : t.head? ≠ some '\ufe0f') :
    unicode.width (c :: t) = unicode.charWidth c + unicode.width t :=
  unicodeWidth.eq_3 c t fun v hv => h (by rw [hv, List.head?_cons])

/-- Only a variation selector makes a text wider than the sum of its columns. -/
lemma additive_unicode : unicode.Additive (· ≠ '\ufe0f') := by
  intro t ht
  induction t with
  | nil => rfl
  | cons c t ih =>
    rw [List.forall_mem_cons] at ht
    have hhead : t.head? ≠ some '\ufe0f' := fun h => ht.2 _ (List.mem_of_mem_head? h) rfl
    rw [width_unicode_cons c hhead, ih ht.2, columns_cons]

lemma ascii_unicode : unicode.Ascii := by
  have hchar : ∀ c, Text.IsPrintable c → unicode.char? c = some 1 := by
    intro c hc
    obtain ⟨hge, hlt⟩ := hc
    simp only [unicode, unicodeChar?]
    rw [if_neg (by simp; omega), if_pos hlt]
  refine ⟨hchar, fun t ht => ?_⟩
  have hsingle : unicode.SingleColumn t := fun c hc => by
    rw [charWidth, hchar c (ht c hc), Option.getD_some]
  have hselector : ∀ c ∈ t, c ≠ '\ufe0f' := by
    rintro c hc rfl
    exact absurd (ht _ hc).2 (by decide)
  exact (additive_unicode t hselector).trans hsingle.columns_eq

end Measure

end CodePad
