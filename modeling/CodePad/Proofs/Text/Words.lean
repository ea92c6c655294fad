import Mathlib.Data.List.TakeWhile
import CodePad.Proofs.Text.Bytes
import CodePad.Pattern.Match

/-!
The words of a text: its maximal runs of word characters. Reading from left to right, a word
begins wherever a word character does not follow another one, and it goes on for as long as word
characters do. The main statement says that these are the maximal runs and no others.
-/

namespace CodePad

/-- A word of a text. -/
structure Word where
  /-- Byte offset of the first character. -/
  start : Nat
  text : Text
  deriving DecidableEq, Repr

namespace Text

/-- Whether a text begins with a word character. Of the text before a place, read backwards, this
says whether the place comes right after a word character. -/
def touchesWord (t : Text) : Bool := t.head?.any isWordChar

@[simp] lemma touchesWord_nil : touchesWord [] = false := rfl

@[simp] lemma touchesWord_cons (c : Char) (t : Text) : touchesWord (c :: t) = isWordChar c := rfl

/-- The longest front part of word characters. -/
def leadingWord (t : Text) : Text := t.takeWhile isWordChar

@[simp] lemma leadingWord_nil : leadingWord [] = [] := rfl

@[simp] lemma leadingWord_cons (c : Char) (t : Text) :
    leadingWord (c :: t) = if isWordChar c then c :: leadingWord t else [] := by
  simp only [leadingWord, List.takeWhile_cons]

lemma leadingWord_eq_nil_iff (t : Text) : leadingWord t = [] ↔ touchesWord t = false := by
  cases t with
  | nil => simp
  | cons c t => simp

lemma isWordChar_of_mem_leadingWord {c : Char} {t : Text} (h : c ∈ leadingWord t) :
    isWordChar c = true :=
  List.mem_takeWhile_imp h

/-- A text is its leading word and a rest that does not touch it. -/
lemma exists_leadingWord_append (t : Text) :
    ∃ rest, t = leadingWord t ++ rest ∧ touchesWord rest = false := by
  induction t with
  | nil => exact ⟨[], rfl, rfl⟩
  | cons c t ih =>
    by_cases hc : isWordChar c = true
    · obtain ⟨rest, ht, hrest⟩ := ih
      refine ⟨rest, ?_, hrest⟩
      rw [leadingWord_cons, if_pos hc, List.cons_append, ← ht]
    · exact ⟨c :: t, by simp [hc], by simpa using hc⟩

lemma take_leadingWord (t : Text) : t.take (leadingWord t).length = leadingWord t :=
  (List.prefix_iff_eq_take.mp (List.takeWhile_prefix isWordChar)).symm

lemma leadingWord_append {w rest : Text} (hw : ∀ c ∈ w, isWordChar c = true)
    (hrest : touchesWord rest = false) : leadingWord (w ++ rest) = w := by
  rw [leadingWord, List.takeWhile_append_of_pos hw, ← leadingWord,
    (leadingWord_eq_nil_iff rest).mpr hrest, List.append_nil]

/-- The words that begin in a text, given what is before it, the nearest character first. -/
def wordsFrom (before : Text) : Text → List Word
  | [] => []
  | c :: t =>
    if isWordChar c && !touchesWord before then
      ⟨byteLength before, leadingWord (c :: t)⟩ :: wordsFrom (c :: before) t
    else wordsFrom (c :: before) t

/-- The words of a text. -/
def words (t : Text) : List Word := wordsFrom [] t

end Text

namespace Word

open Text

/-- A word that stands in a text, at least one character long, with no word character next to it on
either side. -/
structure IsMaximalIn (text : Text) (w : Word) : Prop where
  split : ∃ u v, text = u ++ (w.text ++ v) ∧ w.start = byteLength u ∧
    touchesWord u.reverse = false ∧ touchesWord v = false
  isWordChar : ∀ c ∈ w.text, isWordChar c = true
  text_ne_nil : w.text ≠ []

namespace IsMaximalIn

variable {text : Text} {w : Word}

lemma start_lt (h : w.IsMaximalIn text) : w.start < byteLength text := by
  obtain ⟨u, v, htext, hstart, -, -⟩ := h.split
  have := byteLength_pos h.text_ne_nil
  rw [htext, hstart, byteLength_append, byteLength_append]
  omega

/-- A maximal word that begins no earlier than a place begins there or after the next character. -/
lemma start_cases {before t : Text} {c : Char} (h : w.IsMaximalIn (before.reverse ++ c :: t))
    (hle : byteLength before ≤ w.start) :
    (w = ⟨byteLength before, leadingWord (c :: t)⟩ ∧ CodePad.isWordChar c = true ∧
        touchesWord before = false) ∨
      byteLength (c :: before) ≤ w.start := by
  obtain ⟨u, v, htext, hstart, hu, hv⟩ := h.split
  have hpre : before.reverse <+: u := by
    refine prefix_of_byteLength_le (List.prefix_append _ (c :: t)) ?_ ?_
    · rw [htext]
      exact List.prefix_append u _
    · rw [byteLength_reverse]
      omega
  obtain ⟨x, rfl⟩ := hpre
  rw [List.append_assoc, List.append_cancel_left_eq] at htext
  -- `x` stands between the place and the word; if it is empty, the word begins at the place.
  cases x with
  | nil =>
    rw [List.append_nil] at hstart hu
    rw [List.nil_append] at htext
    have hword : leadingWord (c :: t) = w.text := by
      rw [htext]
      exact leadingWord_append h.isWordChar hv
    refine Or.inl ⟨?_, ?_, by simpa using hu⟩
    · rw [hword, ← byteLength_reverse before, ← hstart]
    · by_contra hc
      rw [leadingWord_cons, if_neg hc] at hword
      exact h.text_ne_nil hword.symm
  | cons d x =>
    rw [List.cons_append, List.cons.injEq] at htext
    refine Or.inr ?_
    rw [hstart, htext.1, byteLength_append, byteLength_reverse, byteLength_cons, byteLength_cons]
    omega

end IsMaximalIn

end Word

namespace Text

variable {before t : Text}

lemma isMaximalIn_leadingWord {c : Char} (hc : isWordChar c = true)
    (hbefore : touchesWord before = false) :
    Word.IsMaximalIn (before.reverse ++ c :: t) ⟨byteLength before, leadingWord (c :: t)⟩ := by
  obtain ⟨rest, ht, hrest⟩ := exists_leadingWord_append (c :: t)
  refine ⟨⟨before.reverse, rest, ?_, by simp, by simpa using hbefore, hrest⟩, ?_, ?_⟩
  · exact congrArg (before.reverse ++ ·) ht
  · intro d hd
    exact isWordChar_of_mem_leadingWord hd
  · simp [hc]

/-- The words from a place on are the maximal runs that begin there or later. -/
lemma mem_wordsFrom_iff (before t : Text) (w : Word) :
    w ∈ wordsFrom before t ↔
      w.IsMaximalIn (before.reverse ++ t) ∧ byteLength before ≤ w.start := by
  induction t generalizing before with
  | nil =>
    simp only [wordsFrom, List.not_mem_nil, List.append_nil, false_iff, not_and]
    intro h
    have := h.start_lt
    rw [byteLength_reverse] at this
    omega
  | cons c t ih =>
    have hshift : (c :: before).reverse ++ t = before.reverse ++ c :: t := by simp
    have hlater : w ∈ wordsFrom (c :: before) t ↔
        w.IsMaximalIn (before.reverse ++ c :: t) ∧ byteLength (c :: before) ≤ w.start := by
      rw [ih, hshift]
    have hle : byteLength before ≤ byteLength (c :: before) := by
      rw [byteLength_cons]
      omega
    rw [wordsFrom]
    split
    · next hbegin =>
      rw [Bool.and_eq_true, Bool.not_eq_true'] at hbegin
      rw [List.mem_cons, hlater]
      constructor
      · rintro (rfl | ⟨h, hstart⟩)
        · exact ⟨isMaximalIn_leadingWord hbegin.1 hbegin.2, Nat.le_refl _⟩
        · exact ⟨h, Nat.le_trans hle hstart⟩
      · rintro ⟨h, hstart⟩
        rcases h.start_cases hstart with ⟨rfl, -, -⟩ | hafter
        · exact Or.inl rfl
        · exact Or.inr ⟨h, hafter⟩
    · next hbegin =>
      rw [hlater]
      constructor
      · rintro ⟨h, hstart⟩
        exact ⟨h, Nat.le_trans hle hstart⟩
      · rintro ⟨h, hstart⟩
        rcases h.start_cases hstart with ⟨-, hc, hbefore⟩ | hafter
        · exact absurd (by simp [hc, hbefore]) hbegin
        · exact ⟨h, hafter⟩

lemma start_of_mem_wordsFrom {w : Word} (h : w ∈ wordsFrom before t) :
    byteLength before ≤ w.start :=
  ((mem_wordsFrom_iff before t w).mp h).2

lemma pairwise_wordsFrom (before t : Text) :
    (wordsFrom before t).Pairwise fun a b => a.start < b.start := by
  induction t generalizing before with
  | nil => exact List.Pairwise.nil
  | cons c t ih =>
    rw [wordsFrom]
    split
    · refine List.Pairwise.cons ?_ (ih (c :: before))
      intro w hw
      have hle := start_of_mem_wordsFrom hw
      have := c.utf8Size_pos
      rw [byteLength_cons] at hle
      simp only
      omega
    · exact ih (c :: before)

/-- **The words of a text are its maximal runs of word characters**, in the order in which they
begin. -/
theorem words_spec (t : Text) :
    (∀ w, w ∈ words t ↔ w.IsMaximalIn t) ∧ (words t).Pairwise fun a b => a.start < b.start :=
  ⟨fun w => by simpa [words] using mem_wordsFrom_iff [] t w, pairwise_wordsFrom [] t⟩

/-- Inside a word no other word begins. -/
lemma wordsFrom_append {u : Text} (hu : ∀ c ∈ u, isWordChar c = true)
    (hbefore : touchesWord before = true) (t : Text) :
    wordsFrom before (u ++ t) = wordsFrom (u.reverse ++ before) t := by
  induction u generalizing before with
  | nil => rfl
  | cons c u ih =>
    rw [List.cons_append, wordsFrom, if_neg (by simp [hbefore]),
      ih (fun d hd => hu d (by simp [hd])) (by simpa using hu c (by simp))]
    simp

/-- Where a word begins, it comes first and the others are those after it. -/
lemma wordsFrom_of_touches (hbefore : touchesWord before = false) (ht : touchesWord t = true) :
    wordsFrom before t =
      ⟨byteLength before, leadingWord t⟩ ::
        wordsFrom ((leadingWord t).reverse ++ before) (t.drop (leadingWord t).length) := by
  obtain ⟨rest, hsplit, -⟩ := exists_leadingWord_append t
  cases t with
  | nil => simp at ht
  | cons c t =>
    rw [touchesWord_cons] at ht
    have hlead : leadingWord (c :: t) = c :: leadingWord t := by simp [ht]
    have ht' : t = leadingWord t ++ rest := by
      rw [hlead, List.cons_append, List.cons.injEq] at hsplit
      exact hsplit.2
    have hdrop : (c :: t).drop (leadingWord (c :: t)).length = rest := by
      rw [hlead, List.length_cons, List.drop_succ_cons]
      nth_rewrite 2 [ht']
      exact List.drop_left
    have hword : wordsFrom (c :: before) t =
        wordsFrom ((leadingWord t).reverse ++ c :: before) rest := by
      nth_rewrite 1 [ht']
      exact wordsFrom_append (fun d hd => isWordChar_of_mem_leadingWord hd) (by simpa using ht) rest
    rw [hdrop, wordsFrom, if_pos (by simp [ht, hbefore]), hword, hlead]
    simp

/-- The words that begin at a byte or later are those from the place of that byte on. -/
lemma filter_wordsFrom (n : Nat) (before t : Text) :
    (wordsFrom before t).filter (fun w => byteLength before + n ≤ w.start) =
      wordsFrom ((t.takeBytes n).reverse ++ before) (t.dropBytes n) := by
  induction t generalizing before n with
  | nil => rfl
  | cons c t ih =>
    by_cases hn : n = 0
    · subst hn
      rw [List.filter_eq_self.mpr]
      · simp [takeBytes, dropBytes]
      · intro w hw
        simpa using start_of_mem_wordsFrom hw
    · have hfilter : (wordsFrom (c :: before) t).filter (fun w => byteLength before + n ≤ w.start) =
          (wordsFrom (c :: before) t).filter
            fun w => byteLength (c :: before) + (n - c.utf8Size) ≤ w.start := by
        refine List.filter_congr fun w hw => ?_
        have hle := start_of_mem_wordsFrom hw
        rw [byteLength_cons] at hle ⊢
        rw [decide_eq_decide]
        omega
      have hrest : (wordsFrom before (c :: t)).filter (fun w => byteLength before + n ≤ w.start) =
          (wordsFrom (c :: before) t).filter fun w => byteLength before + n ≤ w.start := by
        rw [wordsFrom]
        split
        · rw [List.filter_cons_of_neg]
          simp only [decide_eq_true_eq]
          omega
        · rfl
      rw [hrest, hfilter, ih]
      simp [takeBytes, dropBytes, hn]

end Text

end CodePad
