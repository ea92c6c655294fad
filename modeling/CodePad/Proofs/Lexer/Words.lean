import CodePad.Proofs.Pattern.Run
import CodePad.Proofs.Rule.Matches
import CodePad.Proofs.Text.Words
import CodePad.Lexer

/-!
Numbers and keywords. Their patterns stand between two word boundaries, so a match is a whole word
or nothing, and which word it is depends on the text alone and not on where the search began.
-/

namespace CodePad

namespace Text

/-- The number of characters of the word that begins at a place, if there is one and `p` holds of
it. -/
def wordLength (p : Text → Bool) (before t : Text) : Option Nat :=
  if !touchesWord before && touchesWord t && p (leadingWord t) then some (leadingWord t).length
  else none

lemma wordLength_eq_some_iff {p : Text → Bool} {before t : Text} {n : Nat} :
    wordLength p before t = some n ↔
      touchesWord before = false ∧ touchesWord t = true ∧ p (leadingWord t) = true ∧
        (leadingWord t).length = n := by
  simp [wordLength, and_assoc]

/-- Whether a text is made of ASCII digits. -/
def isNumber (t : Text) : Bool := t.all Char.isDigit

/-- Whether a text is one of the keywords. -/
def isKeyword (t : Text) : Bool := String.ofList t ∈ Lexer.keywords

end Text

namespace Word

/-- The token of a kind over a word. -/
def token (kind : TokenKind) (w : Word) : Token :=
  ⟨w.start, w.start + Text.byteLength w.text, kind, w.text⟩

end Word

namespace Pattern

open Text

variable {before t : Text} {n : Nat} {k : Progress → Option Nat}

lemma run_wordBoundary (before t : Text) (n : Nat) (k : Progress → Option Nat) :
    run wordBoundary k ⟨before, t, n⟩ =
      if touchesWord before = touchesWord t then none else k ⟨before, t, n⟩ := by
  have hrun : run wordBoundary k ⟨before, t, n⟩ =
      if (touchesWord before != touchesWord t) = true then k ⟨before, t, n⟩ else none := rfl
  rw [hrun]
  by_cases h : touchesWord before = touchesWord t <;> simp [h]

/-- A greedy repetition of word characters, begun inside a word, ends at a word boundary only if it
takes all that is left of the word. -/
lemma iterateChar_wordBoundary {set : CharSet}
    (hset : ∀ c, set.contains c = true → isWordChar c = true)
    (hbefore : touchesWord before = true) (t : Text) (n : Nat) :
    iterateChar true set (run wordBoundary fun s => some s.taken) before t n =
      if (leadingWord t).all set.contains then some (n + (leadingWord t).length) else none := by
  induction t generalizing before n with
  | nil => simp [iterateChar, run_wordBoundary, hbefore]
  | cons c t ih =>
    rw [iterateChar, run_wordBoundary, hbefore, touchesWord_cons, leadingWord_cons]
    by_cases hc : set.contains c = true
    · -- between two word characters there is no boundary to go back to
      have hword := hset c hc
      rw [ih (by simpa using hword)]
      simp [hc, hword, Nat.add_assoc, Nat.add_comm 1]
    · by_cases hword : isWordChar c = true <;> simp [hc, hword]

/-- A pattern between two word boundaries matches whole words if, where a word begins, it goes on to
the end of the word or not at all, and begins nowhere else. -/
lemma lengthAt_between_boundaries {q : Pattern} {p : Text → Bool}
    (hword : ∀ before t, touchesWord before = false → touchesWord t = true →
      run q (run wordBoundary fun s => some s.taken) ⟨before, t, 0⟩ =
        if p (leadingWord t) then some (leadingWord t).length else none)
    (hother : ∀ before t, touchesWord t = false →
      run q (run wordBoundary fun s => some s.taken) ⟨before, t, 0⟩ = none) (before t : Text) :
    (sequence [wordBoundary, q, wordBoundary]).lengthAt ⟨before, t⟩ = wordLength p before t := by
  have hrun : (sequence [wordBoundary, q, wordBoundary]).lengthAt ⟨before, t⟩ =
      run wordBoundary (run q (run wordBoundary fun s => some s.taken)) ⟨before, t, 0⟩ := rfl
  rw [hrun, run_wordBoundary, wordLength]
  cases hb : touchesWord before <;> cases ht : touchesWord t
  · simp
  · simp [hword before t hb ht]
  · simp [hother before t ht]
  · simp

lemma isWordChar_of_isDigit {c : Char} (h : c.isDigit = true) : isWordChar c = true := by
  have hd : ('0' ≤ c && c ≤ '9') = true := h
  simp [isWordChar, hd]

lemma contains_digits : (⟨[('0', '9')], false⟩ : CharSet).contains = Char.isDigit := by
  funext c
  simp only [CharSet.contains, List.any_cons, List.any_nil, Bool.or_false, Bool.bne_false]
  rfl

lemma lengthAt_number (before t : Text) :
    number.lengthAt ⟨before, t⟩ = wordLength isNumber before t := by
  refine lengthAt_between_boundaries ?_ ?_ before t
  · intro before t _ ht
    cases t with
    | nil => simp at ht
    | cons c t =>
      rw [touchesWord_cons] at ht
      rw [plus, run_seq, run_char_cons, contains_digits, leadingWord_cons, if_pos ht,
        run_star_char, iterateChar_wordBoundary
          (fun d hd => isWordChar_of_isDigit (by rwa [contains_digits] at hd)) (by simpa using ht),
        contains_digits]
      by_cases hc : c.isDigit = true <;> simp [hc, isNumber, Nat.add_comm]
  · intro before t ht
    cases t with
    | nil => rfl
    | cons c t =>
      rw [touchesWord_cons] at ht
      have hc : ¬ c.isDigit = true := fun hc => by simp [isWordChar_of_isDigit hc] at ht
      rw [plus, run_seq, run_char_cons, contains_digits, if_neg hc]

/-- Of some alternatives the first that leads to a match is taken. -/
lemma run_anyOf (ps : List Pattern) (s : Progress) :
    run (anyOf ps) k s = ps.findSome? fun p => run p k s := by
  induction ps with
  | nil =>
    obtain ⟨before, after, n⟩ := s
    cases after <;> simp [anyOf, CharSet.contains]
  | cons p ps ih =>
    cases ps with
    | nil => cases h : run p k s <;> simp [anyOf, h]
    | cons q ps =>
      have halt : run (anyOf (p :: q :: ps)) k s = (run p k s).or (run (anyOf (q :: ps)) k s) := rfl
      rw [halt, ih]
      cases h : run p k s <;> simp [List.findSome?_cons, h]

/-- A word in front of a text reaches to a word boundary exactly if it is the leading word. -/
lemma prefix_and_boundary_iff {w : Text} (hw : ∀ c ∈ w, isWordChar c = true) (t : Text) :
    (w <+: t ∧ touchesWord (t.drop w.length) = false) ↔ leadingWord t = w := by
  constructor
  · rintro ⟨⟨rest, rfl⟩, hrest⟩
    rw [List.drop_left] at hrest
    exact leadingWord_append hw hrest
  · rintro rfl
    obtain ⟨rest, ht, hrest⟩ := exists_leadingWord_append t
    refine ⟨⟨rest, ht.symm⟩, ?_⟩
    nth_rewrite 2 [ht]
    rwa [List.drop_left]

lemma run_literal_wordBoundary {w : Text} (hw : ∀ c ∈ w, isWordChar c = true) (hne : w ≠ [])
    (before t : Text) :
    run (literal w) (run wordBoundary fun s => some s.taken) ⟨before, t, 0⟩ =
      if leadingWord t = w then some (leadingWord t).length else none := by
  have hend : touchesWord (w.reverse ++ before) = true := by
    rcases List.eq_nil_or_concat w with rfl | ⟨u, c, rfl⟩
    · exact absurd rfl hne
    · simpa using hw c (by simp)
  rw [run_literal, run_wordBoundary, hend]
  have hiff := prefix_and_boundary_iff hw t
  by_cases hlead : leadingWord t = w
  · obtain ⟨hpre, hdrop⟩ := hiff.mpr hlead
    simp [hpre, hdrop, hlead]
  · rw [if_neg hlead]
    split
    · next hpre =>
      have hdrop : touchesWord (t.drop w.length) = true :=
        Bool.not_eq_false _ ▸ fun h => hlead (hiff.mp ⟨hpre, h⟩)
      rw [if_pos hdrop.symm]
    · rfl

/-- Some words in front of a word boundary match the leading word if it is one of them. -/
lemma run_anyOf_literal {ws : List String}
    (hws : ∀ w ∈ ws, w.toList ≠ [] ∧ ∀ c ∈ w.toList, isWordChar c = true) (before t : Text) :
    run (anyOf (ws.map fun w => literal w.toList)) (run wordBoundary fun s => some s.taken)
        ⟨before, t, 0⟩ =
      if String.ofList (leadingWord t) ∈ ws then some (leadingWord t).length else none := by
  rw [run_anyOf, List.findSome?_map]
  induction ws with
  | nil => simp
  | cons w ws ih =>
    obtain ⟨hne, hw⟩ := hws w (by simp)
    have heq : leadingWord t = w.toList ↔ String.ofList (leadingWord t) = w := by
      constructor
      · intro h
        rw [h, String.ofList_toList]
      · intro h
        rw [← h, String.toList_ofList]
    rw [List.findSome?_cons, Function.comp_apply, run_literal_wordBoundary hw hne,
      ih fun w' hw' => hws w' (by simp [hw'])]
    by_cases h : leadingWord t = w.toList
    · simp [h]
    · simp [h, heq.not.mp h]

lemma keywords_words :
    ∀ w ∈ Lexer.keywords, w.toList ≠ [] ∧ ∀ c ∈ w.toList, isWordChar c = true := by
  have hall : Lexer.keywords.all fun w => !w.toList.isEmpty && w.toList.all isWordChar := by
    decide
  intro w hw
  have hword := List.all_eq_true.mp hall w hw
  rw [Bool.and_eq_true, Bool.not_eq_true', List.isEmpty_eq_false_iff] at hword
  exact ⟨hword.1, List.all_eq_true.mp hword.2⟩

lemma lengthAt_keyword (before t : Text) :
    (word Lexer.keywords).lengthAt ⟨before, t⟩ = wordLength isKeyword before t := by
  refine lengthAt_between_boundaries ?_ ?_ before t
  · intro before t _ _
    rw [run_anyOf_literal keywords_words]
    simp [isKeyword]
  · intro before t ht
    have hnil : leadingWord t = [] := (leadingWord_eq_nil_iff t).mpr ht
    rw [run_anyOf_literal keywords_words, hnil, if_neg (by decide)]

end Pattern

namespace Match

/-- The characters of a match as a word. -/
def word (m : Match) : Word := ⟨m.start, m.text⟩

end Match

namespace Matcher

open Text

/-- A matcher that matches the words of which `p` holds, each as a whole, and nothing else. -/
def MatchesWords (m : Matcher) (p : Text → Bool) : Prop :=
  ∀ before t, m.lengthAt ⟨before, t⟩ = wordLength p before t

lemma matchesWords_number : Pattern.number.matcher.MatchesWords isNumber := Pattern.lengthAt_number

lemma matchesWords_keyword : (Pattern.word Lexer.keywords).matcher.MatchesWords isKeyword :=
  Pattern.lengthAt_keyword

variable {m : Matcher} {p : Text → Bool}

/-- Such a matcher finds all of these words. -/
lemma words_findFrom (h : m.MatchesWords p) (place : Place) :
    (m.findFrom place).map Match.word =
      (wordsFrom place.before place.after).filter fun w => p w.text := by
  refine m.findFrom_induction
    (motive := fun place ms => ms.map Match.word =
      (wordsFrom place.before place.after).filter fun w => p w.text) ?_ ?_ ?_ place
  · intro before
    rfl
  · intro ⟨before, after⟩ n ms hn ih
    rw [h] at hn
    obtain ⟨hbefore, hafter, hp, hlen⟩ := wordLength_eq_some_iff.mp hn
    have hword : Match.word ⟨⟨before, after⟩, n + 1⟩ = ⟨byteLength before, leadingWord after⟩ := by
      rw [Match.word, Match.start, Match.text, ← hlen, take_leadingWord]
    rw [Place.advance_mk, ← hlen, take_leadingWord] at ih
    rw [wordsFrom_of_touches hbefore hafter, List.filter_cons_of_pos (by simpa using hp),
      List.map_cons, hword, ih]
  · intro before c t ms hn ih
    rw [ih, wordsFrom]
    -- A word may begin here, but then it is not one of those looked for.
    split
    · next hbegin =>
      rw [Bool.and_eq_true, Bool.not_eq_true'] at hbegin
      rw [List.filter_cons_of_neg]
      intro hp
      refine hn (leadingWord t).length ?_
      rw [h, wordLength_eq_some_iff]
      exact ⟨hbegin.2, hbegin.1, hp, by simp [hbegin.1]⟩
    · rfl

/-- The first match from a place on is the first of these words. -/
lemma word_search (h : m.MatchesWords p) (before after : Text) :
    (m.search before after).map Match.word =
      (wordsFrom before after).find? fun w => p w.text := by
  induction after generalizing before with
  | nil =>
    have hnone : m.lengthAt ⟨before, []⟩ = none := by
      rw [h]
      simp [wordLength]
    simp [search, hnone, wordsFrom]
  | cons c t ih =>
    rw [search, wordsFrom]
    rcases hn : m.lengthAt ⟨before, c :: t⟩ with _ | n
    · simp only
      rw [h] at hn
      rw [ih]
      split
      · next hbegin =>
        rw [Bool.and_eq_true, Bool.not_eq_true'] at hbegin
        rw [List.find?_cons_of_neg]
        intro hp
        have hsome : wordLength p before (c :: t) = some (leadingWord (c :: t)).length :=
          wordLength_eq_some_iff.mpr ⟨hbegin.2, hbegin.1, hp, rfl⟩
        rw [hsome] at hn
        cases hn
      · rfl
    · simp only
      rw [h] at hn
      obtain ⟨hbefore, hafter, hp, hlen⟩ := wordLength_eq_some_iff.mp hn
      rw [touchesWord_cons] at hafter
      rw [if_pos (by simp [hbefore, hafter]), List.find?_cons_of_pos (by simpa using hp),
        Option.map_some, Match.word, Match.start, Match.text, ← hlen, take_leadingWord]

end Matcher

namespace Rule

open Text

variable {r : Rule} {p : Text → Bool}

/-- The tokens of a rule that matches whole words. -/
lemma tokens_eq_words (h : r.matcher.MatchesWords p) (text : Text) :
    r.tokens text = (text.words.filter fun w => p w.text).map (Word.token r.kind) := by
  have hfound : (r.matcher.findAll text).map Match.word = text.words.filter fun w => p w.text :=
    Matcher.words_findFrom h (Place.front text)
  rw [← hfound, List.map_map]
  rfl

/-- Wherever the search for whole words begins, it finds the first token that begins no earlier. -/
lemma token_find (h : r.matcher.MatchesWords p) (text : Text) (offset : Nat) :
    (r.matcher.find? text offset).map r.token =
      (r.tokens text).find? fun t => offset ≤ t.start := by
  have hword : (r.matcher.find? text offset).map Match.word =
      (text.words.filter fun w => offset ≤ w.start).find? fun w => p w.text := by
    rw [Matcher.find?, Place.ofByte?]
    split
    · next hlong =>
      -- Behind the end of the text no word begins.
      have hnone : (text.words.filter fun w => offset ≤ w.start) = [] := by
        rw [List.filter_eq_nil_iff]
        intro w hw
        have := (((words_spec text).1 w).mp hw).start_lt
        simp only [decide_eq_true_eq]
        omega
      rw [hnone]
      rfl
    · have hfrom := filter_wordsFrom offset [] text
      simp only [byteLength_nil, Nat.zero_add, List.append_nil] at hfrom
      rw [words, hfrom]
      exact Matcher.word_search h _ _
  have htoken : r.token = Word.token r.kind ∘ Match.word := rfl
  rw [htoken, ← Option.map_map, hword, tokens_eq_words h, List.find?_map, List.find?_filter,
    List.find?_filter]
  congr 2
  funext w
  rw [decide_eq_decide]
  exact and_comm

end Rule

lemma isWordChar_iff (c : Char) :
    isWordChar c = true ↔ c.toNat < 0x80 ∧ (c.isAlphanum = true ∨ c = '_') := by
  have hupper : c.isUpper = decide ('A'.val ≤ c.val ∧ c.val ≤ 'Z'.val) := rfl
  have hlower : c.isLower = (decide ('a'.val ≤ c.val) && decide (c.val ≤ 'z'.val)) := rfl
  have halnum : c.isAlphanum = (c.isUpper || c.isLower || c.isDigit) := rfl
  simp only [isWordChar, halnum, hupper, hlower, Char.isDigit, Char.le_def, Bool.or_eq_true,
    Bool.and_eq_true, decide_eq_true_eq, UInt32.le_iff_toNat_le, Char.ext_iff, ← UInt32.toNat_inj,
    Char.toNat, Char.reduceVal, UInt32.reduceToNat]
  omega

namespace Lexer

/-- **The numbers and keywords that are found in a text are its words that are made of digits and
its words that are keywords.** The words are the maximal runs of ASCII word characters, so no part
of a word is found, and wherever a search is begun it finds the next of these tokens. -/
theorem scan_numbers_keywords (text : Text) :
    (builtin.scan text).drop 2 =
        [(text.words.filter fun w => w.text.isNumber).map (Word.token .number),
          (text.words.filter fun w => w.text.isKeyword).map (Word.token .keyword)] ∧
      (∀ w, w ∈ text.words ↔ w.IsMaximalIn text) ∧
      (text.words.Pairwise fun a b => a.start < b.start) ∧
      (∀ c, isWordChar c = true ↔ c.toNat < 0x80 ∧ (c.isAlphanum = true ∨ c = '_')) ∧
      ∀ r ∈ builtin.rules.drop 2, ∀ offset,
        (r.matcher.find? text offset).map r.token =
          (r.tokens text).find? fun t => offset ≤ t.start := by
  refine ⟨?_, (Text.words_spec text).1, (Text.words_spec text).2, isWordChar_iff, ?_⟩
  · have hnumber := Rule.tokens_eq_words
      (r := ⟨"number", .number, Pattern.number.matcher⟩) Matcher.matchesWords_number text
    have hkeyword := Rule.tokens_eq_words
      (r := ⟨"keyword", .keyword, (Pattern.word keywords).matcher⟩)
      Matcher.matchesWords_keyword text
    rw [← hnumber, ← hkeyword]
    rfl
  · intro r hr offset
    have hr' : r = ⟨"number", .number, Pattern.number.matcher⟩ ∨
        r = ⟨"keyword", .keyword, (Pattern.word keywords).matcher⟩ := by
      simpa [builtin] using hr
    rcases hr' with rfl | rfl
    · exact Rule.token_find Matcher.matchesWords_number text offset
    · exact Rule.token_find Matcher.matchesWords_keyword text offset

end Lexer

end CodePad
