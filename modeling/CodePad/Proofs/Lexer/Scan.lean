import CodePad.Proofs.Lexer.Items
import CodePad.Proofs.Pattern.Run
import CodePad.Lexer

/-!
Comments and strings. What a comment or a string is can be told at its front without a pattern;
the patterns tell the same, and so their rules find the items of a text. A comment or a string
that is never closed is no item and hides nothing after it.
-/

namespace CodePad

namespace Text

/-- The number of characters in front of the first star and slash. -/
def beforeClose : Text → Option Nat
  | [] => none
  | '*' :: '/' :: _ => some 0
  | _ :: t => (beforeClose t).map (· + 1)

/-- The number of characters of the comment at the front of a text: from two slashes to the end of
the line, or from a slash and a star to the first star and slash after them. -/
def commentLength : Text → Option Nat
  | '/' :: '/' :: t => some (2 + (t.takeWhile fun c => c ≠ '\r' ∧ c ≠ '\n').length)
  | '/' :: '*' :: t => (beforeClose t).map fun n => 2 + n + 2
  | _ => none

/-- The number of characters up to the first quote that no backslash stands for, the quote with
them. A backslash stands for itself and the character after it. -/
def quotedLength (quote : Char) : Text → Option Nat
  | [] => none
  | ['\\'] => none
  | '\\' :: _ :: t => (quotedLength quote t).map (· + 2)
  | c :: t => if c = quote then some 1 else (quotedLength quote t).map (· + 1)

/-- The number of characters of the string at the front of a text: a quote of either kind, and all
up to the quote that ends it. -/
def stringLength : Text → Option Nat
  | c :: t => if c = '\x27' ∨ c = '\x22' then (quotedLength c t).map (· + 1) else none
  | [] => none

lemma commentLength_ne_zero (t : Text) : commentLength t ≠ some 0 := by
  unfold commentLength
  split
  · simp
  · simp
  · simp

lemma stringLength_ne_zero (t : Text) : stringLength t ≠ some 0 := by
  unfold stringLength
  split
  · split <;> simp
  · simp

lemma beforeClose_cons {c : Char} {t : Text} (h : ¬ ['*', '/'] <+: c :: t) :
    beforeClose (c :: t) = (beforeClose t).map (· + 1) := by
  rw [beforeClose]
  rintro u rfl rfl
  exact h (List.prefix_append ['*', '/'] u)

lemma quotedLength_cons {quote c : Char} {t : Text} (h : c ≠ '\\') :
    quotedLength quote (c :: t) =
      if c = quote then some 1 else (quotedLength quote t).map (· + 1) := by
  rw [quotedLength]
  · intro hc
    exact absurd hc h
  · intro d u hc
    exact absurd hc h

end Text

namespace Pattern

open Text

variable {k : Progress → Option Nat} {before : Text} {c quote : Char} {n : Nat}

lemma map_shift (o : Option Nat) (n a b : Nat) :
    (o.map fun m => n + a + m + b) = (o.map (· + a)).map fun m => n + m + b := by
  rw [Option.map_map]
  congr 1
  funext m
  simp only [Function.comp_apply]
  omega

/-- A lazy repetition of any characters up to a star and a slash goes on to the first of them. -/
lemma iterateChar_close (before after : Text) (n : Nat) :
    iterateChar false .all (run (literal ['*', '/']) fun s => some s.taken) before after n =
      (beforeClose after).map fun m => n + m + 2 := by
  induction after generalizing before n with
  | nil => simp [iterateChar, run_literal, beforeClose]
  | cons c t ih =>
    rw [iterateChar, CharSet.contains_all, run_literal]
    by_cases h : ['*', '/'] <+: c :: t
    · obtain ⟨u, hu⟩ := h
      rw [← hu]
      simp [beforeClose]
    · rw [beforeClose_cons h, ih]
      simp only [h, Bool.not_true, Bool.false_eq_true, if_false, Option.none_or]
      exact map_shift _ n 1 2

lemma lengthAt_comment (before t : Text) : comment.lengthAt ⟨before, t⟩ = commentLength t := by
  have hset : (CharSet.ofList ['\r', '\n']).compl.contains =
      fun c => decide (c ≠ '\r' ∧ c ≠ '\n') := by
    funext c
    simp
  rw [lengthAt, comment, run_alt]
  simp only [sequence, run_seq, run_literal, run_star_char, iterateChar_greedy, iterateChar_close,
    hset]
  by_cases hline : ['/', '/'] <+: t
  · obtain ⟨u, rfl⟩ := hline
    simp [commentLength]
  · by_cases hblock : ['/', '*'] <+: t
    · obtain ⟨u, rfl⟩ := hblock
      simp [commentLength]
    · rw [if_neg hline, if_neg hblock, Option.none_or, commentLength]
      · rintro u rfl
        exact hline (List.prefix_append ['/', '/'] u)
      · rintro u rfl
        exact hblock (List.prefix_append ['/', '*'] u)

/-- What a string may hold: a backslash with the character after it, or one character that is
neither a backslash nor the quote. -/
def quotedPiece (quote : Char) : Pattern :=
  alt (seq (char (.single '\\')) (char .all)) (char (CharSet.ofList ['\\', quote]).compl)

lemma run_quotedPiece_escape (d : Char) (t : Text) :
    run (quotedPiece quote) k ⟨before, '\\' :: d :: t, n⟩ = k ⟨d :: '\\' :: before, t, n + 2⟩ := by
  simp [quotedPiece, run_alt, run_seq]

lemma run_quotedPiece_cons (h : c ≠ '\\') (t : Text) :
    run (quotedPiece quote) k ⟨before, c :: t, n⟩ =
      if c = quote then none else k ⟨c :: before, t, n + 1⟩ := by
  simp [quotedPiece, run_alt, run_seq, h]

/-- Pieces of a string up to the quote go on to the first quote that no backslash stands for: once
a piece is taken there is no other way to take it. -/
lemma iterate_quotedPiece (hquote : quote ≠ '\\') (fuel : Text) (before after : Text) (n : Nat)
    (hfuel : after.length ≤ fuel.length) :
    iterate true (run (quotedPiece quote)) (run (char (.single quote)) fun s => some s.taken)
        fuel ⟨before, after, n⟩ =
      (quotedLength quote after).map fun m => n + m := by
  induction fuel generalizing before after n with
  | nil =>
    have hnil : after = [] := List.length_eq_zero_iff.mp (by simpa using hfuel)
    rw [hnil]
    rfl
  | cons _ fuel ih =>
    rw [List.length_cons] at hfuel
    rw [iterate, if_pos rfl]
    rcases after with _ | ⟨c, t⟩
    · rfl
    · rw [List.length_cons] at hfuel
      have hclose : run (char (.single quote)) (fun s => some s.taken) ⟨before, c :: t, n⟩ =
          if c = quote then some (n + 1) else none := by simp
      rw [hclose]
      by_cases hc : c = '\\'
      · subst hc
        rw [if_neg hquote.symm, Option.or_none]
        -- A backslash is only taken with the character after it, if there is one.
        rcases t with _ | ⟨d, t⟩
        · simp [quotedPiece, run_alt, run_seq, quotedLength]
        · rw [List.length_cons] at hfuel
          have htaken : n + 2 ≠ n := by omega
          rw [run_quotedPiece_escape, if_neg htaken, ih _ _ _ (by omega), quotedLength]
          exact map_shift _ n 2 0
      · rw [run_quotedPiece_cons hc, quotedLength_cons hc]
        by_cases hq : c = quote
        · simp [hq]
        · have htaken : n + 1 ≠ n := by omega
          rw [if_neg hq, if_neg hq, if_neg hq, if_neg htaken, ih _ _ _ (by omega), Option.or_none]
          exact map_shift _ n 1 0

lemma lengthAt_quoted (hquote : quote ≠ '\\') (before t : Text) :
    (quoted quote).lengthAt ⟨before, t⟩ =
      if t.head? = some quote then (quotedLength quote t.tail).map (· + 1) else none := by
  have hpieces : quoted quote = sequence [char (.single quote), star true (quotedPiece quote),
      char (.single quote)] := rfl
  rw [lengthAt, hpieces]
  simp only [sequence, run_seq]
  cases t with
  | nil => rfl
  | cons c t =>
    rw [run_char_cons, run_seq, run_star, iterate_quotedPiece hquote _ _ _ _ (Nat.le_refl _)]
    simp [Nat.add_comm]

lemma lengthAt_string (before t : Text) : string.lengthAt ⟨before, t⟩ = stringLength t := by
  have hstring : string.lengthAt ⟨before, t⟩ =
      ((quoted '\x27').lengthAt ⟨before, t⟩).or ((quoted '\x22').lengthAt ⟨before, t⟩) := rfl
  rw [hstring, lengthAt_quoted (by decide), lengthAt_quoted (by decide)]
  cases t with
  | nil => rfl
  | cons c t =>
    simp only [List.head?_cons, List.tail_cons, Option.some.injEq, stringLength]
    by_cases h₁ : c = '\x27'
    · simp [h₁]
    · by_cases h₂ : c = '\x22'
      · simp [h₂]
      · simp [h₁, h₂]

end Pattern

namespace Lexer

/-- **The comments and the strings that are found in a text are its items, read from left to right:
a comment where two slashes stand or a slash and a star that are closed, a string where a quote
stands that is ended by a quote without a backslash. What is never closed is no item, and no
comment and no string is hidden by it.** -/
theorem scan_comments_strings (text : Text) :
    (builtin.scan text).take 2 =
        [(text.items Text.commentLength).map fun p => Token.ofSlice text p.1 p.2 .comment,
          (text.items Text.stringLength).map fun p => Token.ofSlice text p.1 p.2 .string] ∧
      text.NoneHidden Text.commentLength ∧ text.NoneHidden Text.stringLength := by
  refine ⟨?_, ?_, ?_⟩
  · have hcomment := Rule.tokens_eq_items (r := ⟨"comment", .comment, Pattern.comment.matcher⟩)
      Pattern.lengthAt_comment text
    have hstring := Rule.tokens_eq_items (r := ⟨"string", .string, Pattern.string.matcher⟩)
      Pattern.lengthAt_string text
    rw [← hcomment, ← hstring]
    rfl
  · exact Text.noneHidden Text.commentLength_ne_zero rfl text
  · exact Text.noneHidden Text.stringLength_ne_zero rfl text

end Lexer

end CodePad
