import CodePad.Proofs.Highlighting
import CodePad.Proofs.Rule.Greedy
import CodePad.Proofs.Token.Greedy

/-!
Adding a rule to a lexer. The candidates of the new rule come last, so they change nothing of what
has been accepted before; and as they share no byte among themselves, each of them is accepted
exactly if it shares none with an older token. The new tokens fill gaps between the old ones.
-/

namespace CodePad

namespace Token

variable {n : Nat}

/-- The selected tokens are those that are accepted when all candidates come one after another. -/
lemma select_perm_greedy (n : Nat) (cands : List (List Token)) :
    (select n cands).Perm (greedy n cands.flatten) := by
  have hstop : ∀ t ∈ cands.flatten, t.fits n = true → t.stop ≤ extent (fitting n cands) :=
    fun t ht hfit => stop_le_extent (List.mem_filter.mpr ⟨ht, hfit⟩)
  have haccepted : (choice n cands).accepted.reverse = greedy n cands.flatten :=
    (Choice.foldlM_visit (Choice.accounts_free _) hstop).2
  rw [← haccepted]
  exact (select_perm n cands).trans (List.reverse_perm _).symm

/-- Candidates that share no byte among themselves are accepted as far as they share none with the
tokens accepted before. -/
lemma foldl_accept_eq {accepted cs : List Token} (hfit : ∀ t ∈ cs, t.fits n = true)
    (hapart : cs.Pairwise fun a b => ¬ a.Overlaps b) :
    cs.foldl (accept n) accepted =
      accepted ++ cs.filter fun t => ∀ a ∈ accepted, ¬ a.Overlaps t := by
  induction cs generalizing accepted with
  | nil => simp
  | cons c cs ih =>
    rw [List.forall_mem_cons] at hfit
    obtain ⟨hfirst, hrest⟩ := List.pairwise_cons.mp hapart
    rw [List.foldl_cons, ih hfit.2 hrest, accept]
    by_cases hfree : ∀ a ∈ accepted, ¬ a.Overlaps c
    · -- `c` is accepted, and none of those behind it has a byte of it
      have hsame : (cs.filter fun t => ∀ a ∈ accepted ++ [c], ¬ a.Overlaps t) =
          cs.filter fun t => ∀ a ∈ accepted, ¬ a.Overlaps t := by
        refine List.filter_congr fun t ht => ?_
        simp only [decide_eq_decide, List.forall_mem_append, List.forall_mem_singleton]
        exact and_iff_left (hfirst t ht)
      rw [if_pos ⟨hfit.1, hfree⟩, hsame, List.filter_cons_of_pos (by simpa using hfree),
        List.append_assoc, List.singleton_append]
    · rw [if_neg (mt And.right hfree), List.filter_cons_of_neg (by simpa using hfree)]

end Token

namespace Lexer

variable (x : Lexer) (r : Rule) (text : Text)

lemma flatten_scan_add :
    ((x.add r).scan text).flatten = (x.scan text).flatten ++ r.tokens text := by
  simp [scan, add]

/-- The tokens of a lexer with one more rule, but for their order. -/
lemma tokens_add_perm :
    ((x.add r).tokens text).Perm
      (x.tokens text ++ (r.tokens text).filter fun t => ∀ a ∈ x.tokens text, ¬ a.Overlaps t) := by
  have hfit : ∀ t ∈ r.tokens text, t.fits text.byteLength = true := fun t ht =>
    (Token.fits_iff _ t).mpr (Rule.isSliceOf_of_mem_tokens ht).bounds
  have hapart : (r.tokens text).Pairwise fun a b => ¬ a.Overlaps b := by
    refine (r.pairwise_tokens text).imp fun hab => ?_
    unfold Token.Overlaps
    omega
  have hold : (x.tokens text).Perm (Token.greedy text.byteLength (x.scan text).flatten) :=
    Token.select_perm_greedy _ _
  have hnew : Token.greedy text.byteLength ((x.add r).scan text).flatten =
      Token.greedy text.byteLength (x.scan text).flatten ++
        (r.tokens text).filter fun t => ∀ a ∈ x.tokens text, ¬ a.Overlaps t := by
    rw [flatten_scan_add, Token.greedy, List.foldl_append, Token.foldl_accept_eq hfit hapart]
    simp only [hold.mem_iff, Token.greedy]
  refine (Token.select_perm_greedy _ _).trans ?_
  rw [hnew]
  exact hold.symm.append_right _

/-- Tokens follow one another, each with a start of its own. -/
lemma strictly_ordered_tokens :
    (x.tokens text).Pairwise fun a b => a.start < b.start ∧ a.stop ≤ b.start := by
  refine (x.pairwise_tokens text).imp_of_mem fun ha _ hle => ?_
  have := (x.isSliceOf_of_mem_tokens text ha).bounds
  omega

/-- No token is lost by adding a rule, and those that there were keep their order. -/
lemma tokens_sublist_add : (x.tokens text).Sublist ((x.add r).tokens text) := by
  have hold := x.strictly_ordered_tokens text
  have hnew := (x.add r).strictly_ordered_tokens text
  have hnone : ((r.tokens text).filter fun t => ∀ a ∈ x.tokens text, ¬ a.Overlaps t).filter
      (· ∈ x.tokens text) = [] := by
    refine List.filter_eq_nil_iff.mpr fun t ht hmem => ?_
    obtain ⟨hslice, hfree⟩ := List.mem_filter.mp ht
    have := (Rule.isSliceOf_of_mem_tokens hslice).bounds
    refine of_decide_eq_true hfree t (of_decide_eq_true hmem) ?_
    unfold Token.Overlaps
    omega
  have hperm := (x.tokens_add_perm r text).filter (· ∈ x.tokens text)
  rw [List.filter_append, hnone, List.append_nil,
    List.filter_eq_self.mpr fun t ht => decide_eq_true ht] at hperm
  have heq : ((x.add r).tokens text).filter (· ∈ x.tokens text) = x.tokens text := by
    refine hperm.eq_of_pairwise (fun a b _ _ hab hba => ?_) (hnew.filter _) hold
    exact absurd hab.1 (Nat.lt_asymm hba.1)
  rw [← heq]
  exact List.filter_sublist

lemma tokens_sublist_foldl_add (rs : List Rule) :
    (x.tokens text).Sublist ((rs.foldl add x).tokens text) := by
  induction rs generalizing x with
  | nil => exact List.Sublist.refl _
  | cons r rs ih => exact (x.tokens_sublist_add r text).trans (ih (x.add r))

/-- **Adding a rule only fills gaps.** The tokens of a lexer with one more rule are those that there
were, and those of the new rule that have no byte in common with any of them; they come in the order
of their starts and follow one another. No token that there was is lost, changed or moved past
another, whatever rule is added and however many follow it. -/
theorem tokens_add_fill_gaps :
    (∀ t, t ∈ (x.add r).tokens text ↔
        t ∈ x.tokens text ∨
          t ∈ r.tokens text ∧ ∀ a ∈ x.tokens text, ¬ ∃ i, a.spans i ∧ t.spans i) ∧
      ((x.add r).tokens text).Pairwise (fun a b => a.start < b.start ∧ a.stop ≤ b.start) ∧
      ∀ rs, (x.tokens text).Sublist (((r :: rs).foldl add x).tokens text) := by
  refine ⟨fun t => ?_, (x.add r).strictly_ordered_tokens text,
    fun rs => x.tokens_sublist_foldl_add text (r :: rs)⟩
  rw [(x.tokens_add_perm r text).mem_iff, List.mem_append, List.mem_filter, decide_eq_true_eq]
  simp only [Token.overlaps_iff]

end Lexer

end CodePad
