import CodePad.Proofs.Token.Select

/-!
Choosing tokens is first come, first served. The account of taken bytes tells the same as looking
through all tokens accepted before: a candidate is accepted exactly if it lies in the text, is not
empty and shares no byte with any of them. No flag outside the account is ever asked for.
-/

namespace CodePad

namespace Token

variable {n : Nat}

/-- Accepts a candidate that lies in a text of `n` bytes, is not empty and has no byte in common
with those accepted before. -/
def accept (n : Nat) (accepted : List Token) (t : Token) : List Token :=
  if t.fits n ∧ ∀ a ∈ accepted, ¬ a.Overlaps t then accepted ++ [t] else accepted

/-- The candidates that are accepted when they come one after another. -/
def greedy (n : Nat) (candidates : List Token) : List Token := candidates.foldl (accept n) []

lemma mem_accept_iff {accepted : List Token} {c t : Token} :
    t ∈ accept n accepted c ↔
      t ∈ accepted ∨ t = c ∧ t.fits n = true ∧ ∀ a ∈ accepted, ¬ a.Overlaps t := by
  unfold accept
  split
  · next h =>
    rw [List.mem_append, List.mem_singleton]
    constructor
    · rintro (ht | rfl)
      · exact Or.inl ht
      · exact Or.inr ⟨rfl, h⟩
    · rintro (ht | ⟨rfl, -⟩)
      · exact Or.inl ht
      · exact Or.inr rfl
  · next h =>
    constructor
    · exact Or.inl
    · rintro (ht | ⟨rfl, hfree⟩)
      · exact ht
      · exact absurd hfree h

lemma mem_foldl_accept_iff {accepted cs : List Token} {t : Token} :
    t ∈ cs.foldl (accept n) accepted ↔
      t ∈ accepted ∨ ∃ pre post, cs = pre ++ t :: post ∧ t.fits n = true ∧
        ∀ a ∈ pre.foldl (accept n) accepted, ¬ a.Overlaps t := by
  induction cs generalizing accepted with
  | nil => simp
  | cons c cs ih =>
    rw [List.foldl_cons, ih, mem_accept_iff]
    constructor
    · rintro ((ht | ⟨rfl, hfit, hfree⟩) | ⟨pre, post, rfl, hfit, hfree⟩)
      · exact Or.inl ht
      · exact Or.inr ⟨[], cs, rfl, hfit, hfree⟩
      · exact Or.inr ⟨c :: pre, post, rfl, hfit, hfree⟩
    · rintro (ht | ⟨pre, post, hsplit, hfit, hfree⟩)
      · exact Or.inl (Or.inl ht)
      · cases pre with
        | nil =>
          obtain ⟨rfl, rfl⟩ := List.cons.inj hsplit
          exact Or.inl (Or.inr ⟨rfl, hfit, hfree⟩)
        | cons d pre =>
          obtain ⟨rfl, rfl⟩ := List.cons.inj hsplit
          exact Or.inr ⟨pre, post, rfl, hfit, hfree⟩

/-- An accepted candidate is one that fits and found its bytes free when it came. -/
lemma mem_greedy_iff {cs : List Token} {t : Token} :
    t ∈ greedy n cs ↔
      ∃ pre post, cs = pre ++ t :: post ∧ (t.start < t.stop ∧ t.stop ≤ n) ∧
        ∀ a ∈ greedy n pre, ¬ a.Overlaps t := by
  rw [greedy, mem_foldl_accept_iff]
  simp only [List.not_mem_nil, false_or, fits_iff, greedy]

/-! ### The account of taken bytes -/

namespace Choice

variable {flags : Nat} {ch : Choice}

/-- Offers a candidate, but fails if one of its bytes has no flag. -/
def offer? (ch : Choice) (t : Token) : Option Choice :=
  if t.start ≤ t.stop ∧ t.stop ≤ ch.occupancy.size then some (ch.offer t) else none

/-- Offers a candidate that lies in a text of `n` bytes and passes over any other. -/
def visit? (n : Nat) (ch : Choice) (t : Token) : Option Choice :=
  if t.fits n then ch.offer? t else some ch

lemma accepted_offer (h : ch.Accounts flags) {t : Token} (ht : t.fits n = true) :
    (ch.offer t).accepted.reverse = accept n ch.accepted.reverse t := by
  rw [h.offer_eq ((fits_iff n t).mp ht).1, accept]
  by_cases hover : ∃ a ∈ ch.accepted, a.Overlaps t
  · obtain ⟨a, ha, hat⟩ := hover
    rw [if_pos ⟨a, ha, hat⟩, if_neg]
    rintro ⟨-, hfree⟩
    exact hfree a (List.mem_reverse.mpr ha) hat
  · rw [if_neg hover, if_pos, List.reverse_cons]
    refine ⟨ht, fun a ha hat => hover ⟨a, List.mem_reverse.mp ha, hat⟩⟩

/-- With a flag for every byte up to the end of the last candidate that fits, no visit fails, and
the candidates that fit are accepted first come, first served. -/
lemma foldlM_visit (h : ch.Accounts flags) {cs : List Token}
    (hcs : ∀ t ∈ cs, t.fits n = true → t.stop ≤ flags) :
    cs.foldlM (visit? n) ch = some ((cs.filter (fits n)).foldl offer ch) ∧
      ((cs.filter (fits n)).foldl offer ch).accepted.reverse =
        cs.foldl (accept n) ch.accepted.reverse := by
  induction cs generalizing ch with
  | nil => exact ⟨rfl, rfl⟩
  | cons t cs ih =>
    have hcs' : ∀ a ∈ cs, a.fits n = true → a.stop ≤ flags := fun a ha => hcs a (by simp [ha])
    by_cases ht : t.fits n = true
    · have hlt := ((fits_iff n t).mp ht).1
      have hstop := hcs t (by simp) ht
      have hsome : visit? n ch t = some (ch.offer t) := by
        rw [visit?, if_pos ht, offer?, if_pos ⟨by omega, by rw [h.size]; exact hstop⟩]
      obtain ⟨hrun, haccepted⟩ := ih (h.offer hlt hstop) hcs'
      rw [List.foldlM_cons, hsome, List.filter_cons_of_pos ht, List.foldl_cons, List.foldl_cons,
        ← accepted_offer h ht]
      exact ⟨hrun, haccepted⟩
    · have hsame : accept n ch.accepted.reverse t = ch.accepted.reverse := by
        rw [accept, if_neg fun hfree => ht hfree.1]
      obtain ⟨hrun, haccepted⟩ := ih h hcs'
      rw [List.foldlM_cons, visit?, if_neg ht, List.filter_cons_of_neg ht, List.foldl_cons, hsame]
      exact ⟨hrun, haccepted⟩

end Choice

/-- Selects from candidates with an account of as many bytes as there are `flags`, and fails if a
flag outside the account is asked for. -/
def select? (flags n : Nat) (candidates : List (List Token)) : Option (List Token) :=
  (candidates.flatten.foldlM (Choice.visit? n) ⟨.free flags, []⟩).map fun choice =>
    choice.accepted.reverse.mergeSort fun a b => a.start ≤ b.start

variable {cands : List (List Token)}

lemma extent_le {ts : List Token} {m : Nat} (h : ∀ t ∈ ts, t.stop ≤ m) : extent ts ≤ m := by
  have hgen : ∀ k, k ≤ m → ts.foldl (fun n t => max n t.stop) k ≤ m := by
    induction ts with
    | nil => exact fun k hk => hk
    | cons t ts ih =>
      intro k hk
      exact ih (fun u hu => h u (by simp [hu])) _ (Nat.max_le.mpr ⟨hk, h t (by simp)⟩)
  exact hgen 0 (Nat.zero_le m)

/-- **Selecting tokens is first come, first served.** A token is selected exactly if it lies in the
text, is not empty and shares no byte with a candidate that was accepted before it came. Each is
selected once and as it is, they follow one another, and no flag outside the account is asked for,
whether the account is of all bytes of the text or only of those up to the last candidate. -/
theorem select_greedy (n : Nat) (cands : List (List Token)) :
    (extent (fitting n cands) ≤ n ∧
        ∀ k, select? (extent (fitting n cands) + k) n cands = some (select n cands)) ∧
      (select n cands).Perm (greedy n cands.flatten) ∧
      (∀ t, t ∈ select n cands ↔
        ∃ pre post, cands.flatten = pre ++ t :: post ∧ (t.start < t.stop ∧ t.stop ≤ n) ∧
          ∀ a ∈ greedy n pre, ¬ ∃ i, a.spans i ∧ t.spans i) ∧
      (select n cands).Pairwise fun a b => a.start < b.start ∧ a.stop ≤ b.start := by
  -- The account of the model and any longer one accept the same tokens, those of `greedy`.
  have hvisit : ∀ flags, extent (fitting n cands) ≤ flags →
      cands.flatten.foldlM (Choice.visit? n) ⟨.free flags, []⟩ =
          some ((fitting n cands).foldl Choice.offer ⟨.free flags, []⟩) ∧
        ((fitting n cands).foldl Choice.offer ⟨.free flags, []⟩).accepted.reverse =
          greedy n cands.flatten := by
    intro flags hflags
    refine Choice.foldlM_visit (Choice.accounts_free flags) fun t ht hfit => ?_
    exact Nat.le_trans (stop_le_extent (List.mem_filter.mpr ⟨ht, hfit⟩)) hflags
  have hselect : select n cands =
      (greedy n cands.flatten).mergeSort fun a b => a.start ≤ b.start := by
    rw [← (hvisit _ (Nat.le_refl _)).2]
    rfl
  have hperm : (select n cands).Perm (greedy n cands.flatten) := by
    rw [hselect]
    exact List.mergeSort_perm _ _
  refine ⟨⟨?_, ?_⟩, hperm, ?_, ?_⟩
  · refine extent_le fun t ht => ?_
    exact ((fits_iff n t).mp (List.mem_filter.mp ht).2).2
  · intro k
    obtain ⟨hrun, haccepted⟩ := hvisit _ (Nat.le_add_right _ k)
    rw [select?, hrun, Option.map_some, haccepted, hselect]
  · intro t
    rw [hperm.mem_iff, mem_greedy_iff]
    simp only [overlaps_iff]
  · refine (pairwise_select n cands).imp_of_mem ?_
    intro a b ha hb hle
    have := (mem_select ha).2
    omega

end Token

end CodePad
