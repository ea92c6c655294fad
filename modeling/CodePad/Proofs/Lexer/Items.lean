import CodePad.Proofs.Rule.Matches

/-!
The items of a text, read from left to right in one pass: an item at hand is noted and passed
over, anything else is passed over by one character. A rule finds exactly the items that its
matcher tells, and whatever begins an item and is not inside an earlier one is found.
-/

namespace CodePad

namespace Text

/-- The byte ranges of the items in a text that begins at the byte `start`, from left to right. At
each place `item` tells how many characters the item there takes, if there is one: such an item
is noted and the reading goes on after it, and anywhere else it goes on after one character. -/
def itemsFrom (item : Text → Option Nat) (start : Nat) (t : Text) : List (Nat × Nat) :=
  match t with
  | [] => []
  | c :: u =>
    match item (c :: u) with
    | some (n + 1) =>
      let stop := start + byteLength (c :: u.take n)
      (start, stop) :: itemsFrom item stop (u.drop n)
    | _ => itemsFrom item (start + c.utf8Size) u
termination_by t.length

/-- The byte ranges of the items in a text. -/
def items (item : Text → Option Nat) (t : Text) : List (Nat × Nat) := itemsFrom item 0 t

/-- Wherever an item begins in a text, one that is noted begins there or has not ended yet. -/
def NoneHidden (item : Text → Option Nat) (t : Text) : Prop :=
  ∀ u v, t = u ++ v → item v ≠ none →
    ∃ r ∈ t.items item, r.1 ≤ byteLength u ∧ byteLength u < r.2

variable {item : Text → Option Nat} {start n : Nat} {c : Char} {t : Text}

lemma itemsFrom_of_item (h : item (c :: t) = some (n + 1)) :
    itemsFrom item start (c :: t) =
      (start, start + byteLength (c :: t.take n)) ::
        itemsFrom item (start + byteLength (c :: t.take n)) (t.drop n) := by
  rw [itemsFrom, h]

lemma itemsFrom_cons (h : ∀ n, item (c :: t) ≠ some (n + 1)) :
    itemsFrom item start (c :: t) = itemsFrom item (start + c.utf8Size) t := by
  rw [itemsFrom]
  split
  · next n hn => exact absurd hn (h n)
  · rfl

/-- Where an item begins, either it is noted or it begins inside an item that is noted. -/
lemma exists_mem_itemsFrom (hpos : ∀ t, item t ≠ some 0) (start : Nat) (u : Text) {v : Text}
    (hv : v ≠ []) (hitem : item v ≠ none) :
    ∃ r ∈ itemsFrom item start (u ++ v),
      r.1 ≤ start + byteLength u ∧ start + byteLength u < r.2 := by
  induction hk : u.length using Nat.strongRecOn generalizing u start with
  | _ k ih =>
    by_cases hnone : ∃ n, item (u ++ v) = some (n + 1)
    · obtain ⟨n, hn⟩ := hnone
      have hne : u ++ v ≠ [] := by simp [hv]
      obtain ⟨c, t, hct⟩ := List.exists_cons_of_ne_nil hne
      have hstop : c :: t.take n = (u ++ v).take (n + 1) := by rw [hct, List.take_succ_cons]
      have hrest : t.drop n = (u ++ v).drop (n + 1) := by rw [hct, List.drop_succ_cons]
      rw [hct] at hn
      rw [hct, itemsFrom_of_item hn, hstop, hrest]
      by_cases hlt : u.length < n + 1
      · -- the item at hand reaches beyond `u`
        refine ⟨_, List.mem_cons_self, by simp, ?_⟩
        have htake : v.take (n + 1 - u.length) ≠ [] := by
          intro h
          rcases List.take_eq_nil_iff.mp h with h | h
          · omega
          · exact hv h
        have := byteLength_pos htake
        rw [List.take_append, List.take_of_length_le (by omega), byteLength_append]
        simp only
        omega
      · -- the item at hand ends in `u`
        have htake : (u ++ v).take (n + 1) = u.take (n + 1) :=
          List.take_append_of_le_length (by omega)
        have hdrop : (u ++ v).drop (n + 1) = u.drop (n + 1) ++ v :=
          List.drop_append_of_le_length (by omega)
        have hsum : byteLength (u.take (n + 1)) + byteLength (u.drop (n + 1)) = byteLength u := by
          rw [← byteLength_append, List.take_append_drop]
        obtain ⟨r, hr, h₁, h₂⟩ := ih (u.drop (n + 1)).length
          (by rw [List.length_drop]; omega) (start + byteLength (u.take (n + 1)))
          (u.drop (n + 1)) rfl
        rw [htake, hdrop]
        exact ⟨r, List.mem_cons_of_mem _ hr, by omega, by omega⟩
    · cases u with
      | nil =>
        rcases hi : item v with _ | m
        · exact absurd hi hitem
        · cases m with
          | zero => exact absurd hi (hpos v)
          | succ m => exact absurd ⟨m, hi⟩ hnone
      | cons c u =>
        rw [List.cons_append] at hnone ⊢
        rw [itemsFrom_cons fun n hn => hnone ⟨n, hn⟩]
        obtain ⟨r, hr, h₁, h₂⟩ := ih u.length (by rw [← hk, List.length_cons]; omega)
          (start + c.utf8Size) u rfl
        rw [byteLength_cons]
        exact ⟨r, hr, by omega, by omega⟩

lemma noneHidden (hpos : ∀ t, item t ≠ some 0) (hnil : item [] = none) (t : Text) :
    t.NoneHidden item := by
  rintro u v rfl hitem
  have hv : v ≠ [] := by
    rintro rfl
    exact hitem hnil
  obtain ⟨r, hr, h₁, h₂⟩ := exists_mem_itemsFrom hpos 0 u hv hitem
  rw [Nat.zero_add] at h₁ h₂
  exact ⟨r, hr, h₁, h₂⟩

end Text

namespace Matcher

/-- A matcher that tells the items of a text finds them all. -/
lemma ranges_findFrom {m : Matcher} {item : Text → Option Nat}
    (h : ∀ before t, m.lengthAt ⟨before, t⟩ = item t) (p : Place) :
    (m.findFrom p).map (fun f => (f.start, f.stop)) =
      Text.itemsFrom item (Text.byteLength p.before) p.after := by
  refine m.findFrom_induction (motive := fun p ms =>
    ms.map (fun f => (f.start, f.stop)) =
      Text.itemsFrom item (Text.byteLength p.before) p.after) ?_ ?_ ?_ p
  · intro before
    rw [Text.itemsFrom]
    rfl
  · intro ⟨before, after⟩ n ms hn ih
    cases after with
    | nil =>
      have := m.lengthAt_le hn
      simp at this
    | cons c t =>
      rw [Place.advance_mk] at ih
      simp only [List.map_cons, ih]
      rw [h] at hn
      rw [Text.itemsFrom_of_item hn, Text.byteLength_append, Text.byteLength_reverse,
        List.take_succ_cons, List.drop_succ_cons, Nat.add_comm (Text.byteLength (c :: _))]
      rfl
  · intro before c t ms hn ih
    rw [ih, Text.itemsFrom_cons fun n => by rw [← h before]; exact hn n]
    simp [Nat.add_comm]

end Matcher

namespace Rule

/-- The tokens of a rule whose matches are the items of a text. -/
lemma tokens_eq_items {r : Rule} {item : Text → Option Nat}
    (h : ∀ before t, r.matcher.lengthAt ⟨before, t⟩ = item t) (text : Text) :
    r.tokens text = (text.items item).map fun p => Token.ofSlice text p.1 p.2 r.kind := by
  have hranges : (r.matcher.findAll text).map (fun f => (f.start, f.stop)) = text.items item :=
    Matcher.ranges_findFrom h (Place.front text)
  rw [← hranges, List.map_map]
  refine List.map_congr_left fun found hfound => ?_
  have hmem : r.token found ∈ r.tokens text := List.mem_map_of_mem hfound
  exact (isSliceOf_of_mem_tokens hmem).eq_ofSlice

end Rule

end CodePad
