import Mathlib.Data.List.Nodup

/-!
Values under names, in a list of pairs. What is found under a name stands there, and if no name
stands twice, what stands there is found.
-/

namespace CodePad

namespace Lookup

variable {α : Type} {l : List (String × α)} {name : String} {a : α}

lemma mem_of_eq_some (h : l.lookup name = some a) : (name, a) ∈ l := by
  obtain ⟨before, after, rfl, -⟩ := List.lookup_eq_some_iff.mp h
  simp

lemma not_mem_of_eq_none (h : l.lookup name = none) : name ∉ l.map Prod.fst := by
  intro hmem
  obtain ⟨x, hx, rfl⟩ := List.mem_map.mp hmem
  simpa using List.lookup_eq_none_iff.mp h x hx

lemma eq_some_iff_mem (hnodup : (l.map Prod.fst).Nodup) :
    l.lookup name = some a ↔ (name, a) ∈ l := by
  refine ⟨mem_of_eq_some, fun hmem => ?_⟩
  cases h : l.lookup name with
  | none => exact absurd (List.mem_map_of_mem hmem) (not_mem_of_eq_none h)
  | some b =>
    have hpair := List.inj_on_of_nodup_map hnodup hmem (mem_of_eq_some h) rfl
    rw [(Prod.mk.inj hpair).2]

end Lookup

end CodePad
