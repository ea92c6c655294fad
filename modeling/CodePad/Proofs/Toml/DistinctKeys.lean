import CodePad.Proofs.Lookup
import CodePad.Toml.Reader

/-!
No key is given twice. A document whose statements would give a table two values under one key is
none, however the table came to be: by headers, by dotted keys or in braces. So in what is read from
a document the keys of a table are distinct, and so are those of the tables inside it.
-/

namespace CodePad.Toml

/-- No table of a value has a key twice. -/
inductive Value.DistinctKeys : Value → Prop where
  | string (s : String) : DistinctKeys (.string s)
  | integer (n : Int) : DistinctKeys (.integer n)
  | float (x : Double) : DistinctKeys (.float x)
  | boolean (b : Bool) : DistinctKeys (.boolean b)
  | moment (text : String) : DistinctKeys (.moment text)
  | array {items : List Value} (values : ∀ v ∈ items, v.DistinctKeys) : DistinctKeys (.array items)
  | table {form : Form} {es : List (String × Value)} (nodup : (es.map Prod.fst).Nodup)
      (values : ∀ e ∈ es, e.2.DistinctKeys) : DistinctKeys (.table form es)
  | tables {rows : List (List (String × Value))} (nodup : ∀ es ∈ rows, (es.map Prod.fst).Nodup)
      (values : ∀ es ∈ rows, ∀ e ∈ es, e.2.DistinctKeys) : DistinctKeys (.tables rows)

namespace Entries

/-- Neither a table nor any table inside it has a key twice. -/
structure DistinctKeys (es : Entries) : Prop where
  nodup : (es.map Prod.fst).Nodup
  values : ∀ e ∈ es, e.2.DistinctKeys

end Entries

namespace Value

lemma distinctKeys_table_iff {form : Form} {es : Entries} :
    (Value.table form es).DistinctKeys ↔ es.DistinctKeys :=
  ⟨fun | .table nodup values => ⟨nodup, values⟩, fun h => .table h.nodup h.values⟩

lemma distinctKeys_tables_iff {rows : List Entries} :
    (Value.tables rows).DistinctKeys ↔ ∀ es ∈ rows, Entries.DistinctKeys es :=
  ⟨fun | .tables nodup values => fun es hes => ⟨nodup es hes, values es hes⟩,
    fun h => .tables (fun es hes => (h es hes).nodup) fun es hes => (h es hes).values⟩

end Value

namespace Entries

variable {es es' : Entries} {key : String} {v : Value} {path : List String} {accepts : Bool}

/-! ### The tables of a document -/

lemma distinctKeys_nil : DistinctKeys [] := ⟨List.nodup_nil, fun _ h => absurd h List.not_mem_nil⟩

lemma DistinctKeys.table_of_lookup {form : Form} {sub : Entries} (h : es.DistinctKeys)
    (hsub : es.lookup key = some (.table form sub)) : sub.DistinctKeys :=
  Value.distinctKeys_table_iff.mp (h.values _ (Lookup.mem_of_eq_some hsub))

lemma DistinctKeys.tables_of_lookup {rows : List Entries} (h : es.DistinctKeys)
    (hrows : es.lookup key = some (.tables rows)) : ∀ row ∈ rows, Entries.DistinctKeys row :=
  Value.distinctKeys_tables_iff.mp (h.values _ (Lookup.mem_of_eq_some hrows))

lemma DistinctKeys.concat (h : es.DistinctKeys) (hnew : key ∉ es.map Prod.fst)
    (hv : v.DistinctKeys) : DistinctKeys (es ++ [(key, v)]) := by
  refine ⟨?_, List.forall_mem_append.mpr ⟨h.values, List.forall_mem_singleton.mpr hv⟩⟩
  rw [List.map_append, List.map_singleton, List.nodup_append_comm, List.singleton_append,
    List.nodup_cons]
  exact ⟨hnew, h.nodup⟩

lemma DistinctKeys.set (h : es.DistinctKeys) (key : String) (hv : v.DistinctKeys) :
    DistinctKeys (es.set key v) := by
  have hkeys : (es.set key v).map Prod.fst = es.map Prod.fst := by
    rw [Entries.set, List.map_map]
    refine List.map_congr_left fun e _ => ?_
    by_cases he : e.1 = key
    · simp [he]
    · simp [he]
  refine ⟨hkeys ▸ h.nodup, fun e he => ?_⟩
  obtain ⟨e', he', rfl⟩ := List.mem_map.mp he
  split
  · exact hv
  · exact h.values e' he'

lemma DistinctKeys.erase (h : es.DistinctKeys) (key : String) : DistinctKeys (es.erase key) :=
  ⟨(List.filter_sublist.map _).nodup h.nodup, fun e he => h.values e (List.mem_of_mem_filter he)⟩

lemma distinctKeys_last {rows : List Entries} (h : ∀ es ∈ rows, Entries.DistinctKeys es) :
    DistinctKeys (last rows) := by
  unfold last
  cases hrow : rows.getLast? with
  | none => exact distinctKeys_nil
  | some row => exact h row (List.mem_of_getLast? hrow)

lemma DistinctKeys.setLast (h : es.DistinctKeys) (key : String) {rows : List Entries}
    {row : Entries} (hrows : ∀ es ∈ rows, Entries.DistinctKeys es) (hrow : row.DistinctKeys) :
    DistinctKeys (es.setLast key rows row) := by
  refine h.set key (Value.distinctKeys_tables_iff.mpr (List.forall_mem_append.mpr ⟨?_, ?_⟩))
  · exact fun es hes => hrows es (List.dropLast_subset rows hes)
  · exact List.forall_mem_singleton.mpr hrow

lemma DistinctKeys.setTable (h : es.DistinctKeys) (key : String) (form : Form) {sub : Entries}
    (hsub : sub.DistinctKeys) : DistinctKeys (es.set key (.table form sub)) :=
  h.set key (Value.distinctKeys_table_iff.mpr hsub)

lemma DistinctKeys.concatTable (h : es.DistinctKeys) (hnew : es.lookup key = none) (form : Form)
    {sub : Entries} (hsub : sub.DistinctKeys) : DistinctKeys (es ++ [(key, .table form sub)]) :=
  h.concat (Lookup.not_mem_of_eq_none hnew) (Value.distinctKeys_table_iff.mpr hsub)

lemma DistinctKeys.insert (h : es.DistinctKeys) (hv : v.DistinctKeys)
    (hinsert : es.insert accepts path v = some es') : es'.DistinctKeys := by
  fun_induction Entries.insert accepts es path v generalizing es' with
  | case1 | case3 | case8 => cases hinsert
  | case2 accepts es key v hfree =>
    have hnone : es.lookup key = none :=
      Option.isNone_iff_eq_none.mp (Bool.and_eq_true_iff.mp hfree).2
    rw [← Option.some.inj hinsert]
    exact h.concat (Lookup.not_mem_of_eq_none hnone) hv
  | case4 _ es key path v _ hnone ih =>
    obtain ⟨sub, hsub, rfl⟩ := Option.map_eq_some_iff.mp hinsert
    exact h.concatTable hnone .dotted (ih distinctKeys_nil hv hsub)
  | case5 _ es key path v _ old hold ih =>
    obtain ⟨sub, hsub, rfl⟩ := Option.map_eq_some_iff.mp hinsert
    exact h.setTable key .dotted (ih (h.table_of_lookup hold) hv hsub)
  | case6 _ es key path v _ old hold ih =>
    obtain ⟨sub, hsub, rfl⟩ := Option.map_eq_some_iff.mp hinsert
    exact h.setTable key .implicit (ih (h.table_of_lookup hold) hv hsub)
  | case7 _ es key path v _ rows hrows ih =>
    obtain ⟨row, hrow, rfl⟩ := Option.map_eq_some_iff.mp hinsert
    have hold := h.tables_of_lookup hrows
    exact h.setLast key hold (ih (distinctKeys_last hold) hv hrow)

/-- The keys of a table stay distinct when it is changed. -/
def Keeps (f : Entries → Option Entries) : Prop :=
  ∀ es es' : Entries, es.DistinctKeys → f es = some es' → es'.DistinctKeys

lemma DistinctKeys.descend {f : String → Entries → Option Entries} (hf : ∀ key, Keeps (f key))
    (h : es.DistinctKeys) (hdescend : es.descend f path = some es') : es'.DistinctKeys := by
  fun_induction Entries.descend es f path generalizing es' with
  | case1 | case4 | case7 => cases hdescend
  | case2 es key => exact hf key es es' h hdescend
  | case3 es key path _ hnone ih =>
    obtain ⟨sub, hsub, rfl⟩ := Option.map_eq_some_iff.mp hdescend
    exact h.concatTable hnone .implicit (ih distinctKeys_nil hsub)
  | case5 es key path _ form old _ hold ih =>
    obtain ⟨sub, hsub, rfl⟩ := Option.map_eq_some_iff.mp hdescend
    exact h.setTable key form (ih (h.table_of_lookup hold) hsub)
  | case6 es key path _ rows hrows ih =>
    obtain ⟨row, hrow, rfl⟩ := Option.map_eq_some_iff.mp hdescend
    have hold := h.tables_of_lookup hrows
    exact h.setLast key hold (ih (distinctKeys_last hold) hrow)

lemma keeps_openTable (key : String) : Keeps (openTable key) := by
  intro es es' h hopen
  unfold openTable at hopen
  split at hopen
  · next hnone =>
    rw [← Option.some.inj hopen]
    exact h.concatTable hnone .header distinctKeys_nil
  · next sub hsub =>
    have hgone : key ∉ (es.erase key).map Prod.fst := by simp [Entries.erase]
    rw [← Option.some.inj hopen]
    exact (h.erase key).concat hgone (Value.distinctKeys_table_iff.mpr (h.table_of_lookup hsub))
  · cases hopen

lemma keeps_openRow (key : String) : Keeps (openRow key) := by
  intro es es' h hopen
  unfold openRow at hopen
  split at hopen
  · next hnone =>
    rw [← Option.some.inj hopen]
    exact h.concat (Lookup.not_mem_of_eq_none hnone)
      (Value.distinctKeys_tables_iff.mpr (List.forall_mem_singleton.mpr distinctKeys_nil))
  · next rows hrows =>
    rw [← Option.some.inj hopen]
    exact h.set key (Value.distinctKeys_tables_iff.mpr (List.forall_mem_append.mpr
      ⟨h.tables_of_lookup hrows, List.forall_mem_singleton.mpr distinctKeys_nil⟩))
  · cases hopen

lemma keeps_updateOpen {f : Entries → Option Entries} (hf : Keeps f) (key : String) :
    Keeps (updateOpen f key) := by
  intro es es' h hupdate
  unfold updateOpen at hupdate
  split at hupdate
  · next form old hold =>
    obtain ⟨sub, hsub, rfl⟩ := Option.map_eq_some_iff.mp hupdate
    exact h.setTable key form (hf old sub (h.table_of_lookup hold) hsub)
  · next rows hrows =>
    obtain ⟨row, hrow, rfl⟩ := Option.map_eq_some_iff.mp hupdate
    have hold := h.tables_of_lookup hrows
    exact h.setLast key hold (hf (last rows) row (distinctKeys_last hold) hrow)
  · cases hupdate

/-- What each step of a fold keeps is kept by the fold. -/
lemma foldlM_induction {α β : Type} {p : β → Prop} {f : β → α → Option β} {l : List α}
    (hstep : ∀ b b', ∀ a ∈ l, p b → f b a = some b' → p b') {b b' : β} (hb : p b)
    (h : l.foldlM f b = some b') : p b' := by
  induction l generalizing b with
  | nil => rwa [← Option.some.inj h]
  | cons a l ih =>
    rw [List.foldlM_cons] at h
    obtain ⟨next, hnext, hrest⟩ := Option.bind_eq_some_iff.mp h
    exact ih (fun b b' a ha => hstep b b' a (List.mem_cons_of_mem _ ha))
      (hstep b next a List.mem_cons_self hb hnext) hrest

lemma distinctKeys_ofPairs {pairs : List (List String × Value)}
    (hpairs : ∀ p ∈ pairs, p.2.DistinctKeys) (h : ofPairs pairs = some es) : es.DistinctKeys :=
  foldlM_induction (fun _ _ p hp hes hinsert => hes.insert (hpairs p hp) hinsert) distinctKeys_nil h

end Entries

/-- In what a statement gives a key stands twice in no table. -/
def Statement.DistinctKeys : Statement → Prop
  | .table _ | .row _ => True
  | .entry _ v => v.DistinctKeys

lemma Reading.distinctKeys_step {r r' : Reading} {s : Statement} (h : r.root.DistinctKeys)
    (hs : s.DistinctKeys) (hstep : r.step s = some r') : r'.root.DistinctKeys := by
  cases s with
  | table path =>
    obtain ⟨root, hroot, rfl⟩ := Option.map_eq_some_iff.mp hstep
    exact h.descend Entries.keeps_openTable hroot
  | row path =>
    obtain ⟨root, hroot, rfl⟩ := Option.map_eq_some_iff.mp hstep
    exact h.descend Entries.keeps_openRow hroot
  | entry path v =>
    have hadd : Entries.Keeps (fun es => es.insert true path v) :=
      fun es es' hes hinsert => hes.insert hs hinsert
    simp only [step] at hstep
    split at hstep
    · obtain ⟨root, hroot, rfl⟩ := Option.map_eq_some_iff.mp hstep
      exact hadd _ _ h hroot
    · obtain ⟨root, hroot, rfl⟩ := Option.map_eq_some_iff.mp hstep
      exact h.descend (Entries.keeps_updateOpen hadd) hroot

lemma Entries.distinctKeys_ofStatements {statements : List Statement} {es : Entries}
    (hstatements : ∀ s ∈ statements, s.DistinctKeys) (h : ofStatements statements = some es) :
    es.DistinctKeys := by
  obtain ⟨r, hr, rfl⟩ := Option.map_eq_some_iff.mp h
  exact foldlM_induction (p := fun r : Reading => r.root.DistinctKeys)
    (fun _ _ s hs hroot hstep => Reading.distinctKeys_step hroot (hstatements s hs) hstep)
    distinctKeys_nil hr

/-! ### The values of a document -/

namespace Read

variable {t rest : Text} {v : Value}

lemma distinctKeys_scalar (h : scalar? t = some v) : v.DistinctKeys := by
  unfold scalar? at h
  split at h
  · rw [← Option.some.inj h]
    exact .boolean true
  · split at h
    · rw [← Option.some.inj h]
      exact .boolean false
    · split at h
      · rw [← Option.some.inj h]
        exact .moment _
      · rw [← Option.some.inj h]
        exact .integer _
      · rw [← Option.some.inj h]
        exact .float _
      · cases h

section

-- A reader of values, such as that of the values one level deeper.
variable {read : Text → Read Value} (hread : ∀ {t v rest}, read t = some (v, rest) → v.DistinctKeys)

include hread

lemma distinctKeys_items {fuel : Nat} {vs : List Value} (h : items? read fuel t = some (vs, rest)) :
    ∀ v ∈ vs, v.DistinctKeys := by
  induction fuel generalizing t vs rest with
  | zero => cases h
  | succ fuel ih =>
    unfold items? at h
    split at h
    · obtain ⟨rfl, -⟩ := Prod.mk.inj (Option.some.inj h)
      exact fun v hv => absurd hv List.not_mem_nil
    · obtain ⟨⟨v, u⟩, hv, h⟩ := Option.bind_eq_some_iff.mp h
      simp only at h
      split at h
      · obtain ⟨⟨vs', u'⟩, hvs, heq⟩ := Option.map_eq_some_iff.mp h
        obtain ⟨rfl, -⟩ := Prod.mk.inj heq
        exact List.forall_mem_cons.mpr ⟨hread hv, ih hvs⟩
      · obtain ⟨rfl, -⟩ := Prod.mk.inj (Option.some.inj h)
        exact List.forall_mem_singleton.mpr (hread hv)
      · cases h

lemma distinctKeys_pair {p : List String × Value} (h : pair? read t = some (p, rest)) :
    p.2.DistinctKeys := by
  simp only [pair?, Option.bind_eq_bind] at h
  obtain ⟨⟨k, u⟩, -, h⟩ := Option.bind_eq_some_iff.mp h
  obtain ⟨u', -, h⟩ := Option.bind_eq_some_iff.mp h
  obtain ⟨⟨v, u''⟩, hv, h⟩ := Option.bind_eq_some_iff.mp h
  obtain ⟨rfl, -⟩ := Prod.mk.inj (Option.some.inj h)
  exact hread hv

lemma distinctKeys_pairs {fuel : Nat} {ps : List (List String × Value)}
    (h : pairs? read fuel t = some (ps, rest)) : ∀ p ∈ ps, p.2.DistinctKeys := by
  induction fuel generalizing t ps rest with
  | zero => cases h
  | succ fuel ih =>
    unfold pairs? at h
    obtain ⟨⟨p, u⟩, hp, h⟩ := Option.bind_eq_some_iff.mp h
    simp only at h
    split at h
    · obtain ⟨⟨ps', u'⟩, hps, heq⟩ := Option.map_eq_some_iff.mp h
      obtain ⟨rfl, -⟩ := Prod.mk.inj heq
      exact List.forall_mem_cons.mpr ⟨distinctKeys_pair hread hp, ih hps⟩
    · obtain ⟨rfl, -⟩ := Prod.mk.inj (Option.some.inj h)
      exact List.forall_mem_singleton.mpr (distinctKeys_pair hread hp)
    · cases h

end

lemma distinctKeys_value {depth : Nat} (h : value? depth t = some (v, rest)) : v.DistinctKeys := by
  induction depth generalizing t v rest with
  | zero => cases h
  | succ depth ih =>
    unfold value? at h
    split at h
    · split at h
      · cases h
      · obtain ⟨⟨vs, u⟩, hvs, heq⟩ := Option.map_eq_some_iff.mp h
        obtain ⟨rfl, -⟩ := Prod.mk.inj heq
        exact .array (distinctKeys_items ih hvs)
    · split at h
      · cases h
      · split at h
        · obtain ⟨rfl, -⟩ := Prod.mk.inj (Option.some.inj h)
          exact Value.distinctKeys_table_iff.mpr Entries.distinctKeys_nil
        · obtain ⟨⟨ps, u⟩, hps, h⟩ := Option.bind_eq_some_iff.mp h
          obtain ⟨es, hes, heq⟩ := Option.map_eq_some_iff.mp h
          obtain ⟨rfl, -⟩ := Prod.mk.inj heq
          exact Value.distinctKeys_table_iff.mpr
            (Entries.distinctKeys_ofPairs (distinctKeys_pairs ih hps) hes)
    · obtain ⟨⟨s, u⟩, -, heq⟩ := Option.map_eq_some_iff.mp h
      obtain ⟨rfl, -⟩ := Prod.mk.inj heq
      exact .string _
    · obtain ⟨⟨s, u⟩, -, heq⟩ := Option.map_eq_some_iff.mp h
      obtain ⟨rfl, -⟩ := Prod.mk.inj heq
      exact .string _
    · obtain ⟨v, hv, heq⟩ := Option.map_eq_some_iff.mp h
      obtain ⟨rfl, -⟩ := Prod.mk.inj heq
      exact distinctKeys_scalar hv

lemma distinctKeys_header {s : Statement} (h : header? t = some (s, rest)) : s.DistinctKeys := by
  unfold header? at h
  split at h
  · simp only [Option.bind_eq_bind] at h
    obtain ⟨⟨k, u⟩, -, h⟩ := Option.bind_eq_some_iff.mp h
    obtain ⟨u', -, h⟩ := Option.bind_eq_some_iff.mp h
    obtain ⟨u'', -, h⟩ := Option.bind_eq_some_iff.mp h
    obtain ⟨rfl, -⟩ := Prod.mk.inj (Option.some.inj h)
    trivial
  · simp only [Option.bind_eq_bind] at h
    obtain ⟨⟨k, u⟩, -, h⟩ := Option.bind_eq_some_iff.mp h
    obtain ⟨u', -, h⟩ := Option.bind_eq_some_iff.mp h
    obtain ⟨rfl, -⟩ := Prod.mk.inj (Option.some.inj h)
    trivial
  · cases h

lemma distinctKeys_statement {s : Statement} (h : statement? t = some (s, rest)) :
    s.DistinctKeys := by
  unfold statement? at h
  split at h
  · exact distinctKeys_header h
  · obtain ⟨⟨⟨k, v⟩, u⟩, hpair, heq⟩ := Option.map_eq_some_iff.mp h
    obtain ⟨rfl, -⟩ := Prod.mk.inj heq
    exact distinctKeys_pair distinctKeys_value hpair

lemma distinctKeys_statements {fuel : Nat} {statements : List Statement}
    (h : statements? fuel t = some statements) : ∀ s ∈ statements, s.DistinctKeys := by
  induction fuel generalizing t statements with
  | zero => cases h
  | succ fuel ih =>
    unfold statements? at h
    split at h
    · rw [← Option.some.inj h]
      exact fun s hs => absurd hs List.not_mem_nil
    · obtain ⟨-, heq⟩ := Option.ite_none_right_eq_some.mp h
      rw [← Option.some.inj heq]
      exact fun s hs => absurd hs List.not_mem_nil
    · simp only [Option.bind_eq_bind] at h
      obtain ⟨⟨s, u⟩, hs, h⟩ := Option.bind_eq_some_iff.mp h
      obtain ⟨u', -, h⟩ := Option.bind_eq_some_iff.mp h
      obtain ⟨later, hlater, h⟩ := Option.bind_eq_some_iff.mp h
      rw [← Option.some.inj h]
      exact List.forall_mem_cons.mpr ⟨distinctKeys_statement hs, ih hlater⟩

/-- **No table of a document has a key twice.** -/
theorem distinctKeys_document {es : Entries} (h : document? t = some es) : es.DistinctKeys := by
  obtain ⟨statements, hstatements, hes⟩ := Option.bind_eq_some_iff.mp h
  exact Entries.distinctKeys_ofStatements (distinctKeys_statements hstatements) hes

end Read

end CodePad.Toml
