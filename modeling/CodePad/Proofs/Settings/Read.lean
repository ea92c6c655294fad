import Mathlib.Data.List.Perm.Basic
import Mathlib.Data.String.Basic
import Mathlib.Tactic.MkIffOfInductiveProp
import CodePad.Proofs.Toml.DistinctKeys
import CodePad.Settings.Read

/-!
The settings that a document makes. The entries of a document are read one after another, but no two
have the same key, so each decides the field of its own key and the order plays no part: `ReadFrom`
tells what the settings are field by field, and by `ofEntries_eq_ok_iff` they are read exactly if
there are such.
-/

namespace CodePad

namespace Settings

open Toml (Entries Value)

/-- A value names a policy: it is the name, or a table with the name as its one key and nothing
under it. -/
def NamesPolicy (policy : EnterPolicy) (v : Value) : Prop :=
  ∃ name, (name, policy) ∈ policies ∧
    (v = .string name ∨
      ∃ form content, v = .table form [(name, content)] ∧ content.isEmpty = true)

/-- A value is a table of colours: under each key there is a string, and the colours are these
strings with their keys, in the order of the keys. A date or time is a table with one key. -/
def GivesColors (colors : List (String × String)) (v : Value) : Prop :=
  (∃ form es, v = .table form es ∧ (∀ e ∈ es, ∃ c, e.2 = .string c) ∧
      (colors.Pairwise fun a b => a.1 < b.1) ∧
        ∀ name c, (name, c) ∈ colors ↔ (name, .string c) ∈ es) ∨
    ∃ text, v = .moment text ∧ colors = [(momentKey, text)]

/-- What some entries make of a setting: it is what the value under its key gives, if there is one,
and otherwise it stays as it was. -/
def Given {α : Type} (es : Entries) (key : String) (old : α) (gives : α → Value → Prop) (new : α) :
    Prop :=
  (∀ v, (key, v) ∈ es → gives new v) ∧ ((∀ v, (key, v) ∉ es) → new = old)

/-- The settings that some entries make of others. -/
@[mk_iff]
structure ReadFrom (start : Settings) (es : Entries) (s : Settings) : Prop where
  /-- Every key is that of a setting. -/
  known : ∀ e ∈ es, e.1 ∈ fields
  indentWidth : Given es "indent_width" start.indentWidth
    (fun w v => ∃ n : Nat, v = .integer n ∧ w = max 1 (min n 16)) s.indentWidth
  enterPolicy : Given es "enter_policy" start.enterPolicy NamesPolicy s.enterPolicy
  highlight : Given es "highlight" start.highlight (fun b v => v = .boolean b) s.highlight
  showLineNumbers : Given es "show_line_numbers" start.showLineNumbers
    (fun b v => v = .boolean b) s.showLineNumbers
  logFile : Given es "log_file" start.logFile
    (fun file v => ∃ path, v = .string path ∧ file = some path) s.logFile
  logLevel : Given es "log_level" start.logLevel (fun level v => v = .string level) s.logLevel
  colors : Given es "colors" start.colors GivesColors s.colors

/-! ### One value -/

section

variable {v : Value}

lemma bind_eq_ok {ε α β : Type} {x : Except ε α} {f : α → Except ε β} {b : β} :
    x >>= f = .ok b ↔ ∃ a, x = .ok a ∧ f a = .ok b := by
  cases x with
  | error e => exact ⟨nofun, fun ⟨_, h, _⟩ => nomatch h⟩
  | ok a => exact ⟨fun h => ⟨a, rfl, h⟩, fun ⟨_, h, hf⟩ => Except.ok.inj h ▸ hf⟩

lemma map_eq_ok {ε α β : Type} {x : Except ε α} {f : α → β} {b : β} :
    f <$> x = .ok b ↔ ∃ a, x = .ok a ∧ f a = b := by
  cases x with
  | error e => exact ⟨nofun, fun ⟨_, h, _⟩ => nomatch h⟩
  | ok a => exact ⟨fun h => ⟨a, rfl, Except.ok.inj h⟩, fun ⟨_, h, hf⟩ => hf ▸ Except.ok.inj h ▸ rfl⟩

lemma width?_eq_ok_iff {w : Nat} :
    width? v = .ok w ↔ ∃ n : Nat, v = .integer n ∧ w = max 1 (min n 16) := by
  cases v with
  | integer n =>
    rw [width?]
    split
    · next hneg =>
      refine ⟨nofun, ?_⟩
      rintro ⟨m, hm, -⟩
      have hnat : n = m := Value.integer.inj hm
      omega
    · next hpos =>
      have hnat : (n.toNat : Int) = n := Int.toNat_of_nonneg (Int.not_lt.mp hpos)
      constructor
      · intro h
        exact ⟨n.toNat, congrArg Value.integer hnat.symm, (Except.ok.inj h).symm⟩
      · rintro ⟨m, hm, rfl⟩
        obtain rfl : n = m := Value.integer.inj hm
        rfl
  | _ => simp [width?]

lemma bool?_eq_ok_iff {b : Bool} : bool? v = .ok b ↔ v = .boolean b := by
  cases v <;> simp [bool?]

lemma path?_eq_ok_iff {path : String} : path? v = .ok path ↔ v = .string path := by
  cases v <;> simp [path?]

lemma string?_eq_ok_iff {s : String} : string? v = .ok s ↔ v = .string s := by
  cases v <;> simp [string?]

lemma policyOfName?_eq_ok_iff {name : String} {p : EnterPolicy} :
    policyOfName? name = .ok p ↔ (name, p) ∈ policies := by
  rw [← Lookup.eq_some_iff_mem (by decide), policyOfName?]
  cases policies.lookup name <;> simp

lemma policy?_eq_ok_iff {p : EnterPolicy} : policy? v = .ok p ↔ NamesPolicy p v := by
  unfold policy?
  split
  · next name => simp [NamesPolicy, policyOfName?_eq_ok_iff]
  · next form name content =>
    have hname : NamesPolicy p (.table form [(name, content)]) ↔
        policyOfName? name = .ok p ∧ content.isEmpty = true := by
      rw [policyOfName?_eq_ok_iff]
      constructor
      · rintro ⟨name', hname, h | ⟨form', content', h, hempty⟩⟩
        · cases h
        · cases h
          exact ⟨hname, hempty⟩
      · rintro ⟨hname, hempty⟩
        exact ⟨name, hname, .inr ⟨form, content, rfl, hempty⟩⟩
    rw [hname]
    cases policyOfName? name with
    | error e => simp
    | ok q => by_cases hempty : content.isEmpty = true <;> simp [hempty]
  · next hname htable =>
    refine ⟨nofun, ?_⟩
    rintro ⟨name, -, h | ⟨form, content, h, -⟩⟩
    · exact (hname name h).elim
    · exact (htable form name content h).elim

/-! ### The table of colours -/

/-- An entry of a table whose value is a string. -/
def stringEntry (entry : String × String) : String × Value := (entry.1, .string entry.2)

lemma mapM_string?_eq_ok_iff {es : Entries} {l : List (String × String)} :
    (es.mapM fun (name, v) => return (name, ← string? v) : Except SettingsError _) = .ok l ↔
      es = l.map stringEntry := by
  induction es generalizing l with
  | nil =>
    rw [List.mapM_nil]
    cases l with
    | nil => exact ⟨fun _ => rfl, fun _ => rfl⟩
    | cons e l => exact ⟨nofun, nofun⟩
  | cons e es ih =>
    obtain ⟨name, v⟩ := e
    rw [List.mapM_cons]
    simp only [bind_pure_comp, bind_eq_ok, map_eq_ok, string?_eq_ok_iff] at ih ⊢
    constructor
    · rintro ⟨a, ⟨c, rfl, rfl⟩, l', hl', rfl⟩
      rw [ih.mp hl', List.map_cons, stringEntry]
    · intro h
      cases l with
      | nil => cases h
      | cons c l =>
        obtain ⟨hfirst, hrest⟩ := List.cons.inj h
        obtain ⟨rfl, rfl⟩ := Prod.mk.inj hfirst
        exact ⟨c, ⟨c.2, rfl, rfl⟩, l, ih.mpr hrest, rfl⟩

lemma exists_map_stringEntry {es : Entries} (h : ∀ e ∈ es, ∃ c, e.2 = .string c) :
    ∃ l, es = List.map stringEntry l := by
  induction es with
  | nil => exact ⟨[], rfl⟩
  | cons e es ih =>
    obtain ⟨⟨c, hc⟩, hrest⟩ := List.forall_mem_cons.mp h
    obtain ⟨l, rfl⟩ := ih hrest
    exact ⟨(e.1, c) :: l, by rw [List.map_cons, stringEntry, ← hc]⟩

/-- Sorting leaves the entries as they are. -/
lemma mem_mergeSort_iff {l : List (String × String)} {name c : String} :
    ((name, c) ∈ l.mergeSort fun a b => a.1 ≤ b.1) ↔ (name, .string c) ∈ l.map stringEntry := by
  rw [(List.mergeSort_perm l _).mem_iff]
  simp [stringEntry]

/-- What is sorted by its names is, if they are distinct, in their strict order. -/
lemma pairwise_mergeSort {l : List (String × String)} (h : (l.map Prod.fst).Nodup) :
    (l.mergeSort fun a b => a.1 ≤ b.1).Pairwise fun a b => a.1 < b.1 := by
  have hle : (l.mergeSort fun a b => a.1 ≤ b.1).Pairwise fun a b => a.1 ≤ b.1 := by
    refine (List.pairwise_mergeSort ?_ ?_ l).imp of_decide_eq_true
    · intro a b c hab hbc
      exact decide_eq_true (le_trans (of_decide_eq_true hab) (of_decide_eq_true hbc))
    · intro a b
      simpa using le_total a.1 b.1
  have hperm := (List.mergeSort_perm l fun a b => a.1 ≤ b.1).map Prod.fst
  have hne := List.pairwise_map.mp (hperm.nodup_iff.mpr h)
  exact (hle.and hne).imp fun hab => lt_of_le_of_ne hab.1 hab.2

/-- There is one way to put entries in the strict order of their names. -/
lemma eq_of_pairwise_lt {l l' : List (String × String)} (h : l.Pairwise fun a b => a.1 < b.1)
    (h' : l'.Pairwise fun a b => a.1 < b.1) (hmem : ∀ name c, (name, c) ∈ l ↔ (name, c) ∈ l') :
    l = l' := by
  have hne : ∀ a b : String × String, a.1 < b.1 → a ≠ b := fun a b hab heq =>
    hab.ne (congrArg Prod.fst heq)
  have hperm : l.Perm l' :=
    (List.perm_ext_iff_of_nodup (h.imp (hne _ _)) (h'.imp (hne _ _))).mpr fun e => hmem e.1 e.2
  exact hperm.eq_of_pairwise (fun _ _ _ _ hab hba => absurd hab (lt_asymm hba)) h h'

lemma colors?_table_eq_ok_iff {form : Toml.Form} {es : Entries} {colors : List (String × String)} :
    colors? (.table form es) = .ok colors ↔
      ∃ l, es = List.map stringEntry l ∧ (l.mergeSort fun a b => a.1 ≤ b.1) = colors := by
  rw [colors?, bind_eq_ok]
  simp only [mapM_string?_eq_ok_iff]
  exact exists_congr fun l => and_congr_right fun _ => ⟨Except.ok.inj, congrArg Except.ok⟩

lemma colors?_eq_ok_iff (h : v.DistinctKeys) {colors : List (String × String)} :
    colors? v = .ok colors ↔ GivesColors colors v := by
  cases h with
  | @table form es hnodup _ =>
    simp only [colors?_table_eq_ok_iff, GivesColors, reduceCtorEq, false_and, exists_false,
      or_false]
    constructor
    · rintro ⟨l, rfl, rfl⟩
      refine ⟨form, _, rfl, ?_, pairwise_mergeSort ?_, ?_⟩
      · intro e he
        obtain ⟨c, -, rfl⟩ := List.mem_map.mp he
        exact ⟨c.2, rfl⟩
      · rwa [List.map_map] at hnodup
      · exact fun name c => mem_mergeSort_iff
    · rintro ⟨_, _, ⟨⟩, hstrings, hcolors, hmem⟩
      obtain ⟨l, rfl⟩ := exists_map_stringEntry hstrings
      rw [List.map_map] at hnodup
      exact ⟨l, rfl, eq_of_pairwise_lt (pairwise_mergeSort hnodup) hcolors fun name c =>
        mem_mergeSort_iff.trans (hmem name c).symm⟩
  | moment text =>
    simp only [colors?, GivesColors, reduceCtorEq, false_and, exists_false, false_or,
      Except.ok.injEq, Value.moment.injEq, exists_eq_left', eq_comm (b := colors)]
  | _ => simp [colors?, GivesColors]

end

/-! ### One setting -/

section

variable {α : Type} {es : Entries} {e : String × Value} {key : String} {old new : α}
  {gives : α → Value → Prop}

lemma given_nil : Given [] key old gives new ↔ new = old := by simp [Given]

lemma given_self {v : Value} : Given [(key, v)] key old gives new ↔ gives new v := by simp [Given]

lemma given_other {v : Value} {other : String} (h : key ≠ other) :
    Given [(other, v)] key old gives new ↔ new = old := by
  simp [Given, h]

/-- If its key does not stand again, an entry can be taken in before the others. -/
lemma given_cons (h : ∀ v, (e.1, v) ∉ es) :
    Given (e :: es) key old gives new ↔
      ∃ mid, Given [e] key old gives mid ∧ Given es key mid gives new := by
  obtain ⟨name, v⟩ := e
  by_cases hkey : key = name
  · subst hkey
    have hrest : ∀ mid, Given es key mid gives new ↔ new = mid := fun mid =>
      ⟨fun hgiven => hgiven.2 h, fun heq => ⟨fun w hw => absurd hw (h w), fun _ => heq⟩⟩
    have hfirst : Given ((key, v) :: es) key old gives new ↔ gives new v := by
      simp [Given, h]
    simp only [hfirst, given_self, hrest, exists_eq_right']
  · have hcons : Given ((name, v) :: es) key old gives new ↔ Given es key old gives new := by
      simp [Given, hkey]
    simp only [hcons, given_other hkey, exists_eq_left]

end

variable {start s : Settings} {es : Entries} {key : String} {v : Value}

lemma setField_eq_ok_iff (hv : v.DistinctKeys) :
    start.setField key v = .ok s ↔ ReadFrom start [(key, v)] s := by
  by_cases hknown : key ∈ fields
  · simp only [fields, List.mem_cons, List.not_mem_nil, or_false] at hknown
    rcases hknown with rfl | rfl | rfl | rfl | rfl | rfl | rfl
    -- the value decides the field of its key, and the others stay
    all_goals
      obtain ⟨w, p, b, n, file, level, colors⟩ := start
      obtain ⟨w', p', b', n', file', level', colors'⟩ := s
      simp only [setField, bind_pure_comp, map_eq_ok, width?_eq_ok_iff, policy?_eq_ok_iff,
        bool?_eq_ok_iff, path?_eq_ok_iff, string?_eq_ok_iff, colors?_eq_ok_iff hv, mk.injEq,
        readFrom_iff, fields, List.mem_cons, String.reduceEq, ne_eq, not_false_eq_true, given_self,
        given_other]
      grind
  · have hunknown : start.setField key v = .error (.unknownField key) := by
      unfold setField
      split <;> simp_all [fields]
    exact iff_of_false (by simp [hunknown]) fun h => hknown (h.known _ (List.mem_singleton_self _))

lemma readFrom_nil : ReadFrom start [] s ↔ s = start := by
  simp only [readFrom_iff, given_nil]
  obtain ⟨w, p, b, n, file, level, colors⟩ := s
  obtain ⟨w', p', b', n', file', level', colors'⟩ := start
  simp

lemma readFrom_cons {e : String × Value} (h : ∀ v, (e.1, v) ∉ es) :
    ReadFrom start (e :: es) s ↔ ∃ mid, ReadFrom start [e] mid ∧ ReadFrom mid es s := by
  constructor
  · rintro ⟨hknown, hw, hp, hb, hn, hfile, hlevel, hcolors⟩
    rw [List.forall_mem_cons] at hknown
    rw [given_cons h] at hw hp hb hn hfile hlevel hcolors
    obtain ⟨w, hw, hw'⟩ := hw
    obtain ⟨p, hp, hp'⟩ := hp
    obtain ⟨b, hb, hb'⟩ := hb
    obtain ⟨n, hn, hn'⟩ := hn
    obtain ⟨file, hfile, hfile'⟩ := hfile
    obtain ⟨level, hlevel, hlevel'⟩ := hlevel
    obtain ⟨colors, hcolors, hcolors'⟩ := hcolors
    exact ⟨⟨w, p, b, n, file, level, colors⟩,
      ⟨List.forall_mem_singleton.mpr hknown.1, hw, hp, hb, hn, hfile, hlevel, hcolors⟩,
      ⟨hknown.2, hw', hp', hb', hn', hfile', hlevel', hcolors'⟩⟩
  · rintro ⟨mid, hfirst, hrest⟩
    exact ⟨List.forall_mem_cons.mpr ⟨hfirst.known e List.mem_cons_self, hrest.known⟩,
      (given_cons h).mpr ⟨_, hfirst.indentWidth, hrest.indentWidth⟩,
      (given_cons h).mpr ⟨_, hfirst.enterPolicy, hrest.enterPolicy⟩,
      (given_cons h).mpr ⟨_, hfirst.highlight, hrest.highlight⟩,
      (given_cons h).mpr ⟨_, hfirst.showLineNumbers, hrest.showLineNumbers⟩,
      (given_cons h).mpr ⟨_, hfirst.logFile, hrest.logFile⟩,
      (given_cons h).mpr ⟨_, hfirst.logLevel, hrest.logLevel⟩,
      (given_cons h).mpr ⟨_, hfirst.colors, hrest.colors⟩⟩

/-- What is read from entries is what they make of the settings before. -/
lemma foldlM_setField_eq_ok_iff (h : es.DistinctKeys) :
    es.foldlM (fun s e => s.setField e.1 e.2) start = .ok s ↔ ReadFrom start es s := by
  induction es generalizing start with
  | nil =>
    rw [readFrom_nil, List.foldlM_nil]
    exact ⟨fun h => (Except.ok.inj h).symm, fun h => h ▸ rfl⟩
  | cons e es ih =>
    obtain ⟨hnodup, hvalues⟩ := h
    rw [List.map_cons, List.nodup_cons] at hnodup
    rw [List.forall_mem_cons] at hvalues
    have hnew : ∀ v, (e.1, v) ∉ es := fun v hv => hnodup.1 (List.mem_map.mpr ⟨_, hv, rfl⟩)
    rw [List.foldlM_cons, bind_eq_ok, readFrom_cons hnew]
    exact exists_congr fun mid =>
      and_congr (setField_eq_ok_iff hvalues.1) (ih ⟨hnodup.2, hvalues.2⟩)

/-! ### Another order -/

/-- The entry itself, or the table of colours with its entries in another order. -/
inductive SameEntry : String × Value → String × Value → Prop where
  | same (e : String × Value) : SameEntry e e
  | colors (form form' : Toml.Form) {cs cs' : Entries} (h : cs.Perm cs') :
      SameEntry ("colors", .table form cs) ("colors", .table form' cs')

/-- The same entries in another order, those of the table of colours as well. -/
def Reordered (es es' : Entries) : Prop := ∃ mid, es.Perm mid ∧ List.Forall₂ SameEntry mid es'

section

variable {e e' : String × Value} {es' : Entries}

lemma SameEntry.symm (h : SameEntry e e') : SameEntry e' e := by
  cases h with
  | same => exact .same e
  | colors form form' h => exact .colors form' form h.symm

lemma SameEntry.fst_eq (h : SameEntry e e') : e.1 = e'.1 := by
  cases h <;> rfl

lemma SameEntry.distinctKeys (h : SameEntry e e') (he : e.2.DistinctKeys) : e'.2.DistinctKeys := by
  cases h with
  | same => exact he
  | colors form form' h =>
    obtain ⟨hnodup, hvalues⟩ := Value.distinctKeys_table_iff.mp he
    exact .table ((h.map _).nodup_iff.mp hnodup) fun c hc => hvalues c (h.mem_iff.mpr hc)

lemma SameEntry.givesColors {name : String} {v v' : Value} {colors : List (String × String)}
    (h : SameEntry (name, v) (name, v')) (hgives : GivesColors colors v) :
    GivesColors colors v' := by
  cases h with
  | same => exact hgives
  | colors form form' h =>
    obtain ⟨_, _, ⟨⟩, hstrings, hsorted, hmem⟩ | ⟨_, ⟨⟩, _⟩ := hgives
    refine .inl ⟨form', _, rfl, fun e he => hstrings e (h.mem_iff.mpr he), hsorted, ?_⟩
    intro name c
    rw [hmem, h.mem_iff]

lemma Reordered.symm (h : Reordered es es') : Reordered es' es := by
  obtain ⟨mid, hperm, hsame⟩ := h
  obtain ⟨mid', hsame', hperm'⟩ := List.perm_comp_forall₂ hperm hsame
  exact ⟨mid', hperm'.symm, (hsame'.imp fun _ _ => SameEntry.symm).flip⟩

lemma Reordered.exists_mem (h : Reordered es es') (he : e ∈ es) : ∃ e' ∈ es', SameEntry e e' := by
  obtain ⟨mid, hperm, hsame⟩ := h
  obtain ⟨i, hi, rfl⟩ := List.mem_iff_getElem.mp (hperm.mem_iff.mp he)
  have hi' : i < es'.length := hsame.length_eq ▸ hi
  exact ⟨es'.get ⟨i, hi'⟩, List.get_mem _ _, hsame.get hi hi'⟩

lemma Reordered.distinctKeys (h : Reordered es es') (hes : es.DistinctKeys) : es'.DistinctKeys := by
  refine ⟨?_, fun e' he' => ?_⟩
  · obtain ⟨mid, hperm, hsame⟩ := h
    have hkeys : mid.map Prod.fst = es'.map Prod.fst := by
      rw [← List.forall₂_eq_eq_eq, List.forall₂_map_left_iff, List.forall₂_map_right_iff]
      exact hsame.imp fun _ _ => SameEntry.fst_eq
    exact hkeys ▸ (hperm.map Prod.fst).nodup_iff.mp hes.nodup
  · obtain ⟨e, he, hsame⟩ := h.symm.exists_mem he'
    exact hsame.symm.distinctKeys (hes.values e he)

lemma Reordered.given {α : Type} {key : String} {old new : α} {gives : α → Value → Prop}
    (h : Reordered es es')
    (hgives : ∀ v v', SameEntry (key, v) (key, v') → gives new v → gives new v')
    (hgiven : Given es key old gives new) : Given es' key old gives new := by
  refine ⟨fun v hv => ?_, fun hnone => hgiven.2 fun v hv => ?_⟩
  · obtain ⟨⟨_, v'⟩, hv', hsame⟩ := h.symm.exists_mem hv
    obtain rfl := hsame.fst_eq
    exact hgives v' v hsame.symm (hgiven.1 v' hv')
  · obtain ⟨⟨_, v'⟩, hv', hsame⟩ := h.exists_mem hv
    obtain rfl := hsame.fst_eq
    exact hnone v' hv'

lemma Reordered.given_of_ne {α : Type} {key : String} {old new : α} {gives : α → Value → Prop}
    (h : Reordered es es') (hkey : key ≠ "colors") (hgiven : Given es key old gives new) :
    Given es' key old gives new := by
  refine h.given (fun v v' hsame hv => ?_) hgiven
  cases hsame with
  | same => exact hv
  | colors => exact absurd rfl hkey

/-- The same entries in another order make the same of settings. -/
lemma Reordered.readFrom (h : Reordered es es') (hread : ReadFrom start es s) :
    ReadFrom start es' s where
  known e' he' := by
    obtain ⟨e, he, hsame⟩ := h.symm.exists_mem he'
    exact hsame.fst_eq ▸ hread.known e he
  indentWidth := h.given_of_ne (by decide) hread.indentWidth
  enterPolicy := h.given_of_ne (by decide) hread.enterPolicy
  highlight := h.given_of_ne (by decide) hread.highlight
  showLineNumbers := h.given_of_ne (by decide) hread.showLineNumbers
  logFile := h.given_of_ne (by decide) hread.logFile
  logLevel := h.given_of_ne (by decide) hread.logLevel
  colors := h.given (fun _ _ hsame => hsame.givesColors) hread.colors

end

/-! ### The settings of a document -/

lemma ofEntries_eq_ok_iff (h : es.DistinctKeys) : ofEntries es = .ok s ↔ ReadFrom {} es s :=
  foldlM_setField_eq_ok_iff h

lemma ofEntries_eq_ok_of_reordered {es' : Entries} (h : es.DistinctKeys) (horder : Reordered es es')
    (hs : ofEntries es = .ok s) : ofEntries es' = .ok s :=
  (ofEntries_eq_ok_iff (horder.distinctKeys h)).mpr
    (horder.readFrom ((ofEntries_eq_ok_iff h).mp hs))

lemma ReadFrom.indentWidth_bounds (h : ReadFrom {} es s) :
    1 ≤ s.indentWidth ∧ s.indentWidth ≤ 16 := by
  obtain ⟨hgiven, hnone⟩ := h.indentWidth
  by_cases hkey : ∃ v, ("indent_width", v) ∈ es
  · obtain ⟨v, hv⟩ := hkey
    obtain ⟨n, -, hn⟩ := hgiven v hv
    omega
  · rw [hnone (not_exists.mp hkey)]
    decide

/-- **Settings do not depend on the order of a document.** No key of a document is given twice
(`Toml.Read.distinctKeys_document`). If its entries are put in another order, and those of its table
of colours as well, either both are refused or both give the same settings, with the same colours to
replace default ones. A key that is not that of a setting makes it refused. What is read is what
`ReadFrom` tells: the value of each key that is given and the default of any other, where a width
comes to lie between 1 and 16. So a step of indentation is at least one column and at most 16. -/
theorem ofEntries_reordered (es es' : Entries) (hdistinct : es.DistinctKeys)
    (horder : Reordered es es') :
    ((∃ err err', ofEntries es = .error err ∧ ofEntries es' = .error err') ∨
        ∃ s s', ofEntries es = .ok s ∧ ofEntries es' = .ok s' ∧ s' = s ∧
          s'.overrides = s.overrides) ∧
      (∀ t t' s, Toml.Read.document? t = some es → Toml.Read.document? t' = some es' →
        (ofText t = .ok s ↔ ofText t' = .ok s)) ∧
      (∀ e ∈ es, e.1 ∉ fields → ∃ err, ofEntries es = .error err) ∧
      (∀ s, ofEntries es = .ok s ↔ ReadFrom {} es s) ∧
      ∀ s, ofEntries es = .ok s → 1 ≤ s.indentUnit.length ∧ s.indentUnit.length ≤ 16 := by
  have hiff (s : Settings) : ofEntries es = .ok s ↔ ReadFrom {} es s :=
    ofEntries_eq_ok_iff hdistinct
  have hsame (s : Settings) : ofEntries es = .ok s ↔ ofEntries es' = .ok s :=
    ⟨ofEntries_eq_ok_of_reordered hdistinct horder,
      ofEntries_eq_ok_of_reordered (horder.distinctKeys hdistinct) horder.symm⟩
  refine ⟨?agree, ?texts, ?unknown, hiff, ?width⟩
  case agree =>
    cases hes : ofEntries es with
    | ok s => exact .inr ⟨s, s, rfl, (hsame s).mp hes, rfl, rfl⟩
    | error err =>
      cases hes' : ofEntries es' with
      | ok s => exact absurd (hes.symm.trans ((hsame s).mpr hes')) nofun
      | error err' => exact .inl ⟨err, err', rfl, rfl⟩
  case texts =>
    intro t t' s ht ht'
    simp only [ofText, ht, ht', hsame]
  case unknown =>
    intro e he hunknown
    cases hes : ofEntries es with
    | ok s => exact absurd (((hiff s).mp hes).known e he) hunknown
    | error err => exact ⟨err, rfl⟩
  case width =>
    intro s hs
    rw [indentUnit, List.length_replicate]
    exact ((hiff s).mp hs).indentWidth_bounds

/-- The colours come under a header and last, or in braces, first and the other way round. -/
theorem ofEntries_reordered_inline :
    let t : Text := "indent_width = 40\n[colors]\nstring = \"red\"\nkeyword = \"blue\"".toList
    let t' : Text :=
      "colors = \x7b keyword = \"blue\", string = \"red\" \x7d\nindent_width = 40".toList
    let cs : Entries := [("string", .string "red"), ("keyword", .string "blue")]
    let es : Entries := [("indent_width", .integer 40), ("colors", .table .header cs)]
    let es' : Entries := [("colors", .table .inline cs.reverse), ("indent_width", .integer 40)]
    let s : Settings := { indentWidth := 16, colors := [("keyword", "blue"), ("string", "red")] }
    Toml.Read.document? t = some es ∧ Toml.Read.document? t' = some es' ∧ es.DistinctKeys ∧
      Reordered es es' ∧ ofText t = .ok s ∧ ofText t' = .ok s := by
  intro t t' cs es es' s
  have ht : Toml.Read.document? t = some es := rfl
  have ht' : Toml.Read.document? t' = some es' := rfl
  have hdistinct : es.DistinctKeys := Toml.Read.distinctKeys_document ht
  have horder : Reordered es es' := by
    refine ⟨es.reverse, (List.reverse_perm es).symm, .cons ?_ (.cons (.same _) .nil)⟩
    exact .colors .header .inline (List.reverse_perm cs).symm
  have hcolors : GivesColors s.colors (.table .header cs) := by
    refine .inl ⟨.header, cs, rfl, ?_, by decide, ?_⟩
    · simp [cs]
    · intro name c
      simp [s, cs, or_comm]
  have hread : ReadFrom {} es s := by
    constructor
    case known => decide
    case indentWidth => simpa [Given, es] using ⟨40, rfl, by decide⟩
    case colors => simpa [Given, es] using hcolors
    all_goals simp [Given, es, s]
  obtain ⟨-, htexts, -, hiff, -⟩ := ofEntries_reordered es es' hdistinct horder
  have hs : ofText t = .ok s := by
    rw [ofText, ht]
    exact (hiff s).mpr hread
  exact ⟨ht, ht', hdistinct, horder, hs, (htexts t t' s ht ht').mp hs⟩

end Settings

end CodePad
