import Mathlib.Data.List.Chain
import CodePad.Proofs.Document.OfTokens
import CodePad.Proofs.Highlighting
import CodePad.Proofs.Text.Boundary

/-!
The kinds of characters. A lexer marks stretches of a text, and the runs made from its tokens show
these stretches and nothing else: a character is in a run of some kind exactly if a token of this
kind covers its bytes, and in a run without a kind if no token has any of them.
-/

namespace CodePad

namespace Run

/-- The characters of a run, each with the kind of the run. -/
def cells (r : Run) : List (Char × Option TokenKind) := r.text.map fun c => (c, r.kind)

@[simp] lemma length_cells (r : Run) : r.cells.length = r.length := List.length_map _

end Run

namespace Token

/-- A token spans the first bytes of its own characters and of no others. -/
lemma spans_byteAt_iff {p q : Text} {t : Token} (hstart : t.start = Text.byteLength p)
    (hstop : t.stop = Text.byteLength (p ++ t.text)) {i : Nat}
    (hi : i ≤ (p ++ t.text ++ q).length) :
    t.spans ((p ++ t.text ++ q).byteAt i) ↔ p.length ≤ i ∧ i < p.length + t.text.length := by
  have hstart' : t.start = (p ++ t.text ++ q).byteAt p.length := by
    rw [hstart, List.append_assoc, Text.byteAt_append]
  have hstop' : t.stop = (p ++ t.text ++ q).byteAt (p ++ t.text).length := by
    rw [hstop, Text.byteAt_append]
  rw [spans, hstart', hstop', Text.byteAt_le_byteAt_iff (by simp) hi, ← Nat.not_le,
    Text.byteAt_le_byteAt_iff (by simp) hi, Nat.not_le, List.length_append]

end Token

namespace Document

/-- The characters of a document, each with the kind of its run. -/
def cells (d : Document) : List (Char × Option TokenKind) := d.runs.flatMap Run.cells

/-- The kind of the run that holds the character at an offset, if there is such a character. -/
def kindAt? (d : Document) (i : Nat) : Option (Option TokenKind) := (d.cells[i]?).map Prod.snd

lemma map_fst_cells (d : Document) : d.cells.map Prod.fst = d.text := by
  simp [cells, text, List.map_flatMap, Run.cells, Function.comp_def]

lemma length_cells (d : Document) : d.cells.length = d.text.length := by
  rw [← map_fst_cells, List.length_map]

lemma isSome_kindAt?_iff (d : Document) (i : Nat) :
    (d.kindAt? i).isSome ↔ i < d.text.length := by
  rw [kindAt?, Option.isSome_map, ← length_cells, Option.isSome_iff_ne_none, Ne,
    List.getElem?_eq_none_iff, Nat.not_le]

/-- The run of the bytes from `start` up to `stop` of a text, if there are any; it fails if this
would cut a character. -/
def gap? (start stop : Nat) (text : Text) : Option (List Run) :=
  if start < stop then (text.slice? start stop).map fun w => [⟨none, w⟩] else some []

/-- The runs of a text from the byte `index` on, given the tokens from there on. It fails if a
character would be cut. -/
def runsFrom? (text : Text) (index : Nat) : List Token → Option (List Run)
  | [] => gap? index text.byteLength text
  | t :: ts => do
    let front ← gap? index t.start text
    let rest ← runsFrom? text t.stop ts
    some (front ++ t.run :: rest)

lemma gap?_append (u w v : Text) :
    gap? (Text.byteLength u) (Text.byteLength (u ++ w)) (u ++ (w ++ v)) = some (gap w) := by
  rw [gap?, gap, Text.slice?_append]
  by_cases hw : w = []
  · simp [hw]
  · have := Text.byteLength_pos hw
    rw [if_pos (by rw [Text.byteLength_append]; omega), if_neg hw]
    rfl

lemma flatMap_cells_gap (w : Text) : (gap w).flatMap Run.cells = w.map fun c => (c, none) := by
  unfold gap
  split
  · next h => simp [h]
  · simp [Run.cells]

/-- The kinds of the characters in front of a token, in it and behind it. -/
lemma kind_token (w : Text) (t : Token) (rs : List Run) (j : Nat) :
    (((gap w ++ t.run :: rs).flatMap Run.cells)[j]?).map Prod.snd =
      if j < w.length then some none
      else if j - w.length < t.text.length then some (some t.kind)
      else ((rs.flatMap Run.cells)[j - w.length - t.text.length]?).map Prod.snd := by
  have hrun : t.run.cells = t.text.map fun c => (c, some t.kind) := rfl
  rw [List.flatMap_append, flatMap_cells_gap, List.flatMap_cons, hrun]
  split
  · next hw =>
    rw [List.getElem?_append_left (by simpa using hw), List.getElem?_map,
      List.getElem?_eq_getElem hw]
    rfl
  · next hw =>
    rw [List.getElem?_append_right (by simpa using hw), List.length_map]
    split
    · next hj =>
      rw [List.getElem?_append_left (by simpa using hj), List.getElem?_map,
        List.getElem?_eq_getElem hj]
      rfl
    · next hj =>
      rw [List.getElem?_append_right (by simpa using hj), List.length_map]

namespace CutAlong

variable {u v : Text} {ts : List Token} {rs : List Run}

lemma start_ge (h : CutAlong u v ts rs) {t : Token} (ht : t ∈ ts) :
    Text.byteLength u ≤ t.start := by
  induction h with
  | last u v => exact absurd ht List.not_mem_nil
  | token hstart _ _ _ ih =>
    rcases List.mem_cons.mp ht with rfl | ht
    · rw [hstart, Text.byteLength_append]
      omega
    · have := ih ht
      rw [Text.byteLength_append, Text.byteLength_append] at this
      omega

/-- A token that spans the first byte of a character stands before it. -/
lemma length_le_of_spans (h : CutAlong u v ts rs) {t : Token} (ht : t ∈ ts) {i : Nat}
    (hi : i ≤ (u ++ v).length) (hspans : t.spans ((u ++ v).byteAt i)) : u.length ≤ i := by
  have hge := Nat.le_trans (h.start_ge ht) hspans.1
  rwa [← Text.byteAt_append u v, Text.byteAt_le_byteAt_iff (by simp) hi] at hge

/-- The runs that have a kind are those of the tokens. -/
lemma filter_isSome (h : CutAlong u v ts rs) :
    rs.filter (·.kind.isSome) = ts.map Token.run := by
  have hgap : ∀ w : Text, (gap w).filter (·.kind.isSome) = [] := by
    intro w
    unfold gap
    split <;> rfl
  induction h with
  | last u v => exact hgap v
  | token _ _ _ _ ih =>
    rw [List.filter_append, hgap, List.nil_append, List.filter_cons_of_pos rfl, ih, List.map_cons]

/-- Between two gaps there is always a token. -/
lemma isChain (h : CutAlong u v ts rs) :
    rs.IsChain fun a b => a.kind ≠ none ∨ b.kind ≠ none := by
  induction h with
  | last u v =>
    unfold gap
    split <;> simp
  | @token u w z t ts rs _ _ _ _ ih =>
    have hrun : t.run.kind ≠ none := by simp [Token.run]
    have hrest : (t.run :: rs).IsChain fun a b => a.kind ≠ none ∨ b.kind ≠ none :=
      List.isChain_cons.mpr ⟨fun _ _ => Or.inl hrun, ih⟩
    unfold gap
    split
    · exact hrest
    · exact List.isChain_cons_cons.mpr ⟨Or.inr hrun, hrest⟩

/-- No slice that is taken on the way cuts a character. -/
lemma runsFrom?_eq (h : CutAlong u v ts rs) :
    runsFrom? (u ++ v) (Text.byteLength u) ts = some rs := by
  induction h with
  | last u v =>
    have hgap := gap?_append u v []
    rwa [List.append_nil] at hgap
  | @token u w z t ts rs hstart hstop _ _ ih =>
    have hsplit : u ++ (w ++ (t.text ++ z)) = (u ++ w ++ t.text) ++ z := by simp
    rw [runsFrom?, hstart, gap?_append, hstop, hsplit, ih]
    rfl

/-- Of a token and those after it, the token spans the first bytes of its own characters, and those
after it have a share in the characters that come later. -/
lemma exists_spans_iff {w z : Text} {t : Token} (hstart : t.start = Text.byteLength (u ++ w))
    (hstop : t.stop = Text.byteLength (u ++ w ++ t.text))
    (hrest : CutAlong (u ++ w ++ t.text) z ts rs) (kind : TokenKind) {j : Nat}
    (hj : j ≤ (w ++ (t.text ++ z)).length) {k : Nat}
    (hk : (u ++ (w ++ (t.text ++ z))).byteAt (u.length + j) = k) :
    (∃ a ∈ t :: ts, a.kind = kind ∧ a.spans k) ↔
      if j < w.length then False
      else if j - w.length < t.text.length then t.kind = kind
      else ∃ a ∈ ts, a.kind = kind ∧ a.spans k := by
  have hsplit : u ++ (w ++ (t.text ++ z)) = u ++ w ++ t.text ++ z := by simp
  have hi : u.length + j ≤ (u ++ w ++ t.text ++ z).length := by
    rw [← hsplit, List.length_append]
    omega
  rw [hsplit] at hk
  have ht : t.spans k ↔ w.length ≤ j ∧ j < w.length + t.text.length := by
    rw [← hk, Token.spans_byteAt_iff hstart hstop hi, List.length_append]
    omega
  have hts : ∀ a ∈ ts, a.spans k → w.length + t.text.length ≤ j := by
    intro a ha hspans
    rw [← hk] at hspans
    have hge := hrest.length_le_of_spans ha hi hspans
    rw [List.length_append, List.length_append] at hge
    omega
  -- The gap in front of the token, the token, and what comes behind it.
  rw [List.exists_mem_cons_iff, ht]
  split
  · constructor
    · rintro (⟨-, hspans⟩ | ⟨a, ha, -, hspans⟩)
      · omega
      · have := hts a ha hspans
        omega
    · exact False.elim
  split
  · constructor
    · rintro (⟨hkind, -⟩ | ⟨a, ha, -, hspans⟩)
      · exact hkind
      · have := hts a ha hspans
        omega
    · intro hkind
      exact Or.inl ⟨hkind, by omega⟩
  · constructor
    · rintro (⟨-, hspans⟩ | hlater)
      · omega
      · exact hlater
    · exact Or.inr

/-- Which tokens span the first byte of a character says what kind the character has. -/
lemma kind_iff (h : CutAlong u v ts rs) (j : Nat) (kind : TokenKind) :
    ((rs.flatMap Run.cells)[j]?).map Prod.snd = some (some kind) ↔
      j < v.length ∧ ∃ t ∈ ts, t.kind = kind ∧ t.spans ((u ++ v).byteAt (u.length + j)) := by
  induction h generalizing j with
  | last u v =>
    rw [flatMap_cells_gap]
    simp
  | @token u w z t ts rs hstart hstop _ hrest ih =>
    have hlen : (w ++ (t.text ++ z)).length = w.length + (t.text.length + z.length) := by simp
    rw [kind_token]
    by_cases hj : j < (w ++ (t.text ++ z)).length
    · rw [exists_spans_iff hstart hstop hrest kind (Nat.le_of_lt hj) rfl]
      simp only [hj, true_and]
      split
      · simp
      split
      · simp
      · have hsplit : u ++ (w ++ (t.text ++ z)) = u ++ w ++ t.text ++ z := by simp
        have hoffset : (u ++ w ++ t.text).length + (j - w.length - t.text.length) =
            u.length + j := by
          simp only [List.length_append]
          omega
        rw [ih, hoffset, hsplit]
        exact and_iff_right (by omega)
    · -- there is no such character
      simp only [hj, false_and, iff_false]
      rw [if_neg (by omega), if_neg (by omega), ih]
      omega

end CutAlong

end Document

/-! ### Tokens and characters -/

namespace Token

/-- A token has all bytes of the character at an offset. -/
def Covers (text : Text) (i : Nat) (t : Token) : Prop :=
  i < text.length ∧ ∀ k, text.byteAt i ≤ k → k < text.byteAt (i + 1) → t.spans k

/-- A token has a byte of the character at an offset. -/
def Touches (text : Text) (i : Nat) (t : Token) : Prop :=
  ∃ k, text.byteAt i ≤ k ∧ k < text.byteAt (i + 1) ∧ t.spans k

variable {text : Text} {t : Token}

namespace IsSliceOf

lemma slice?_eq (h : t.IsSliceOf text) : text.slice? t.start t.stop = some t.text := by
  obtain ⟨u, v, rfl, hstart⟩ := h.split
  rw [h.stop_eq, hstart, ← Text.byteLength_append]
  exact Text.slice?_append u t.text v

lemma exists_byteAt (h : t.IsSliceOf text) :
    ∃ m n, m ≤ text.length ∧ n ≤ text.length ∧
      t.start = text.byteAt m ∧ t.stop = text.byteAt n := by
  obtain ⟨u, v, rfl, hstart⟩ := h.split
  refine ⟨u.length, (u ++ t.text).length, by simp, by simp, ?_, ?_⟩
  · rw [hstart, Text.byteAt_append]
  · rw [h.stop_eq, hstart, ← Text.byteLength_append, ← List.append_assoc, Text.byteAt_append]

/-- A token that has one byte of a character has all of them. -/
lemma covers_of_touches (h : t.IsSliceOf text) {i : Nat} (ht : t.Touches text i) :
    t.Covers text i := by
  obtain ⟨m, n, hm, hn, hstart, hstop⟩ := h.exists_byteAt
  obtain ⟨k, hk, hk', hspans⟩ := ht
  have hi : i < text.length := by
    by_contra hge
    have hend : text.byteAt i = text.byteAt (i + 1) := by
      rw [Text.byteAt, Text.byteAt, List.take_of_length_le (by omega),
        List.take_of_length_le (by omega)]
    omega
  have hmi : m ≤ i := by
    have hlt : ¬ text.byteAt (i + 1) ≤ text.byteAt m := by
      have := hspans.1
      omega
    rw [Text.byteAt_le_byteAt_iff hi hm] at hlt
    omega
  have hin : i + 1 ≤ n := by
    have hlt : ¬ text.byteAt n ≤ text.byteAt i := by
      have := hspans.2
      omega
    rw [Text.byteAt_le_byteAt_iff hn (by omega)] at hlt
    omega
  have hfirst := (Text.byteAt_le_byteAt_iff hm (Nat.le_of_lt hi)).mpr hmi
  have hlast : text.byteAt (i + 1) ≤ text.byteAt n :=
    (Text.byteAt_le_byteAt_iff hi hn).mpr hin
  exact ⟨hi, fun k' hle hlt => ⟨by omega, by omega⟩⟩

/-- A token that has the first byte of a character has all of them. -/
lemma covers_iff (h : t.IsSliceOf text) (i : Nat) :
    t.Covers text i ↔ i < text.length ∧ t.spans (text.byteAt i) := by
  constructor
  · rintro ⟨hi, hall⟩
    exact ⟨hi, hall _ (Nat.le_refl _) (Text.byteAt_lt_byteAt (Nat.lt_succ_self i) hi)⟩
  · rintro ⟨hi, hspans⟩
    exact h.covers_of_touches
      ⟨_, Nat.le_refl _, Text.byteAt_lt_byteAt (Nat.lt_succ_self i) hi, hspans⟩

end IsSliceOf

/-- Tokens that mark stretches of a text, one after another. -/
structure Mark (text : Text) (ts : List Token) : Prop where
  /-- Each takes at least one byte of the text. -/
  bounds : ∀ t ∈ ts, t.start < t.stop ∧ t.stop ≤ text.byteLength
  /-- None begins or ends inside a character. -/
  boundaries : ∀ t ∈ ts, text.IsBoundary t.start ∧ text.IsBoundary t.stop
  /-- What has one byte of a character has all of them. -/
  whole : ∀ t ∈ ts, ∀ i, t.Touches text i → t.Covers text i
  /-- Each carries the characters that it spans. -/
  texts : ∀ t ∈ ts, text.slice? t.start t.stop = some t.text
  /-- They stand in the order of their offsets and share no byte. -/
  ordered : ts.Pairwise fun a b => a.start < b.start ∧ a.stop ≤ b.start

end Token

namespace Document

/-- A document that shows the tokens of a text and nothing else. -/
structure Shows (d : Document) (text : Text) (ts : List Token) : Prop where
  /-- The runs spell the text. -/
  spells : d.text = text
  /-- There is something in each run. -/
  filled : ∀ r ∈ d.runs, r.text ≠ []
  /-- Of two runs that meet at least one has a kind. -/
  parted : d.runs.IsChain fun a b => a.kind ≠ none ∨ b.kind ≠ none
  /-- The runs that have a kind are the tokens, in their order. -/
  labeled : d.runs.filter (·.kind.isSome) = ts.map fun t => ⟨some t.kind, t.text⟩
  /-- A character is in a run of a kind exactly if a token of this kind covers it. -/
  covered : ∀ i kind, d.kindAt? i = some (some kind) ↔ ∃ t ∈ ts, t.kind = kind ∧ t.Covers text i
  /-- A character is in a run without a kind exactly if no token covers it. -/
  plain : ∀ i, d.kindAt? i = some none ↔ i < text.length ∧ ∀ t ∈ ts, ¬ t.Covers text i

section

variable {text : Text} {ts : List Token} (hslice : ∀ t ∈ ts, t.IsSliceOf text)
  (hpair : ts.Pairwise fun a b => a.stop ≤ b.start)

include hslice hpair

lemma kindAt?_eq_some_iff (i : Nat) (kind : TokenKind) :
    (ofTokens text ts).kindAt? i = some (some kind) ↔
      ∃ t ∈ ts, t.kind = kind ∧ t.Covers text i := by
  have hiff := (cutAlong_ofTokens hslice hpair).kind_iff i kind
  rw [List.length_nil, Nat.zero_add, List.nil_append] at hiff
  refine hiff.trans ?_
  constructor
  · rintro ⟨hi, t, ht, hkind, hspans⟩
    exact ⟨t, ht, hkind, ((hslice t ht).covers_iff i).mpr ⟨hi, hspans⟩⟩
  · rintro ⟨t, ht, hkind, hcovers⟩
    obtain ⟨hi, hspans⟩ := ((hslice t ht).covers_iff i).mp hcovers
    exact ⟨hi, t, ht, hkind, hspans⟩

lemma kindAt?_eq_none_iff (i : Nat) :
    (ofTokens text ts).kindAt? i = some none ↔
      i < text.length ∧ ∀ t ∈ ts, ¬ t.Covers text i := by
  have hlt : ((ofTokens text ts).kindAt? i).isSome ↔ i < text.length := by
    rw [isSome_kindAt?_iff, text_ofTokens hslice hpair]
  constructor
  · intro hnone
    refine ⟨hlt.mp (by rw [hnone]; rfl), fun t ht hcovers => ?_⟩
    have hsome := (kindAt?_eq_some_iff hslice hpair i t.kind).mpr ⟨t, ht, rfl, hcovers⟩
    rw [hnone] at hsome
    exact nomatch Option.some.inj hsome
  · rintro ⟨hi, hfree⟩
    obtain ⟨k, hk⟩ := Option.isSome_iff_exists.mp (hlt.mpr hi)
    cases k with
    | none => exact hk
    | some kind =>
      obtain ⟨t, ht, -, hcovers⟩ := (kindAt?_eq_some_iff hslice hpair i kind).mp hk
      exact absurd hcovers (hfree t ht)

lemma shows_ofTokens : (ofTokens text ts).Shows text ts :=
  have hcut := cutAlong_ofTokens hslice hpair
  ⟨hcut.flatMap_text, fun _ hr => hcut.text_ne_nil hr, hcut.isChain, hcut.filter_isSome,
    kindAt?_eq_some_iff hslice hpair, kindAt?_eq_none_iff hslice hpair⟩

end

end Document

namespace Lexer

/-- **The runs of a text show the tokens that a lexer finds in it.** Whatever the rules are, the
tokens mark stretches of the text without cutting a character, neither does any slice that is taken
for a run, and each character is in a run of the kind of the token that covers it, or in a run
without a kind if there is none. -/
theorem shows_tokens (x : Lexer) (text : Text) :
    Token.Mark text (x.tokens text) ∧
      Document.runsFrom? text 0 (x.tokens text) =
        some (Document.ofTokens text (x.tokens text)).runs ∧
      (Document.ofTokens text (x.tokens text)).Shows text (x.tokens text) := by
  have hslice : ∀ t ∈ x.tokens text, t.IsSliceOf text := fun t => x.isSliceOf_of_mem_tokens text
  have hpair := x.pairwise_tokens text
  refine ⟨⟨?_, ?_, ?_, ?_, ?_⟩, (Document.cutAlong_ofTokens hslice hpair).runsFrom?_eq,
    Document.shows_ofTokens hslice hpair⟩
  · exact fun t ht => (Token.mem_select ht).2
  · intro t ht
    obtain ⟨m, n, hm, hn, hstart, hstop⟩ := (hslice t ht).exists_byteAt
    exact ⟨⟨m, hm, hstart.symm⟩, ⟨n, hn, hstop.symm⟩⟩
  · exact fun t ht i => (hslice t ht).covers_of_touches
  · exact fun t ht => (hslice t ht).slice?_eq
  · refine hpair.imp_of_mem ?_
    intro a b ha hb hle
    have := (Token.mem_select ha).2
    omega

end Lexer

end CodePad
