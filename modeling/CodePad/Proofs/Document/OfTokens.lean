import CodePad.Proofs.Token.Slice
import CodePad.Document.OfTokens

/-!
Cutting a text along its tokens. If the tokens are slices of the text and follow one another, the
runs are the tokens with the stretches between them, as far as these are not empty. What is to be
known of the runs is shown along this cut: they spell the text, and none of them is empty.
-/

namespace CodePad

namespace Token

/-- The run that a token makes. -/
def run (t : Token) : Run := ⟨some t.kind, t.text⟩

end Token

namespace Document

/-- The run of a stretch without a token, if there is anything in it. -/
def gap (w : Text) : List Run := if w = [] then [] else [⟨none, w⟩]

@[simp] lemma flatMap_text_gap (w : Text) : (gap w).flatMap Run.text = w := by
  unfold gap
  split
  · next h => simp [h]
  · simp

/-- A text that is cut at a place into `before` and `after`, the tokens from there on and the runs
of `after`: what comes before each token makes a gap, and so does what comes after the last. -/
inductive CutAlong : (before after : Text) → List Token → List Run → Prop
  | last (u v : Text) : CutAlong u v [] (gap v)
  | token {u w z : Text} {t : Token} {ts : List Token} {rs : List Run}
      (start_eq : t.start = Text.byteLength (u ++ w))
      (stop_eq : t.stop = Text.byteLength (u ++ w ++ t.text)) (text_ne_nil : t.text ≠ [])
      (rest : CutAlong (u ++ w ++ t.text) z ts rs) :
      CutAlong u (w ++ (t.text ++ z)) (t :: ts) (gap w ++ t.run :: rs)

lemma runsFrom_nil (u v : Text) : runsFrom (u ++ v) (Text.byteLength u) [] = gap v := by
  rw [runsFrom, gap, Text.dropBytes_append]
  by_cases hv : v = []
  · rw [if_neg (by simp [hv]), if_pos hv]
  · have := Text.byteLength_pos hv
    rw [if_pos (by rw [Text.byteLength_append]; omega), if_neg hv]

lemma runsFrom_cons {u w z : Text} {t : Token} (ts : List Token)
    (hstart : t.start = Text.byteLength (u ++ w)) :
    runsFrom (u ++ (w ++ (t.text ++ z))) (Text.byteLength u) (t :: ts) =
      gap w ++ t.run :: runsFrom (u ++ (w ++ (t.text ++ z))) t.stop ts := by
  rw [runsFrom, gap]
  by_cases hw : w = []
  · rw [if_neg (by simp [hstart, hw]), if_pos hw]
    rfl
  · have hpos := Text.byteLength_pos hw
    rw [if_pos (by rw [hstart, Text.byteLength_append]; omega), if_neg hw, hstart,
      Text.slice_append]
    rfl

lemma cutAlong_runsFrom {u v : Text} {ts : List Token} (hslice : ∀ t ∈ ts, t.IsSliceOf (u ++ v))
    (hpair : ts.Pairwise fun a b => a.stop ≤ b.start)
    (hfrom : ∀ t ∈ ts, Text.byteLength u ≤ t.start) :
    CutAlong u v ts (runsFrom (u ++ v) (Text.byteLength u) ts) := by
  induction ts generalizing u v with
  | nil =>
    rw [runsFrom_nil]
    exact .last u v
  | cons t ts ih =>
    have ht := hslice t (by simp)
    obtain ⟨w, z, rfl, hstart⟩ := ht.split_from (hfrom t (by simp))
    obtain ⟨hnext, hpair⟩ := List.pairwise_cons.mp hpair
    -- the rest is read from the place after the token
    have hsplit : u ++ (w ++ (t.text ++ z)) = (u ++ w ++ t.text) ++ z := by simp
    have hstop : t.stop = Text.byteLength (u ++ w ++ t.text) := by
      rw [ht.stop_eq, hstart, ← Text.byteLength_append]
    have hrest : CutAlong (u ++ w ++ t.text) z ts
        (runsFrom (u ++ w ++ t.text ++ z) (Text.byteLength (u ++ w ++ t.text)) ts) :=
      ih (fun a ha => hsplit ▸ hslice a (by simp [ha])) hpair (fun a ha => hstop ▸ hnext a ha)
    rw [runsFrom_cons ts hstart, hstop, hsplit]
    exact .token hstart hstop ht.text_ne_nil hrest

namespace CutAlong

variable {u v : Text} {ts : List Token} {rs : List Run}

lemma flatMap_text (h : CutAlong u v ts rs) : rs.flatMap Run.text = v := by
  induction h with
  | last u v => exact flatMap_text_gap v
  | token _ _ _ _ ih =>
    rw [List.flatMap_append, flatMap_text_gap, List.flatMap_cons, ih]
    rfl

lemma text_ne_nil (h : CutAlong u v ts rs) {r : Run} (hr : r ∈ rs) : r.text ≠ [] := by
  have hgap : ∀ {w : Text}, r ∈ gap w → r.text ≠ [] := by
    intro w hw
    unfold gap at hw
    split at hw
    · exact absurd hw List.not_mem_nil
    · next hne => exact List.mem_singleton.mp hw ▸ hne
  induction h with
  | last u v => exact hgap hr
  | token _ _ hne _ ih =>
    rcases List.mem_append.mp hr with hr | hr
    · exact hgap hr
    · rcases List.mem_cons.mp hr with rfl | hr
      · exact hne
      · exact ih hr

end CutAlong

variable {text : Text} {ts : List Token}

lemma cutAlong_ofTokens (hslice : ∀ t ∈ ts, t.IsSliceOf text)
    (hpair : ts.Pairwise fun a b => a.stop ≤ b.start) :
    CutAlong [] text ts (ofTokens text ts).runs :=
  cutAlong_runsFrom (u := []) hslice hpair (by simp)

/-- **The runs made from the tokens of a text spell the text.** -/
theorem text_ofTokens (hslice : ∀ t ∈ ts, t.IsSliceOf text)
    (hpair : ts.Pairwise fun a b => a.stop ≤ b.start) : (ofTokens text ts).text = text :=
  (cutAlong_ofTokens hslice hpair).flatMap_text

end Document

end CodePad
