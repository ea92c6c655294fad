import Mathlib.Data.List.TakeWhile
import CodePad.Proofs.Buffer.Flat
import CodePad.Settings.Basic

/-!
Braces that stay balanced. Read from left to right, an opening brace goes one level deeper and a
closing brace one level up. Enter after an opening brace puts in a closing one as well, on the next
line or at the end of the document, and in both places it closes what was opened.
-/

namespace CodePad

namespace Text

/-- The levels that a character goes deeper. -/
def braceStep (c : Char) : Int := if c = '\x7b' then 1 else if c = '\x7d' then -1 else 0

/-- The levels that a text goes deeper: opening braces less closing ones. -/
def depth : Text → Int
  | [] => 0
  | c :: t => braceStep c + depth t

/-- Whether a text that begins `d` levels deep never goes above the outermost level. -/
def StaysInside : Int → Text → Prop
  | d, [] => 0 ≤ d
  | d, c :: t => 0 ≤ d ∧ StaysInside (d + braceStep c) t

/-- No brace closes what was not opened, and none stays open. -/
def Balanced (t : Text) : Prop := StaysInside 0 t ∧ depth t = 0

instance instDecidableStaysInside : (d : Int) → (t : Text) → Decidable (StaysInside d t)
  | d, [] => inferInstanceAs (Decidable (0 ≤ d))
  | d, c :: t =>
    have := instDecidableStaysInside (d + braceStep c) t
    inferInstanceAs (Decidable (0 ≤ d ∧ StaysInside (d + braceStep c) t))

instance : DecidablePred Balanced := fun t =>
  inferInstanceAs (Decidable (StaysInside 0 t ∧ depth t = 0))

/-- There are no braces in a text. -/
def Braceless (t : Text) : Prop := ∀ c ∈ t, braceStep c = 0

@[simp] lemma depth_nil : depth [] = 0 := rfl

@[simp] lemma depth_cons (c : Char) (t : Text) : depth (c :: t) = braceStep c + depth t := rfl

@[simp] lemma depth_append (s t : Text) : depth (s ++ t) = depth s + depth t := by
  induction s with
  | nil => simp
  | cons c s ih => simp [ih, Int.add_assoc]

@[simp] lemma staysInside_nil (d : Int) : StaysInside d [] ↔ 0 ≤ d := Iff.rfl

@[simp] lemma staysInside_cons (d : Int) (c : Char) (t : Text) :
    StaysInside d (c :: t) ↔ 0 ≤ d ∧ StaysInside (d + braceStep c) t := Iff.rfl

lemma StaysInside.nonneg {d : Int} {t : Text} (h : StaysInside d t) : 0 ≤ d := by
  cases t with
  | nil => exact h
  | cons c t => exact h.1

@[simp] lemma staysInside_append (d : Int) (s t : Text) :
    StaysInside d (s ++ t) ↔ StaysInside d s ∧ StaysInside (d + depth s) t := by
  induction s generalizing d with
  | nil => simpa using StaysInside.nonneg
  | cons c s ih => simp [ih, Int.add_assoc, and_assoc]

/-- What stays inside does so also when it begins deeper. -/
lemma StaysInside.mono {d d' : Int} (h : d ≤ d') {t : Text} (ht : StaysInside d t) :
    StaysInside d' t := by
  induction t generalizing d d' with
  | nil => exact Int.le_trans ht h
  | cons c t ih => exact ⟨Int.le_trans ht.1 h, ih (by omega) ht.2⟩

namespace Braceless

variable {s t : Text}

lemma append (hs : Braceless s) (ht : Braceless t) : Braceless (s ++ t) :=
  fun c hc => (List.mem_append.mp hc).elim (hs c) (ht c)

lemma cons {c : Char} (hc : braceStep c = 0) (ht : Braceless t) : Braceless (c :: t) :=
  List.forall_mem_cons.mpr ⟨hc, ht⟩

lemma depth_eq (ht : Braceless t) : depth t = 0 := by
  induction t with
  | nil => rfl
  | cons c t ih => rw [depth_cons, ht c (by simp), ih fun d hd => ht d (by simp [hd]), Int.add_zero]

lemma staysInside_iff (ht : Braceless t) (d : Int) : StaysInside d t ↔ 0 ≤ d := by
  induction t with
  | nil => rfl
  | cons c t ih =>
    rw [staysInside_cons, ht c (by simp), Int.add_zero, ih fun e he => ht e (by simp [he]),
      and_self]

end Braceless

/-- A balanced text stays balanced if an opening brace is put in anywhere and a closing one behind
it, each with text that has no braces. -/
lemma Balanced.insert_pair {u mid v head rest : Text} (h : Balanced (u ++ (mid ++ v)))
    (hhead : Braceless head) (hrest : Braceless rest) :
    Balanced (u ++ '\x7b' :: (head ++ (mid ++ (rest ++ '\x7d' :: v)))) := by
  have hopen : braceStep '\x7b' = 1 := rfl
  have hclose : braceStep '\x7d' = -1 := rfl
  obtain ⟨hin, hdepth⟩ := h
  simp only [staysInside_append, depth_append] at hin hdepth
  obtain ⟨hu, hmid, hv⟩ := hin
  -- Between the two braces the depth is one more than it was, before and behind them the same.
  have hdeeper : 0 + depth u + 1 + 0 + depth mid + 0 + -1 = 0 + depth u + depth mid := by omega
  have hnonneg := hu.nonneg
  have hunonneg := hmid.nonneg
  have hvnonneg := hv.nonneg
  constructor
  · simp only [staysInside_append, staysInside_cons, hhead.staysInside_iff, hrest.staysInside_iff,
      hhead.depth_eq, hrest.depth_eq, hopen, hclose, hdeeper]
    exact ⟨hu, hunonneg, by omega, hmid.mono (by omega), by omega, by omega, hv⟩
  · simp only [depth_append, depth_cons, hhead.depth_eq, hrest.depth_eq, hopen, hclose]
    omega

lemma opensBlock_lineBefore (u v : Text) :
    Buffer.opensBlock ((u ++ '\x7b' :: v).lineBefore (u.length + 1)) = true := by
  have htake : (u ++ '\x7b' :: v).take (u.length + 1) = u ++ ['\x7b'] :=
    List.take_length_add_append 1
  rw [Buffer.opensBlock, lineBefore, htake, List.reverse_append, List.reverse_singleton,
    List.singleton_append, List.takeWhile_cons_of_pos (by decide), List.reverse_cons,
    List.getLast?_concat]
  rfl

lemma braceStep_of_isBlank {c : Char} (h : isBlank c = true) : braceStep c = 0 := by
  have hopen : c ≠ '\x7b' := by
    rintro rfl
    exact absurd h (by decide)
  have hclose : c ≠ '\x7d' := by
    rintro rfl
    exact absurd h (by decide)
  rw [braceStep, if_neg hopen, if_neg hclose]

lemma braceless_indent (t : Text) : Braceless t.indent :=
  fun _ hc => braceStep_of_isBlank (List.mem_takeWhile_imp hc)

lemma braceless_replicate {c : Char} (h : braceStep c = 0) (n : Nat) :
    Braceless (List.replicate n c) := fun d hd => by rw [List.eq_of_mem_replicate hd, h]

end Text

namespace Buffer

open Text

/-- After an opening brace a line break has one closing brace, either behind the caret or at the end
of the document. -/
lemma exists_lineBreak (policy : EnterPolicy) {unit before : Text} (hunit : Braceless unit)
    (h : opensBlock before = true) :
    ∃ head rest, Braceless head ∧ Braceless rest ∧
      (lineBreak policy unit before = ⟨head, rest ++ ['\x7d'], []⟩ ∨
        lineBreak policy unit before = ⟨head, [], rest ++ ['\x7d']⟩) := by
  have hindent : Braceless ('\n' :: before.indent) := .cons rfl (braceless_indent before)
  unfold lineBreak
  rw [h]
  cases policy with
  | carryIndent => exact ⟨_, _, hindent.append hunit, hindent, Or.inl rfl⟩
  | braceOnly => exact ⟨_, ['\n'], .cons rfl hunit, .cons rfl nofun, Or.inr rfl⟩

end Buffer

namespace FlatBuffer

open Text

lemma insert_of_caret {f : FlatBuffer} (h : f.anchor = f.focus) (t : Text) :
    f.insert t = caret (f.text.take f.focus ++ t ++ f.text.drop f.focus) (f.focus + t.length) := by
  rw [insert, start, stop, h, Nat.min_self, Nat.max_self]

/-- Enter at a caret behind an opening brace: where its two parts and the closing brace go. -/
lemma enter_of_append_brace {u v unit : Text} (policy : EnterPolicy) (hunit : Braceless unit) :
    ∃ head rest mid w, Braceless head ∧ Braceless rest ∧ mid ++ w = v ∧
      (caret (u ++ '\x7b' :: v) (u.length + 1)).enter unit policy =
        caret (u ++ '\x7b' :: (head ++ (mid ++ (rest ++ '\x7d' :: w))))
          (u.length + 1 + head.length) := by
  have hle : u.length + 1 ≤ (u ++ '\x7b' :: v).length := by simp
  have htake : (u ++ '\x7b' :: v).take (u.length + 1) = u ++ ['\x7b'] :=
    List.take_length_add_append 1
  have hdrop : (u ++ '\x7b' :: v).drop (u.length + 1) = v := List.drop_length_add_append 1
  have hopens := opensBlock_lineBefore u v
  rw [lineBefore_eq_drop hle, htake] at hopens
  -- The closing brace comes either right behind the caret or behind the whole text.
  obtain ⟨head, rest, hhead, hrest, hbr | hbr⟩ := Buffer.exists_lineBreak policy hunit hopens
  · refine ⟨head, rest, [], v, hhead, hrest, rfl, ?_⟩
    rw [enter_eq]
    simp [start, stop, caret, htake, hdrop, hbr]
  · refine ⟨head, rest, v, [], hhead, hrest, List.append_nil v, ?_⟩
    rw [enter_eq]
    simp [start, stop, caret, htake, hdrop, hbr]

/-- An opening brace and Enter after it, at a caret in a balanced text. -/
lemma balanced_enter_insert {f : FlatBuffer} {unit : Text} (policy : EnterPolicy)
    (hunit : Braceless unit) (hcaret : f.anchor = f.focus) (hle : f.focus ≤ f.text.length)
    (h : Balanced f.text) :
    let f' := (f.insert ['\x7b']).enter unit policy
    Balanced f'.text ∧ f'.anchor = f'.focus ∧
      depth (f'.text.take f'.focus) = depth (f.text.take f.focus) + 1 := by
  have hlen : (f.text.take f.focus).length = f.focus := List.length_take_of_le hle
  have hinsert : f.insert ['\x7b'] =
      caret (f.text.take f.focus ++ '\x7b' :: f.text.drop f.focus)
        ((f.text.take f.focus).length + 1) := by
    rw [insert_of_caret hcaret, hlen, List.append_assoc]
    rfl
  obtain ⟨head, rest, mid, w, hhead, hrest, hv, henter⟩ :=
    enter_of_append_brace (u := f.text.take f.focus) (v := f.text.drop f.focus) policy hunit
  rw [← List.take_append_drop f.focus f.text, ← hv] at h
  have hcut : ∀ y : Text, (f.text.take f.focus ++ '\x7b' :: (head ++ y)).take
      ((f.text.take f.focus).length + 1 + head.length) =
        f.text.take f.focus ++ '\x7b' :: head := by
    intro y
    rw [Nat.add_assoc, List.take_length_add_append, Nat.add_comm 1, List.take_succ_cons,
      List.take_left]
  rw [hinsert, henter]
  refine ⟨h.insert_pair hhead hrest, rfl, ?_⟩
  have hopen : braceStep '\x7b' = 1 := rfl
  simp only [caret, hcut, depth_append, depth_cons, hhead.depth_eq, hopen]
  omega

end FlatBuffer

namespace Buffer

open Text

/-- **Braces stay balanced when one is opened.** At a caret anywhere in a balanced document, an
opening brace and Enter after it give a balanced document again, under both policies for Enter and
for every width of indentation, and the caret is then one level deeper than it was. -/
theorem brace_enter_balanced (h : Highlighter) (s : Settings) (actions : List Action) :
    let b := (new h s.indentUnit s.enterPolicy).run actions
    let b' := b.run [.insertChar '\x7b', .enter]
    b.anchorOffset = b.focusOffset → b.text.Balanced →
      b'.text.Balanced ∧ b'.anchorOffset = b'.focusOffset ∧
        depth (b'.text.take b'.focusOffset) = depth (b.text.take b.focusOffset) + 1 := by
  intro b b' hcaret hbalanced
  have hunit : Braceless s.indentUnit := braceless_replicate rfl s.indentWidth
  obtain ⟨hu, hp, -⟩ := (new h s.indentUnit s.enterPolicy).settings_run actions
  have hflat : b'.flat = (b.flat.insert ['\x7b']).enter s.indentUnit s.enterPolicy := by
    rw [flat_run (hasCaret_run_new h s.indentUnit s.enterPolicy actions), hu, hp]
    rfl
  have hmain := b.flat.balanced_enter_insert s.enterPolicy hunit hcaret b.focusOffset_le hbalanced
  rw [← hflat] at hmain
  exact hmain

/-- A block opened inside another one that has its closing brace at the end of the document. -/
theorem brace_enter_balanced_nested :
    let s : Settings := { indentWidth := 2, enterPolicy := .braceOnly }
    let b := (new {} s.indentUnit s.enterPolicy).run
      [.insert ['\x7b', '\x7d'], .move .left false]
    let b' := b.run [.insertChar '\x7b', .enter]
    b.text = ['\x7b', '\x7d'] ∧ b.focusOffset = 1 ∧ b'.text.Balanced ∧
      depth (b'.text.take b'.focusOffset) = 2 := by
  intro s b b'
  have hflat : b.flat = ⟨['\x7b', '\x7d'], 1, 1, none⟩ :=
    flat_run_new {} s.indentUnit s.enterPolicy _
  have htext : b.text = ['\x7b', '\x7d'] := congrArg FlatBuffer.text hflat
  have hanchor : b.anchorOffset = 1 := congrArg FlatBuffer.anchor hflat
  have hfocus : b.focusOffset = 1 := congrArg FlatBuffer.focus hflat
  have hbefore : b.text.Balanced := by
    rw [htext]
    decide
  obtain ⟨hbalanced, -, hdepth⟩ := brace_enter_balanced {} s
    [.insert ['\x7b', '\x7d'], .move .left false] (hanchor.trans hfocus.symm) hbefore
  refine ⟨htext, hfocus, hbalanced, hdepth.trans ?_⟩
  rw [htext, hfocus]
  rfl

end Buffer

end CodePad
