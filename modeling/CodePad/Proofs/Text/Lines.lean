import Mathlib.Tactic.Common
import CodePad.Text.Lines

/-!
The lines around an offset. A text is cut at an offset into the lines before, the line that
holds the offset and the lines after; line and column, the ends of the line and the offsets of
columns are all read off this cut. The number of a line leads to such a cut as well.
-/

namespace CodePad

namespace Text

/-- The text in which a line stands after some lines and before some others. -/
def between (pre : List Text) (line : Text) (post : List Text) : Text :=
  pre.flatMap (· ++ ['\n']) ++ (line ++ post.flatMap ('\n' :: ·))

/-- The number of characters of some lines, each counted with its newline. -/
def linesLength : List Text → Nat
  | [] => 0
  | l :: ls => l.length + 1 + linesLength ls

@[simp] lemma linesLength_nil : linesLength [] = 0 := rfl

@[simp] lemma linesLength_cons (l : Text) (ls : List Text) :
    linesLength (l :: ls) = l.length + 1 + linesLength ls := rfl

@[simp] lemma linesLength_append (ls ls' : List Text) :
    linesLength (ls ++ ls') = linesLength ls + linesLength ls' := by
  induction ls with
  | nil => simp
  | cons l ls ih => simp [ih, Nat.add_assoc]

lemma length_flatMap_newline (ls : List Text) :
    (ls.flatMap (· ++ ['\n'])).length = linesLength ls := by
  induction ls with
  | nil => rfl
  | cons l ls ih =>
    rw [List.flatMap_cons, List.length_append, ih, List.length_append, linesLength_cons]
    rfl

lemma length_flatMap_newline_cons (ls : List Text) :
    (ls.flatMap ('\n' :: ·)).length = linesLength ls := by
  induction ls with
  | nil => rfl
  | cons l ls ih =>
    rw [List.flatMap_cons, List.length_append, ih, List.length_cons, linesLength_cons]

lemma lines_of_not_mem {l : Text} (h : '\n' ∉ l) : lines l = [l] := by
  induction l with
  | nil => rfl
  | cons c l ih =>
    simp only [List.mem_cons, not_or] at h
    rw [lines, if_neg (fun hc => h.1 hc.symm), ih h.2, consToFirst]

lemma lines_append_newline {l : Text} (h : '\n' ∉ l) (t : Text) :
    lines (l ++ '\n' :: t) = l :: lines t := by
  induction l with
  | nil => simp [lines]
  | cons c l ih =>
    simp only [List.mem_cons, not_or] at h
    rw [List.cons_append, lines, if_neg (fun hc => h.1 hc.symm), ih h.2, consToFirst]

lemma lines_flatMap_append {ls : List Text} (h : ∀ l ∈ ls, '\n' ∉ l) (t : Text) :
    lines (ls.flatMap (· ++ ['\n']) ++ t) = ls ++ lines t := by
  induction ls with
  | nil => rfl
  | cons l ls ih =>
    rw [List.flatMap_cons, List.append_assoc, List.append_assoc, List.singleton_append,
      lines_append_newline (h l (by simp)), ih fun l' hl' => h l' (by simp [hl']),
      List.cons_append]

lemma lines_append_flatMap {l : Text} {ls : List Text} (hl : '\n' ∉ l)
    (h : ∀ l' ∈ ls, '\n' ∉ l') : lines (l ++ ls.flatMap ('\n' :: ·)) = l :: ls := by
  induction ls generalizing l with
  | nil => simpa using lines_of_not_mem hl
  | cons l' ls ih =>
    rw [List.flatMap_cons, List.cons_append, lines_append_newline hl,
      ih (h l' (by simp)) fun l'' hl'' => h l'' (by simp [hl''])]

lemma foldl_step_of_not_mem {l : Text} (h : '\n' ∉ l) (p : LineCol) :
    l.foldl LineCol.step p = ⟨p.line, p.col + l.length⟩ := by
  induction l generalizing p with
  | nil => rfl
  | cons c l ih =>
    simp only [List.mem_cons, not_or] at h
    rw [List.foldl_cons, ih h.2, LineCol.step, if_neg (fun hc => h.1 hc.symm), List.length_cons]
    simp only [LineCol.mk.injEq, true_and]
    omega

lemma foldl_step_lines {ls : List Text} (h : ∀ l ∈ ls, '\n' ∉ l) (n : Nat) :
    (ls.flatMap (· ++ ['\n'])).foldl LineCol.step ⟨n, 0⟩ = ⟨n + ls.length, 0⟩ := by
  induction ls generalizing n with
  | nil => rfl
  | cons l ls ih =>
    have hl := h l (by simp)
    rw [List.flatMap_cons, List.foldl_append, List.foldl_append, foldl_step_of_not_mem hl,
      List.foldl_cons, List.foldl_nil, LineCol.step, if_pos rfl,
      ih fun l' hl' => h l' (by simp [hl']), List.length_cons]
    simp only [LineCol.mk.injEq, and_true]
    omega

/-- The offset at which the line that holds an offset begins. -/
def lineStart (t : Text) (k : Nat) : Nat :=
  k - ((t.take k).reverse.takeWhile (· ≠ '\n')).length

/-- The offset at which the line that holds an offset ends, in front of its newline. -/
def lineEnd (t : Text) (k : Nat) : Nat := k + ((t.drop k).takeWhile (· ≠ '\n')).length

/-- The offset `k` of a text is in the given column of `line`, which comes after the lines `pre`
and before the lines `post`. -/
structure LineAt (t : Text) (k : Nat) (pre : List Text) (line : Text) (post : List Text)
    (col : Nat) : Prop where
  text_eq : t = between pre line post
  not_mem_pre : ∀ l ∈ pre, '\n' ∉ l
  not_mem_line : '\n' ∉ line
  not_mem_post : ∀ l ∈ post, '\n' ∉ l
  offset_eq : k = linesLength pre + col
  col_le : col ≤ line.length

/-- Lines in front of a line may as well be counted among those after an earlier one. -/
lemma between_append_cons (pre : List Text) (l : Text) (mid : List Text) (line : Text)
    (post : List Text) :
    between (pre ++ l :: mid) line post = between pre l (mid ++ line :: post) := by
  have hmid : ∀ x : Text, '\n' :: (mid.flatMap (· ++ ['\n']) ++ x) =
      mid.flatMap ('\n' :: ·) ++ '\n' :: x := by
    intro x
    induction mid with
    | nil => rfl
    | cons m mid ih => simp [← ih]
  simp [between, hmid]

namespace LineAt

variable {t : Text} {k : Nat} {pre : List Text} {line : Text} {post : List Text} {col : Nat}

/-- Another column of the same line. -/
lemma column (h : LineAt t k pre line post col) {c : Nat} (hc : c ≤ line.length) :
    LineAt t (linesLength pre + c) pre line post c :=
  { h with offset_eq := rfl, col_le := hc }

/-- A column of an earlier line. -/
lemma earlier {l : Text} {mid : List Text} (h : LineAt t k (pre ++ l :: mid) line post col)
    {c : Nat} (hc : c ≤ l.length) :
    LineAt t (linesLength pre + c) pre l (mid ++ line :: post) c where
  text_eq := h.text_eq.trans (between_append_cons pre l mid line post)
  not_mem_pre l' hl' := h.not_mem_pre l' (by simp [hl'])
  not_mem_line := h.not_mem_pre l (by simp)
  not_mem_post := by
    intro l' hl'
    rcases List.mem_append.mp hl' with hl' | hl'
    · exact h.not_mem_pre l' (by simp [hl'])
    · rcases List.mem_cons.mp hl' with rfl | hl'
      · exact h.not_mem_line
      · exact h.not_mem_post l' hl'
  offset_eq := rfl
  col_le := hc

/-- A column of the next line. -/
lemma next {l : Text} (h : LineAt t k pre line (l :: post) col) {c : Nat} (hc : c ≤ l.length) :
    LineAt t (linesLength pre + (line.length + 1) + c) (pre ++ [line]) l post c where
  text_eq := h.text_eq.trans (between_append_cons pre line [] l post).symm
  not_mem_pre := by
    intro l' hl'
    rcases List.mem_append.mp hl' with hl' | hl'
    · exact h.not_mem_pre l' hl'
    · rw [List.mem_singleton.mp hl']
      exact h.not_mem_line
  not_mem_line := h.not_mem_post l (by simp)
  not_mem_post l' hl' := h.not_mem_post l' (by simp [hl'])
  offset_eq := by simp
  col_le := hc

/-- A newline in front makes an empty first line. -/
lemma cons_newline (h : LineAt t k pre line post col) :
    LineAt ('\n' :: t) (k + 1) ([] :: pre) line post col where
  text_eq := by simp [h.text_eq, between]
  not_mem_pre := by
    intro l hl
    rcases List.mem_cons.mp hl with rfl | hl
    · simp
    · exact h.not_mem_pre l hl
  not_mem_line := h.not_mem_line
  not_mem_post := h.not_mem_post
  offset_eq := by
    rw [linesLength_cons, h.offset_eq, List.length_nil]
    omega
  col_le := h.col_le

/-- Any other character in front lengthens the first line. -/
lemma exists_cons {c : Char} (h : LineAt t k pre line post col) (hc : c ≠ '\n') :
    ∃ pre' line' col', LineAt (c :: t) (k + 1) pre' line' post col' := by
  have hoff := h.offset_eq
  cases pre with
  | nil =>
    refine ⟨[], c :: line, col + 1, by simp [h.text_eq, between], by simp, ?_, h.not_mem_post,
      ?_, Nat.succ_le_succ h.col_le⟩
    · simpa [hc.symm] using h.not_mem_line
    · rw [linesLength_nil] at hoff ⊢
      omega
  | cons l pre =>
    refine ⟨(c :: l) :: pre, line, col, by simp [h.text_eq, between], ?_, h.not_mem_line,
      h.not_mem_post, ?_, h.col_le⟩
    · intro l' hl'
      rcases List.mem_cons.mp hl' with rfl | hl'
      · simpa [hc.symm] using h.not_mem_pre l (by simp)
      · exact h.not_mem_pre l' (by simp [hl'])
    · rw [linesLength_cons] at hoff ⊢
      rw [List.length_cons]
      omega

lemma exists_front (h : LineAt t k pre line post col) :
    ∃ line' post', LineAt t 0 [] line' post' 0 := by
  cases pre with
  | nil => exact ⟨line, post, h.column (Nat.zero_le _)⟩
  | cons l pre =>
    have h : LineAt t k ([] ++ l :: pre) line post col := h
    exact ⟨l, pre ++ line :: post, h.earlier (Nat.zero_le _)⟩

end LineAt

/-- Every offset of a text is in some column of some line. -/
lemma exists_lineAt {t : Text} {k : Nat} (hk : k ≤ t.length) :
    ∃ pre line post col, LineAt t k pre line post col := by
  induction t generalizing k with
  | nil =>
    have hk : k = 0 := by simpa using hk
    exact ⟨[], [], [], 0, rfl, by simp, by simp, by simp, by simpa using hk, by simp⟩
  | cons c t ih =>
    -- The cut one offset before, in the rest; for offset zero the front of the next one is taken.
    obtain ⟨pre, line, post, col, h⟩ := ih (k := k - 1) (by rw [List.length_cons] at hk; omega)
    have hsucc : ∃ pre line post col, LineAt (c :: t) (k - 1 + 1) pre line post col := by
      by_cases hc : c = '\n'
      · subst hc
        exact ⟨_, _, _, _, h.cons_newline⟩
      · obtain ⟨pre', line', col', h'⟩ := h.exists_cons hc
        exact ⟨_, _, _, _, h'⟩
    cases k with
    | zero =>
      obtain ⟨pre, line, post, col, h⟩ := hsucc
      obtain ⟨line', post', h'⟩ := h.exists_front
      exact ⟨_, _, _, _, h'⟩
    | succ k => exact hsucc

/-! ### What the cut tells -/

namespace LineAt

variable {t : Text} {k : Nat} {pre : List Text} {line : Text} {post : List Text} {col : Nat}

lemma length_eq (h : LineAt t k pre line post col) :
    t.length = linesLength pre + line.length + linesLength post := by
  rw [h.text_eq, between, List.length_append, List.length_append, length_flatMap_newline,
    length_flatMap_newline_cons, Nat.add_assoc]

lemma lines_eq (h : LineAt t k pre line post col) : t.lines = pre ++ line :: post := by
  rw [h.text_eq, between, lines_flatMap_append h.not_mem_pre,
    lines_append_flatMap h.not_mem_line h.not_mem_post]

lemma take_eq (h : LineAt t k pre line post col) :
    t.take k = pre.flatMap (· ++ ['\n']) ++ line.take col := by
  rw [h.text_eq, between, h.offset_eq, List.take_append, length_flatMap_newline,
    List.take_of_length_le (by rw [length_flatMap_newline]; omega), Nat.add_sub_cancel_left,
    List.take_append_of_le_length h.col_le]

lemma drop_eq (h : LineAt t k pre line post col) :
    t.drop k = line.drop col ++ post.flatMap ('\n' :: ·) := by
  rw [h.text_eq, between, h.offset_eq, List.drop_append, length_flatMap_newline,
    List.drop_of_length_le (by rw [length_flatMap_newline]; omega), Nat.add_sub_cancel_left,
    List.drop_append_of_le_length h.col_le, List.nil_append]

lemma lineCol_eq (h : LineAt t k pre line post col) : t.lineCol k = ⟨pre.length, col⟩ := by
  have hline : '\n' ∉ line.take col := fun hm => h.not_mem_line (List.mem_of_mem_take hm)
  rw [lineCol, h.take_eq, List.foldl_append, foldl_step_lines h.not_mem_pre,
    foldl_step_of_not_mem hline, List.length_take, Nat.min_eq_left h.col_le, Nat.zero_add,
    Nat.zero_add]

lemma lineBefore_eq (h : LineAt t k pre line post col) : t.lineBefore k = line.take col := by
  have hline : ∀ c ∈ (line.take col).reverse, decide (c ≠ '\n') = true := by
    intro c hc
    have hmem := List.mem_of_mem_take (List.mem_reverse.mp hc)
    exact decide_eq_true fun heq => h.not_mem_line (heq ▸ hmem)
  have hpre : ((pre.flatMap (· ++ ['\n'])).reverse).takeWhile (· ≠ '\n') = [] := by
    rcases List.eq_nil_or_concat pre with rfl | ⟨pre', l, rfl⟩
    · rfl
    · simp
  rw [lineBefore, h.take_eq, List.reverse_append, List.takeWhile_append_of_pos hline, hpre,
    List.append_nil, List.reverse_reverse]

lemma lineStart_eq (h : LineAt t k pre line post col) : t.lineStart k = linesLength pre := by
  have hlen : ((t.take k).reverse.takeWhile (· ≠ '\n')).length = col := by
    have := congrArg List.length h.lineBefore_eq
    rw [lineBefore, List.length_reverse, List.length_take, Nat.min_eq_left h.col_le] at this
    exact this
  have := h.offset_eq
  rw [lineStart, hlen]
  omega

lemma lineEnd_eq (h : LineAt t k pre line post col) :
    t.lineEnd k = linesLength pre + line.length := by
  have hline : ∀ c ∈ line.drop col, decide (c ≠ '\n') = true := by
    intro c hc
    have hmem := List.mem_of_mem_drop hc
    exact decide_eq_true fun heq => h.not_mem_line (heq ▸ hmem)
  have hpost : (post.flatMap ('\n' :: ·)).takeWhile (· ≠ '\n') = [] := by
    cases post <;> simp
  have := h.offset_eq
  have := h.col_le
  rw [lineEnd, h.drop_eq, List.takeWhile_append_of_pos hline, hpost, List.append_nil,
    List.length_drop]
  omega

lemma offsetInLines_eq (pre : List Text) (line : Text) (post : List Text) (c : Nat) :
    offsetInLines c (pre ++ line :: post) pre.length = linesLength pre + min c line.length := by
  induction pre with
  | nil => simp [offsetInLines]
  | cons l pre ih =>
    rw [List.cons_append, List.length_cons, offsetInLines, ih, linesLength_cons]
    · omega
    · simp

lemma offsetAt_eq (h : LineAt t k pre line post col) (c : Nat) :
    t.offsetAt pre.length c = linesLength pre + min c line.length := by
  rw [offsetAt, h.lines_eq, offsetInLines_eq]

end LineAt

/-! ### Neighbouring lines -/

lemma lineStart_eq_zero_iff {t : Text} {k : Nat} (hk : k ≤ t.length) :
    t.lineStart k = 0 ↔ (t.lineCol k).line = 0 := by
  obtain ⟨pre, line, post, col, h⟩ := exists_lineAt hk
  rw [h.lineStart_eq, h.lineCol_eq]
  cases pre with
  | nil => simp
  | cons l pre =>
    simp only [linesLength_cons, List.length_cons]
    omega

lemma lineEnd_eq_length_iff {t : Text} {k : Nat} (hk : k ≤ t.length) :
    t.lineEnd k = t.length ↔ ¬ (t.lineCol k).line < t.lines.length - 1 := by
  obtain ⟨pre, line, post, col, h⟩ := exists_lineAt hk
  rw [h.lineEnd_eq, h.lineCol_eq, h.lines_eq, h.length_eq]
  cases post with
  | nil => simp
  | cons l post =>
    simp only [linesLength_cons, List.length_append, List.length_cons]
    omega

/-- A column of the line above, counted from where that line begins. -/
lemma offsetAt_above {t : Text} {k : Nat} (hk : k ≤ t.length) (h : t.lineStart k ≠ 0) (c : Nat) :
    t.offsetAt ((t.lineCol k).line - 1) c =
      min (t.lineStart (t.lineStart k - 1) + c) (t.lineStart k - 1) := by
  obtain ⟨pre, line, post, col, hat⟩ := exists_lineAt hk
  rcases List.eq_nil_or_concat pre with rfl | ⟨pre, l, rfl⟩
  · exact absurd hat.lineStart_eq h
  · rw [List.concat_eq_append] at hat
    have habove := hat.earlier (Nat.le_refl l.length)
    have hend : t.lineStart k - 1 = linesLength pre + l.length := by
      rw [hat.lineStart_eq]
      simp only [linesLength_append, linesLength_cons, linesLength_nil]
      omega
    have hnum : (t.lineCol k).line - 1 = pre.length := by
      rw [hat.lineCol_eq]
      simp
    rw [hend, hnum, habove.offsetAt_eq, habove.lineStart_eq]
    omega

/-- A column of the line below, counted from where that line begins. -/
lemma offsetAt_below {t : Text} {k : Nat} (hk : k ≤ t.length) (h : t.lineEnd k ≠ t.length)
    (c : Nat) :
    t.offsetAt ((t.lineCol k).line + 1) c =
      min (t.lineEnd k + 1 + c) (t.lineEnd (t.lineEnd k + 1)) := by
  obtain ⟨pre, line, post, col, hat⟩ := exists_lineAt hk
  cases post with
  | nil =>
    rw [hat.lineEnd_eq, hat.length_eq] at h
    exact absurd (by simp) h
  | cons l post =>
    have hbelow := hat.next (Nat.zero_le l.length)
    have hstart : linesLength pre + (line.length + 1) + 0 = t.lineEnd k + 1 := by
      rw [hat.lineEnd_eq]
      omega
    have hnum : (t.lineCol k).line + 1 = (pre ++ [line]).length := by
      rw [hat.lineCol_eq]
      simp
    have hlen : linesLength (pre ++ [line]) = t.lineEnd k + 1 := by
      rw [hat.lineEnd_eq]
      simp only [linesLength_append, linesLength_cons, linesLength_nil]
      omega
    rw [hstart] at hbelow
    rw [hnum, hbelow.offsetAt_eq, hbelow.lineEnd_eq, hlen]
    omega

/-- The end of the line that holds an offset, by its number. -/
lemma offsetAt_lineEnd {t : Text} {k c : Nat} (hk : k ≤ t.length) (hc : t.length ≤ c) :
    t.offsetAt (t.lineCol k).line c = t.lineEnd k := by
  obtain ⟨pre, line, post, col, h⟩ := exists_lineAt hk
  have hlen := h.length_eq
  rw [h.lineCol_eq, h.offsetAt_eq, h.lineEnd_eq]
  omega

/-- A line and a column tell a place in a text apart from all others. -/
lemma offsetAt_lineCol {t : Text} {k : Nat} (hk : k ≤ t.length) :
    t.offsetAt (t.lineCol k).line (t.lineCol k).col = k := by
  obtain ⟨pre, line, post, col, h⟩ := exists_lineAt hk
  rw [h.lineCol_eq, h.offsetAt_eq, Nat.min_eq_left h.col_le, ← h.offset_eq]

lemma col_eq_sub_lineStart {t : Text} {k : Nat} (hk : k ≤ t.length) :
    (t.lineCol k).col = k - t.lineStart k := by
  obtain ⟨pre, line, post, col, h⟩ := exists_lineAt hk
  have := h.offset_eq
  rw [h.lineCol_eq, h.lineStart_eq]
  simp only
  omega

lemma lineStart_le (t : Text) (k : Nat) : t.lineStart k ≤ k := Nat.sub_le _ _

lemma lineEnd_le {t : Text} {k : Nat} (hk : k ≤ t.length) : t.lineEnd k ≤ t.length := by
  obtain ⟨pre, line, post, col, h⟩ := exists_lineAt hk
  rw [h.lineEnd_eq, h.length_eq]
  omega

/-- The part of a line before an offset is what there is from the start of the line on. -/
lemma lineBefore_eq_drop {t : Text} {k : Nat} (hk : k ≤ t.length) :
    t.lineBefore k = (t.take k).drop (t.lineStart k) := by
  obtain ⟨pre, line, post, col, h⟩ := exists_lineAt hk
  rw [h.lineBefore_eq, h.lineStart_eq, h.take_eq, ← length_flatMap_newline, List.drop_left]

/-! ### Lines by their numbers -/

/-- The lines are what is left of a text when it is split at its newlines. -/
lemma lines_eq_splitOn (t : Text) : t.lines = t.splitOn '\n' := by
  have hfirst : ∀ (c : Char) (ls : List Text), ls ≠ [] →
      consToFirst c ls = ls.modifyHead (c :: ·) := by
    intro c ls hls
    cases ls with
    | nil => exact absurd rfl hls
    | cons l ls => rfl
  induction t with
  | nil => rfl
  | cons c t ih =>
    rw [lines, hfirst c _ (lines_ne_nil t), ih, List.splitOn_eq_splitOnP,
      List.splitOn_eq_splitOnP, List.splitOnP_cons_eq_if_modifyHead]
    simp only [beq_iff_eq]

/-- The first column of a line, given the number of the line. -/
lemma exists_lineAt_front {t : Text} {i : Nat} (hi : i < t.lines.length) :
    ∃ pre line post, pre.length = i ∧ LineAt t (linesLength pre) pre line post 0 := by
  induction i with
  | zero =>
    obtain ⟨pre, line, post, col, h⟩ := exists_lineAt (Nat.zero_le t.length)
    obtain ⟨line', post', h'⟩ := h.exists_front
    exact ⟨[], line', post', rfl, h'⟩
  | succ i ih =>
    obtain ⟨pre, line, post, rfl, h⟩ := ih (by omega)
    cases post with
    | nil =>
      rw [h.lines_eq, List.length_append] at hi
      exact absurd hi (by simp)
    | cons l post =>
      exact ⟨pre ++ [line], l, post, by simp, by simpa using h.next (Nat.zero_le l.length)⟩

/-- A line with its number and the lines before it. -/
lemma exists_lineAt_getElem? {t : Text} {i : Nat} {line : Text} (h : t.lines[i]? = some line) :
    ∃ post, LineAt t (linesLength (t.lines.take i)) (t.lines.take i) line post 0 := by
  obtain ⟨pre, l, post, rfl, hat⟩ := exists_lineAt_front (List.getElem?_eq_some_iff.mp h).1
  have hpre : t.lines.take pre.length = pre := by rw [hat.lines_eq, List.take_left]
  have hline : l = line := by simpa [hat.lines_eq] using h
  subst hline
  rw [hpre]
  exact ⟨post, hat⟩

lemma newline_not_mem_of_mem_lines {t l : Text} (h : l ∈ t.lines) : '\n' ∉ l := by
  obtain ⟨i, hi⟩ := List.mem_iff_getElem?.mp h
  obtain ⟨post, hat⟩ := exists_lineAt_getElem? hi
  exact hat.not_mem_line

lemma subset_of_mem_lines {t l : Text} (h : l ∈ t.lines) : l ⊆ t := by
  obtain ⟨i, hi⟩ := List.mem_iff_getElem?.mp h
  obtain ⟨post, hat⟩ := exists_lineAt_getElem? hi
  intro c hc
  rw [hat.text_eq]
  simp [between, hc]

/-- Each newline ends a line, and one more line comes after the last. -/
lemma length_lines (t : Text) : t.lines.length = t.count '\n' + 1 := by
  have hfirst : ∀ (c : Char) (ls : List Text), ls ≠ [] →
      (consToFirst c ls).length = ls.length := by
    intro c ls hls
    cases ls with
    | nil => exact absurd rfl hls
    | cons l ls => rfl
  induction t with
  | nil => rfl
  | cons c t ih =>
    rw [lines]
    split
    · next hc => rw [List.length_cons, ih, hc, List.count_cons_self]
    · next hc => rw [hfirst c _ (lines_ne_nil t), ih, List.count_cons_of_ne hc]

section

variable {t : Text} {i : Nat} {line : Text} (h : t.lines[i]? = some line)

include h

lemma length_take_lines : (t.lines.take i).length = i := by
  have := (List.getElem?_eq_some_iff.mp h).1
  rw [List.length_take]
  omega

lemma offsetAt_eq_linesLength (c : Nat) :
    t.offsetAt i c = linesLength (t.lines.take i) + min c line.length := by
  obtain ⟨post, hat⟩ := exists_lineAt_getElem? h
  have hoff := hat.offsetAt_eq c
  rwa [length_take_lines h] at hoff

/-- A place in a text is found again from its offset. -/
lemma lineCol_offsetAt (c : Nat) : t.lineCol (t.offsetAt i c) = ⟨i, min c line.length⟩ := by
  obtain ⟨post, hat⟩ := exists_lineAt_getElem? h
  have hcol := (hat.column (Nat.min_le_right c line.length)).lineCol_eq
  rwa [← offsetAt_eq_linesLength h, length_take_lines h] at hcol

lemma linesLength_take_add_le : linesLength (t.lines.take i) + line.length ≤ t.length := by
  obtain ⟨post, hat⟩ := exists_lineAt_getElem? h
  rw [hat.length_eq]
  omega

end

end Text

end CodePad
