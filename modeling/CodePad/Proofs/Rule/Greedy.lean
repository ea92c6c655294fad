import CodePad.Proofs.Rule.Matches
import CodePad.Proofs.Text.Boundary

/-!
The tokens of a rule are found greedily. The scan asks again and again for the match that begins
first, and one that takes no characters only makes it go on by a character. The tokens are therefore
told by the matches alone: each is the first match that takes characters and begins no sooner than
the token before it ends. The scan comes to an end after at most one search for each character and
one more, and it never cuts a character.
-/

namespace CodePad

namespace Place

variable {p q : Place} {before t : Text} {c : Char}

/-- Of two places in a text, the one with no more bytes in front of it comes no later. -/
lemma exists_before_eq (htext : q.text = p.text)
    (hle : Text.byteLength p.before ≤ Text.byteLength q.before) :
    ∃ w, q.before = w.reverse ++ p.before ∧ p.after = w ++ q.after := by
  have hprefix : p.before.reverse <+: q.before.reverse := by
    refine Text.prefix_of_byteLength_le (List.prefix_append _ p.after) ?_ (by simpa using hle)
    exact ⟨q.after, htext⟩
  obtain ⟨w, hw⟩ := hprefix
  have hafter : p.before.reverse ++ (w ++ q.after) = p.before.reverse ++ p.after := by
    rw [← List.append_assoc, hw]
    exact htext
  refine ⟨w, ?_, (List.append_cancel_left hafter).symm⟩
  rw [← List.reverse_inj, ← hw]
  simp

/-- A place in a text that does not come before another is that place or comes after the next
character. -/
lemma eq_or_byteLength_le (htext : q.text = p.text)
    (hle : Text.byteLength p.before ≤ Text.byteLength q.before) :
    q = p ∨ ∃ c t, p.after = c :: t ∧
      Text.byteLength (c :: p.before) ≤ Text.byteLength q.before := by
  obtain ⟨w, hbefore, hafter⟩ := exists_before_eq htext hle
  cases w with
  | nil =>
    left
    obtain ⟨qbefore, qafter⟩ := q
    simp only [List.reverse_nil, List.nil_append] at hbefore hafter
    rw [hbefore, ← hafter]
  | cons c w =>
    right
    refine ⟨c, w ++ q.after, hafter, ?_⟩
    rw [hbefore]
    simp only [List.reverse_cons, Text.byteLength_append, Text.byteLength_cons,
      Text.byteLength_nil]
    omega

@[simp] lemma text_cons (before t : Text) (c : Char) :
    text ⟨c :: before, t⟩ = text ⟨before, c :: t⟩ := by simp [text]

lemma ofByte?_byteLength (p : Place) : ofByte? p.text (Text.byteLength p.before) = some p := by
  have hlen : ¬ Text.byteLength p.text < Text.byteLength p.before := by
    rw [text, Text.byteLength_append, Text.byteLength_reverse]
    omega
  rw [ofByte?, if_neg hlen, text, ← Text.byteLength_reverse p.before, Text.takeBytes_append,
    Text.dropBytes_append, List.reverse_reverse]

lemma exists_of_isBoundary {text : Text} {pos : Nat} (h : text.IsBoundary pos) :
    ∃ p : Place, p.text = text ∧ Text.byteLength p.before = pos := by
  obtain ⟨i, -, rfl⟩ := h
  refine ⟨⟨(text.take i).reverse, text.drop i⟩, ?_, ?_⟩
  · simp [Place.text]
  · rw [Text.byteLength_reverse, Text.byteAt]

lemma slice?_after (p : Place) :
    p.text.slice? (Text.byteLength p.before) (Text.byteLength p.text) = some p.after := by
  have h := Text.slice?_append p.before.reverse p.after []
  rwa [List.append_nil, Text.byteLength_reverse] at h

end Place

namespace Match

/-- The bytes that a match spans. -/
def bytes (f : Match) : Nat × Nat := (f.start, f.stop)

lemma stop_eq (f : Match) : f.stop = Text.byteLength f.rest.before := by
  rw [rest, Place.advance_mk, Text.byteLength_append, Text.byteLength_reverse, stop, start,
    Nat.add_comm]
  rfl

lemma start_lt_stop_iff {f : Match} (h : f.length ≤ f.place.after.length) :
    f.start < f.stop ↔ 0 < f.length := by
  have hiff : f.text = [] ↔ f.length = 0 := by
    rw [text, List.take_eq_nil_iff]
    refine ⟨?_, Or.inl⟩
    rintro (h0 | h0)
    · exact h0
    · rw [h0] at h
      exact Nat.le_zero.mp h
  have hzero := (Text.byteLength_eq_zero (t := f.text)).trans hiff
  rw [stop]
  omega

lemma slice?_text (f : Match) : f.place.text.slice? f.start f.stop = some f.text := by
  have h := Text.slice?_append f.place.before.reverse f.text (f.place.after.drop f.length)
  rw [text, List.take_append_drop, Text.byteLength_append, Text.byteLength_reverse] at h
  exact h

end Match

namespace Matcher

variable (m : Matcher) {text : Text} {pos start stop : Nat}

/-- In a text a match begins at the byte `start` and ends at the byte `stop`. -/
def MatchAt (text : Text) (start stop : Nat) : Prop :=
  ∃ f : Match, f.place.text = text ∧ m.lengthAt f.place = some f.length ∧ f.bytes = (start, stop)

/-- Of the matches in a text that begin at the byte `pos` or later, the one from `start` to `stop`
begins first. -/
def IsFirst (text : Text) (pos start stop : Nat) : Prop :=
  pos ≤ start ∧ m.MatchAt text start stop ∧
    ∀ s e, pos ≤ s → s < start → ¬ m.MatchAt text s e

/-- The spans chosen greedily from the matches in a text: each is the first match that begins at the
byte `pos` or later and takes characters, and those after it begin no sooner than it ends. -/
inductive Greedy (text : Text) : Nat → List (Nat × Nat) → Prop where
  | done {pos : Nat} (none : ∀ s e, pos ≤ s → s < e → ¬ m.MatchAt text s e) : Greedy text pos []
  | next {pos start stop : Nat} {spans : List (Nat × Nat)} (le : pos ≤ start) (lt : start < stop)
      (here : m.MatchAt text start stop)
      (first : ∀ s e, pos ≤ s → s < start → s < e → ¬ m.MatchAt text s e)
      (rest : Greedy text stop spans) : Greedy text pos ((start, stop) :: spans)

variable {m}

/-! ### Matches by their bytes -/

lemma matchAt_of_lengthAt {p : Place} {n : Nat} (h : m.lengthAt p = some n) :
    m.MatchAt p.text (Match.start ⟨p, n⟩) (Match.stop ⟨p, n⟩) := ⟨⟨p, n⟩, rfl, h, rfl⟩

/-- A match that does not begin before a place begins there or after the next character. -/
lemma MatchAt.cases {p : Place} (h : m.MatchAt p.text start stop)
    (hle : Text.byteLength p.before ≤ start) :
    (∃ n, m.lengthAt p = some n ∧ Match.bytes ⟨p, n⟩ = (start, stop)) ∨
      ∃ c t, p.after = c :: t ∧ Text.byteLength (c :: p.before) ≤ start := by
  obtain ⟨⟨q, n⟩, htext, hlength, hbytes⟩ := h
  obtain ⟨rfl, -⟩ := Prod.mk.inj hbytes
  rcases Place.eq_or_byteLength_le htext hle with rfl | hnext
  · exact Or.inl ⟨n, hlength, hbytes⟩
  · exact Or.inr hnext

/-- Where a match ends depends only on the text and on where it begins. -/
lemma MatchAt.stop_unique {stop' : Nat} (h : m.MatchAt text start stop)
    (h' : m.MatchAt text start stop') : stop = stop' := by
  obtain ⟨⟨p, n⟩, rfl, hlength, hbytes⟩ := h
  obtain ⟨rfl, rfl⟩ := Prod.mk.inj hbytes
  rcases h'.cases (Nat.le_refl _) with ⟨k, hk, hbytes'⟩ | ⟨c, t, -, hle⟩
  · obtain rfl : n = k := Option.some.inj (hlength.symm.trans hk)
    exact (Prod.mk.inj hbytes').2
  · have := c.utf8Size_pos
    rw [Text.byteLength_cons] at hle
    simp only [Match.start] at hle
    omega

/-! ### Searching -/

/-- Where there is a match, no other begins first. -/
lemma isFirst_iff_of_lengthAt {p : Place} {n : Nat} (h : m.lengthAt p = some n) :
    m.IsFirst p.text (Text.byteLength p.before) start stop ↔
      Match.bytes ⟨p, n⟩ = (start, stop) := by
  have hhere := matchAt_of_lengthAt h
  constructor
  · rintro ⟨hle, hmatch, hfirst⟩
    rcases hmatch.cases hle with ⟨k, hk, hbytes⟩ | ⟨c, t, -, hlt⟩
    · obtain rfl : n = k := Option.some.inj (h.symm.trans hk)
      exact hbytes
    · have := c.utf8Size_pos
      rw [Text.byteLength_cons] at hlt
      have hbefore : Text.byteLength p.before < start := by omega
      exact absurd hhere (hfirst _ _ (Nat.le_refl _) hbefore)
  · intro hbytes
    obtain ⟨rfl, rfl⟩ := Prod.mk.inj hbytes
    exact ⟨Nat.le_refl _, hhere, fun s e hle hlt => absurd hlt (Nat.not_lt.mpr hle)⟩

/-- Where there is none, the first match is looked for after the next character. -/
lemma isFirst_iff_of_none {before t : Text} {c : Char} (h : m.lengthAt ⟨before, c :: t⟩ = none) :
    m.IsFirst (Place.text ⟨before, c :: t⟩) (Text.byteLength before) start stop ↔
      m.IsFirst (Place.text ⟨before, c :: t⟩) (Text.byteLength (c :: before)) start stop := by
  have hnext : ∀ s e, Text.byteLength before ≤ s → m.MatchAt (Place.text ⟨before, c :: t⟩) s e →
      Text.byteLength (c :: before) ≤ s := by
    intro s e hle hmatch
    rcases hmatch.cases hle with ⟨n, hn, -⟩ | ⟨d, u, hafter, hlt⟩
    · rw [h] at hn
      cases hn
    · obtain ⟨rfl, -⟩ := List.cons.inj hafter
      exact hlt
  have hle : Text.byteLength before ≤ Text.byteLength (c :: before) := Nat.le_add_left _ _
  constructor
  · rintro ⟨hpos, hmatch, hfirst⟩
    exact ⟨hnext _ _ hpos hmatch, hmatch, fun s e hs => hfirst s e (Nat.le_trans hle hs)⟩
  · rintro ⟨hpos, hmatch, hfirst⟩
    exact ⟨Nat.le_trans hle hpos, hmatch, fun s e hs hlt hm => hfirst s e (hnext s e hs hm) hlt hm⟩

/-- The search from a place on finds the match that begins first. -/
lemma map_bytes_search (p : Place) (start stop : Nat) :
    (m.search p.before p.after).map Match.bytes = some (start, stop) ↔
      m.IsFirst p.text (Text.byteLength p.before) start stop := by
  obtain ⟨before, after⟩ := p
  induction after generalizing before with
  | nil =>
    rw [search]
    cases h : m.lengthAt ⟨before, []⟩ with
    | none =>
      refine iff_of_false (by simp) ?_
      rintro ⟨hle, hmatch, -⟩
      rcases hmatch.cases hle with ⟨n, hn, -⟩ | ⟨c, t, hafter, -⟩
      · rw [h] at hn
        cases hn
      · cases hafter
    | some n =>
      rw [isFirst_iff_of_lengthAt h]
      exact Option.some_inj
  | cons c t ih =>
    rw [search]
    cases h : m.lengthAt ⟨before, c :: t⟩ with
    | none =>
      rw [isFirst_iff_of_none h, ← Place.text_cons]
      exact ih (c :: before)
    | some n =>
      rw [isFirst_iff_of_lengthAt h]
      exact Option.some_inj

/-- The match that a search finds lies in the text. -/
lemma of_search_eq_some {p : Place} {f : Match} (h : m.search p.before p.after = some f) :
    f.place.text = p.text ∧ m.lengthAt f.place = some f.length := by
  obtain ⟨before, after⟩ := p
  induction after generalizing before with
  | nil =>
    rw [search, Option.map_eq_some_iff] at h
    obtain ⟨n, hn, rfl⟩ := h
    exact ⟨rfl, hn⟩
  | cons c t ih =>
    rw [search] at h
    split at h
    · next n hn =>
      obtain rfl := Option.some.inj h
      exact ⟨rfl, hn⟩
    · rw [← Place.text_cons]
      exact ih (c :: before) h

lemma find?_text (p : Place) :
    m.find? p.text (Text.byteLength p.before) = m.search p.before p.after := by
  rw [find?, Place.ofByte?_byteLength, Option.bind_some]

/-! ### Choosing greedily -/

namespace Greedy

variable {spans : List (Nat × Nat)}

/-- Places where no match takes characters may be put in front. -/
lemma of_le {pos' : Nat} (h : m.Greedy text pos' spans) (hle : pos ≤ pos')
    (hnone : ∀ s e, pos ≤ s → s < e → m.MatchAt text s e → pos' ≤ s) : m.Greedy text pos spans := by
  cases h with
  | done none => exact .done fun s e hs hlt hm => none s e (hnone s e hs hlt hm) hlt hm
  | next le lt here first rest =>
    exact .next (Nat.le_trans hle le) lt here
      (fun s e hs hlt he hm => first s e (hnone s e hs he hm) hlt he hm) rest

/-- There is only one way to choose greedily. -/
lemma unique {spans' : List (Nat × Nat)} (h : m.Greedy text pos spans)
    (h' : m.Greedy text pos spans') : spans = spans' := by
  induction h generalizing spans' with
  | done none =>
    cases h' with
    | done => rfl
    | next le lt here => exact absurd here (none _ _ le lt)
  | @next pos start stop spans le lt here first rest ih =>
    cases h' with
    | done none => exact absurd here (none _ _ le lt)
    | @next _ start' stop' _ le' lt' here' first' rest' =>
      obtain hlt | rfl | hgt := Nat.lt_trichotomy start start'
      · exact absurd here (first' _ _ le hlt lt)
      · obtain rfl := here.stop_unique here'
        rw [ih rest']
      · exact absurd here' (first _ _ le' hgt lt')

/-- A match that takes characters begins inside a span that is chosen. -/
lemma exists_mem (h : m.Greedy text pos spans) {s e : Nat} (hs : pos ≤ s) (hlt : s < e)
    (hm : m.MatchAt text s e) : ∃ r ∈ spans, r.1 ≤ s ∧ s < r.2 := by
  induction h with
  | done none => exact absurd hm (none s e hs hlt)
  | @next pos start stop spans le lt here first rest ih =>
    rcases Nat.lt_or_ge s start with hbefore | hstart
    · exact absurd hm (first s e hs hbefore hlt)
    · rcases Nat.lt_or_ge s stop with hinside | hstop
      · exact ⟨(start, stop), List.mem_cons_self, hstart, hinside⟩
      · obtain ⟨r, hr, hspan⟩ := ih hstop
        exact ⟨r, List.mem_cons_of_mem _ hr, hspan⟩

lemma bounds (h : m.Greedy text pos spans) {r : Nat × Nat} (hr : r ∈ spans) :
    pos ≤ r.1 ∧ r.1 < r.2 := by
  induction h with
  | done => exact absurd hr List.not_mem_nil
  | next le lt here first rest ih =>
    rcases List.mem_cons.mp hr with rfl | hr
    · exact ⟨le, lt⟩
    · obtain ⟨hstop, hlt⟩ := ih hr
      exact ⟨by omega, hlt⟩

lemma pairwise (h : m.Greedy text pos spans) :
    spans.Pairwise fun r r' => r.1 < r'.1 ∧ r.2 ≤ r'.1 := by
  induction h with
  | done => exact List.Pairwise.nil
  | next le lt here first rest ih =>
    refine List.Pairwise.cons (fun r hr => ?_) ih
    obtain ⟨hstop, -⟩ := rest.bounds hr
    exact ⟨by omega, hstop⟩

end Greedy

/-- The scan from a place on chooses greedily. -/
lemma greedy_findFrom (p : Place) :
    m.Greedy p.text (Text.byteLength p.before) ((m.findFrom p).map Match.bytes) := by
  refine m.findFrom_induction
    (motive := fun p fs => m.Greedy p.text (Text.byteLength p.before) (fs.map Match.bytes))
    ?_ ?_ ?_ p
  · -- At the end of the text a match takes no character.
    intro before
    refine .done fun s e hs hlt hm => ?_
    rcases hm.cases hs with ⟨n, hn, hbytes⟩ | ⟨c, t, hafter, -⟩
    · have hle := m.lengthAt_le hn
      obtain ⟨rfl, rfl⟩ := Prod.mk.inj hbytes
      exact absurd ((Match.start_lt_stop_iff hle).mp hlt) (Nat.not_lt.mpr hle)
    · cases hafter
  · intro p n fs hn ih
    have hlt := (Match.start_lt_stop_iff (f := ⟨p, n + 1⟩) (m.lengthAt_le hn)).mpr (Nat.succ_pos n)
    refine .next (Nat.le_refl _) hlt (matchAt_of_lengthAt hn)
      (fun s e hle hlt => absurd hlt (Nat.not_lt.mpr hle)) ?_
    rw [Match.stop_eq, ← Place.text_advance (n + 1) p]
    exact ih
  · -- No match that takes characters begins here, so none is passed over.
    intro before c t fs hnone ih
    rw [Place.text_cons] at ih
    refine ih.of_le (Nat.le_add_left _ _) fun s e hs hlt hm => ?_
    rcases hm.cases hs with ⟨n, hn, hbytes⟩ | ⟨d, u, hafter, hle⟩
    · obtain ⟨rfl, rfl⟩ := Prod.mk.inj hbytes
      obtain ⟨k, rfl⟩ := Nat.exists_eq_succ_of_ne_zero
        (Nat.ne_of_gt ((Match.start_lt_stop_iff (m.lengthAt_le hn)).mp hlt))
      exact absurd hn (hnone k)
    · obtain ⟨rfl, -⟩ := List.cons.inj hafter
      exact hle

end Matcher

namespace Rule

variable (r : Rule)

/-- The tokens of the rule from the byte `pos` on, found by `rounds` searches at most. It fails if
there are more to make, and where a slice of the text would cut a character. -/
def tokens? (text : Text) : (rounds : Nat) → (pos : Nat) → Option (List Token)
  | 0, _ => none
  | rounds + 1, pos =>
    match r.matcher.find? text pos with
    | none => some []
    | some f =>
      if f.start < f.stop then do
        let shown ← text.slice? f.start f.stop
        let rest ← tokens? text rounds f.stop
        some (⟨f.start, f.stop, r.kind, shown⟩ :: rest)
      else do
        match ← text.slice? f.start text.byteLength with
        | [] => some []
        | c :: _ => tokens? text rounds (f.start + c.utf8Size)

/-- From a place on, one search for each character and one more are enough. -/
lemma tokens?_eq {rounds : Nat} {p : Place} (h : p.after.length < rounds) :
    r.tokens? p.text rounds (Text.byteLength p.before) =
      some ((r.matcher.findFrom p).map r.token) := by
  induction rounds generalizing p with
  | zero => exact absurd h (Nat.not_lt_zero _)
  | succ rounds ih =>
    rw [tokens?, Matcher.find?_text, Matcher.findFrom_eq]
    cases hsearch : r.matcher.search p.before p.after with
    | none => rfl
    | some f =>
      obtain ⟨htext, hlength⟩ := Matcher.of_search_eq_some hsearch
      have hshorter := Matcher.length_after_search hsearch
      have hle := r.matcher.lengthAt_le hlength
      have hlt := Match.start_lt_stop_iff hle
      simp only
      rw [← htext]
      by_cases hpos : 0 < f.length
      · -- a match that takes characters: it is noted, and the search goes on from its end
        have hafter : f.place.after ≠ [] := List.ne_nil_of_length_pos (by omega)
        have hrest : r.tokens? f.rest.text rounds (Text.byteLength f.rest.before) =
            some ((r.matcher.findFrom f.rest).map r.token) :=
          ih (by rw [Match.rest, Place.length_after_advance]; omega)
        rw [Match.rest, Place.text_advance, ← Match.rest, ← Match.stop_eq] at hrest
        rw [if_pos (hlt.mpr hpos), f.slice?_text, hrest, if_neg hafter,
          if_neg (Nat.ne_of_gt hpos)]
        rfl
      · rw [if_neg (mt hlt.mp hpos), Match.start, f.place.slice?_after]
        cases hafter : f.place.after with
        | nil => rfl
        | cons c t =>
          -- the match takes none: the search goes on after the next character
          have hnext : f.place.next = ⟨c :: f.place.before, t⟩ := by rw [Place.next, hafter]
          have hrest := ih (p := f.place.next) (by
            rw [hafter, List.length_cons] at hshorter
            rw [Place.length_after_next, hafter, List.length_cons]
            omega)
          rw [Place.text_next, hnext, Text.byteLength_cons, Nat.add_comm] at hrest
          rw [if_neg (List.cons_ne_nil c t), if_pos (Nat.eq_zero_of_not_pos hpos), hnext]
          exact hrest

lemma map_bytes_tokens (text : Text) :
    (r.tokens text).map (fun t => (t.start, t.stop)) =
      (r.matcher.findAll text).map Match.bytes := by
  rw [tokens, List.map_map]
  rfl

lemma greedy_tokens (text : Text) :
    r.matcher.Greedy text 0 ((r.tokens text).map fun t => (t.start, t.stop)) := by
  have h := r.matcher.greedy_findFrom (Place.front text)
  rw [Place.text_front] at h
  rw [map_bytes_tokens]
  exact h

/-- The tokens of a rule follow one another. -/
lemma pairwise_tokens (text : Text) :
    (r.tokens text).Pairwise fun a b => a.start < b.start ∧ a.stop ≤ b.start :=
  List.pairwise_map.mp (r.greedy_tokens text).pairwise

/-- **The tokens of a rule are the matches that take characters, chosen greedily.** Each search
finds the match that begins first. The scan ends after at most one search for each character and one
more, and no slice that it takes of the text cuts a character. The tokens span the matches that are
chosen greedily, there is only one way to choose so, and each carries the characters that it spans.
Wherever a match takes characters, it begins inside a token, and the tokens follow one another. -/
theorem tokens_greedy (text : Text) :
    (∀ pos, text.IsBoundary pos → ∀ start stop,
        (r.matcher.find? text pos).map Match.bytes = some (start, stop) ↔
          r.matcher.IsFirst text pos start stop) ∧
      (∀ more, r.tokens? text (text.length + 1 + more) 0 = some (r.tokens text)) ∧
      (∀ spans, (r.tokens text).map (fun t => (t.start, t.stop)) = spans ↔
        r.matcher.Greedy text 0 spans) ∧
      (∀ t ∈ r.tokens text, t.start < t.stop ∧ t = Token.ofSlice text t.start t.stop r.kind) ∧
      (∀ s e, s < e → r.matcher.MatchAt text s e → ∃ t ∈ r.tokens text, t.start ≤ s ∧ s < t.stop) ∧
      (r.tokens text).Pairwise fun a b => a.start < b.start ∧ a.stop ≤ b.start := by
  have hgreedy := r.greedy_tokens text
  refine ⟨?_, ?_, ?_, ?_, ?_, r.pairwise_tokens text⟩
  · intro pos hpos start stop
    obtain ⟨p, rfl, rfl⟩ := Place.exists_of_isBoundary hpos
    rw [Matcher.find?_text, Matcher.map_bytes_search]
  · intro more
    have hlength : (Place.front text).after.length < text.length + 1 + more := by
      simp only [Place.front]
      omega
    have h := r.tokens?_eq hlength
    rw [Place.text_front] at h
    exact h
  · intro spans
    constructor
    · rintro rfl
      exact hgreedy
    · exact hgreedy.unique
  · intro t ht
    refine ⟨(hgreedy.bounds (List.mem_map_of_mem ht)).2, ?_⟩
    have hslice := (isSliceOf_of_mem_tokens ht).eq_ofSlice
    obtain ⟨f, -, rfl⟩ := List.mem_map.mp ht
    exact hslice
  · intro s e hlt hm
    obtain ⟨span, hspan, hle⟩ := hgreedy.exists_mem (Nat.zero_le s) hlt hm
    obtain ⟨t, ht, rfl⟩ := List.mem_map.mp hspan
    exact ⟨t, ht, hle⟩

example :
    let r : Rule := ⟨"maybe", .keyword, (Pattern.star true (.char (.single 'a'))).matcher⟩
    (r.tokens ['b', 'a', 'a', 'é', 'a']).map (fun t => (t.start, t.stop)) = [(1, 3), (5, 6)] := by
  cbv

end Rule

end CodePad
