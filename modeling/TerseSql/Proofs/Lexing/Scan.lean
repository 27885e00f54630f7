import TerseSql.Proofs.Lexing.Spelling

/-!
# Texts of any kind as tokens

A text may be read as tokens that nothing would write. If it has no comments, its tokens write it
back all the same, and the text goes on with what is put behind it if that starts with a character
which no token goes on with.
-/

namespace TerseSql.Lexing

variable {r : Rules}

structure Scans (r : Rules) (s : String) (ts : List Token) : Prop where
  scan : r.scan s = some ts
  code : ∀ c, .comment c ∉ ts

theorem Spells.scans {s : String} {ts : List Token} (h : Spells r s ts) : Scans r s ts where
  scan := h.scan
  code := fun _ hc => h.fits.writes _ hc

/-! ## Modes in a comment -/

namespace Mode

def isCode : Mode → Bool
  | line _ | block _ | blockStar _ | blockClosed _ => false
  | _ => true

end Mode

theorem isCode_opened (c : Char) : (r.opened c).isCode = true := by
  unfold Rules.opened
  split
  · rfl
  · split <;> rfl

theorem isCode_continued (hr : r.comments = false) {m m' : Mode} {c : Char} (hm : m.isCode = true)
    (h : r.continued m c = some m') : m'.isCode = true := by
  unfold Rules.continued at h
  cases m <;> simp only [hr, Bool.false_eq_true, false_and, if_false] at h
  case start => cases h
  case line | block | blockStar | blockClosed => cases hm
  all_goals
    split at h
    · cases h
      rfl
    · cases h <;> rfl

theorem not_isCode_continued {m m' : Mode} {c : Char} (hm : m.isCode = false)
    (h : r.continued m c = some m') : m'.isCode = false := by
  unfold Rules.continued at h
  cases m with
  | line read =>
    dsimp only at h
    split at h
    · cases h
    · cases h
      rfl
  | block read =>
    dsimp only at h
    split at h <;> cases h <;> rfl
  | blockStar read =>
    dsimp only at h
    split at h
    · cases h
      rfl
    · split at h <;> cases h <;> rfl
  | blockClosed read => cases h
  | _ => cases hm

theorem exists_comment_of_finish {m : Mode} (hm : m.isCode = false) {ts : List Token}
    (h : m.finish = some ts) : ∃ s, .comment s ∈ ts := by
  cases m with
  | line read | blockClosed read =>
    cases h
    exact ⟨_, List.mem_singleton_self _⟩
  | block _ | blockStar _ => cases h
  | _ => cases hm

/-- What is read from within a comment has that comment in it. -/
theorem exists_comment {m : Mode} (hm : m.isCode = false) {cs : List Char} {ts : List Token}
    (h : r.tokensFrom m cs = some ts) : ∃ s, .comment s ∈ ts := by
  induction cs generalizing m with
  | nil => exact exists_comment_of_finish hm h
  | cons c cs ih =>
    cases hc : r.continued m c with
    | some m' =>
      rw [tokensFrom_of_continued hc] at h
      exact ih (not_isCode_continued hm hc) h
    | none =>
      obtain ⟨before, after, hbefore, -, rfl⟩ := (tokensFrom_of_stopped hc).mp h
      obtain ⟨s, hs⟩ := exists_comment_of_finish hm hbefore
      exact ⟨s, List.mem_append_left _ hs⟩

theorem isCode_of_tokensFrom {m : Mode} {cs : List Char} {ts : List Token}
    (h : r.tokensFrom m cs = some ts) (hts : ∀ s, .comment s ∉ ts) : m.isCode = true := by
  by_contra hm
  obtain ⟨s, hs⟩ := exists_comment (by simpa using hm) h
  exact hts s hs

theorem not_comment_of_finish {m : Mode} (hm : m.isCode = true) {ts : List Token}
    (h : m.finish = some ts) (s : String) : .comment s ∉ ts := by
  cases m with
  | line _ | block _ | blockStar _ | blockClosed _ => cases hm
  | name _ | literal _ _ => cases h
  | _ =>
    cases h
    simp

/-- Where there are no comments, no token is one. -/
theorem not_comment_of_tokensFrom (hr : r.comments = false) {m : Mode} (hm : m.isCode = true)
    {cs : List Char} {ts : List Token} (h : r.tokensFrom m cs = some ts) (s : String) :
    .comment s ∉ ts := by
  induction cs generalizing m ts with
  | nil => exact not_comment_of_finish hm h s
  | cons c cs ih =>
    cases hc : r.continued m c with
    | some m' =>
      rw [tokensFrom_of_continued hc] at h
      exact ih (isCode_continued hr hm hc) h
    | none =>
      obtain ⟨before, after, hbefore, hafter, rfl⟩ := (tokensFrom_of_stopped hc).mp h
      rw [List.mem_append, not_or]
      exact ⟨not_comment_of_finish hm hbefore s, ih (isCode_opened c) hafter⟩

theorem Scans.of_scan (hr : r.comments = false) {s : String} {ts : List Token}
    (h : r.scan s = some ts) : Scans r s ts where
  scan := h
  code := not_comment_of_tokensFrom hr rfl h

/-! ## What a mode has read -/

namespace Mode

/-- The characters of the token at hand. Comments are left out. -/
def written (r : Rules) : Mode → List Char
  | mark c => [c]
  | name read => r.delimiters.opening :: Text.double r.delimiters.closing read.reverse
  | nameClosed read => (Token.name (String.ofList read.reverse)).write r
  | literal n read => (if n then ['N'] else []) ++ '\x27' :: Text.double '\x27' read.reverse
  | literalClosed n read => (Token.literal n (String.ofList read.reverse)).write r
  | _ => []

end Mode

theorem written_opened (c : Char) : (r.opened c).written r = [c] := by
  unfold Rules.opened
  split
  · next hc => simp [Mode.written, Text.double, hc]
  · split
    · next hc => simp [Mode.written, Text.double, hc]
    · rfl

theorem written_continued {m m' : Mode} {c : Char} (hm : m'.isCode = true)
    (h : r.continued m c = some m') : m'.written r = m.written r ++ [c] := by
  have hcode : m.isCode = true := by
    by_contra hnot
    have hm' := not_isCode_continued (by simpa using hnot) h
    rw [hm] at hm'
    cases hm'
  unfold Rules.continued at h
  cases m with
  | start => cases h
  | mark d =>
    dsimp only at h
    split at h
    · next hn =>
      obtain ⟨_, rfl, rfl⟩ := hn
      cases h
      rfl
    · split at h
      · cases h
        cases hm
      · split at h
        · cases h
          cases hm
        · cases h
  | name read | literal n read =>
    dsimp only at h
    split at h
    all_goals
      cases h
      simp [Mode.written, Token.write, Text.double_append, Text.double, *]
  | nameClosed read | literalClosed n read =>
    -- The mark that seemed to close is the first of two, which stand for one within.
    dsimp only at h
    split at h
    · cases h
      simp [Mode.written, Token.write, Text.double_append, Text.double, *]
    · cases h
  | _ => cases hcode

theorem write_of_finish {m : Mode} (hm : m.isCode = true) {ts : List Token}
    (h : m.finish = some ts) : r.write ts = m.written r := by
  cases m with
  | line _ | block _ | blockStar _ | blockClosed _ => cases hm
  | name _ | literal _ _ => cases h
  | start | mark _ | nameClosed _ | literalClosed _ _ =>
    cases h
    simp [Rules.write, Mode.written, Token.write]

theorem write_tokensFrom {m : Mode} {cs : List Char} {ts : List Token}
    (h : r.tokensFrom m cs = some ts) (hts : ∀ s, .comment s ∉ ts) :
    r.write ts = m.written r ++ cs := by
  have hm := isCode_of_tokensFrom h hts
  induction cs generalizing m ts with
  | nil => rw [write_of_finish hm h, List.append_nil]
  | cons c cs ih =>
    cases hc : r.continued m c with
    | some m' =>
      rw [tokensFrom_of_continued hc] at h
      have hm' := isCode_of_tokensFrom h hts
      rw [ih h hts hm', written_continued hm' hc, List.append_assoc]
      rfl
    | none =>
      obtain ⟨before, after, hbefore, hafter, rfl⟩ := (tokensFrom_of_stopped hc).mp h
      have hrest := ih hafter (fun s hs => hts s (List.mem_append_right _ hs)) (isCode_opened c)
      rw [written_opened] at hrest
      unfold Rules.write at hrest ⊢
      rw [List.flatMap_append, hrest, ← write_of_finish (r := r) hm hbefore]
      rfl

/-- The tokens of a text write it back. -/
theorem Scans.toList_eq {s : String} {ts : List Token} (h : Scans r s ts) : s.toList = r.write ts :=
  (write_tokensFrom h.scan h.code).symm

/-! ## One text behind another -/

/-- A mark that does not go on leaves what follows it as it is by itself. -/
theorem tokensFrom_mark {c : Char} {cs : List Char}
    (hc : ∀ d ∈ cs.head?, r.continued (.mark c) d = none) :
    r.tokensFrom (.mark c) cs = (r.tokensFrom .start cs).map (.mark c :: ·) := by
  cases cs with
  | nil => rfl
  | cons d cs =>
    rw [Rules.tokensFrom, hc d rfl, Rules.tokensFrom]
    cases r.tokensFrom (r.opened d) cs <;> simp [Rules.continued, Mode.finish]

/-- Where the text goes on, only the last of its tokens may. -/
theorem Spells.tokensFrom_append {s : String} {ts : List Token} {t : Token}
    (h : Spells r s (ts ++ [t])) (rest : List Char) :
    r.tokensFrom .start (s.toList ++ rest) = (r.tokensFrom t.closed rest).map (ts ++ ·) := by
  have hfits := h.fits
  rw [h.text]
  cases ts with
  | nil => simpa using tokensFrom_write_append (m := .start) hfits rfl rfl rest
  | cons u ts =>
    have hdrop : (u :: (ts ++ [t])).dropLast = u :: ts := by
      rw [← List.cons_append, List.dropLast_concat]
    simpa [hdrop] using tokensFrom_write_append (m := .start) hfits rfl rfl rest

section

variable {m : Mode} {c : Char} (hc : r.isCalm c = true)
include hc

/-- A calm character goes on with no token that may be over. -/
theorem continued_of_finish (hm : m.isCode = true) {ts : List Token} (h : m.finish = some ts) :
    r.continued m c = none := by
  obtain ⟨hquote, hmarks⟩ := ne_of_not_delimiter (not_delimiter_of_calm hc)
  cases m with
  | start => rfl
  | mark d => exact continued_calm hc d
  | nameClosed read => simp [Rules.continued, (hmarks r.delimiters).2]
  | literalClosed n read => simp [Rules.continued, hquote]
  | name _ | literal _ _ => cases h
  | _ => cases hm

theorem tokensFrom_append {cs : List Char} {ts : List Token} (h : r.tokensFrom m cs = some ts)
    (hts : ∀ s, .comment s ∉ ts) (rest : List Char) :
    r.tokensFrom m (cs ++ c :: rest) = (r.tokensFrom (.mark c) rest).map (ts ++ ·) := by
  have hm := isCode_of_tokensFrom h hts
  induction cs generalizing m ts with
  | nil =>
    have hfinish : m.finish = some ts := h
    rw [List.nil_append, Rules.tokensFrom, continued_of_finish hc hm hfinish, hfinish,
      opened_of_not_delimiter (not_delimiter_of_calm hc)]
    cases r.tokensFrom (.mark c) rest <;> rfl
  | cons d cs ih =>
    cases hd : r.continued m d with
    | some m' =>
      rw [tokensFrom_of_continued hd] at h
      rw [List.cons_append, tokensFrom_of_continued hd]
      exact ih h hts (isCode_of_tokensFrom h hts)
    | none =>
      obtain ⟨before, after, hbefore, hafter, rfl⟩ := (tokensFrom_of_stopped hd).mp h
      have hrest := ih hafter (fun s hs => hts s (List.mem_append_right _ hs)) (isCode_opened d)
      rw [List.cons_append, Rules.tokensFrom, hd, hbefore, hrest]
      cases r.tokensFrom (.mark c) rest <;> simp

/-- A last calm character is a token of its own. -/
theorem exists_of_tokensFrom_concat {cs : List Char} {us : List Token}
    (h : r.tokensFrom m (cs ++ [c]) = some us) (hus : ∀ s, .comment s ∉ us) :
    ∃ ts, r.tokensFrom m cs = some ts ∧ us = ts ++ [.mark c] := by
  have hm := isCode_of_tokensFrom h hus
  induction cs generalizing m us with
  | nil =>
    cases hfinish : m.finish with
    | some ts =>
      have hnil : r.tokensFrom m [] = some ts := hfinish
      rw [tokensFrom_append hc hnil (not_comment_of_finish hm hfinish)] at h
      exact ⟨ts, hnil, (Option.some.inj h).symm⟩
    | none =>
      -- The text would end within a name or quotes.
      obtain ⟨hquote, hmarks⟩ := ne_of_not_delimiter (not_delimiter_of_calm hc)
      have hclosing := (hmarks r.delimiters).2
      cases m with
      | name read => simp [Rules.tokensFrom, Rules.continued, hclosing, Mode.finish] at h
      | literal n read => simp [Rules.tokensFrom, Rules.continued, hquote, Mode.finish] at h
      | line _ | block _ | blockStar _ | blockClosed _ => cases hm
      | _ => cases hfinish
  | cons d cs ih =>
    rw [List.cons_append] at h
    cases hd : r.continued m d with
    | some m' =>
      rw [tokensFrom_of_continued hd] at h ⊢
      exact ih h hus (isCode_of_tokensFrom h hus)
    | none =>
      obtain ⟨before, after, hbefore, hafter, rfl⟩ := (tokensFrom_of_stopped hd).mp h
      obtain ⟨ts, hts, rfl⟩ :=
        ih hafter (fun s hs => hus s (List.mem_append_right _ hs)) (isCode_opened d)
      exact ⟨before ++ ts, (tokensFrom_of_stopped hd).mpr ⟨before, ts, hbefore, hts, rfl⟩, by simp⟩

end

/-! ## Texts in parentheses -/

theorem calm_opening : r.isCalm '(' = true := by
  simp [Rules.isCalm, isDelimiter]

theorem calm_closing : r.isCalm ')' = true := by
  simp [Rules.isCalm, isDelimiter]

namespace Scans

variable {s t : String} {ts us : List Token} {c : Char}

theorem append (hs : Scans r s ts) (hc : r.isCalm c = true) (hn : c ≠ 'N') (ht : Scans r t us) :
    Scans r (s ++ String.ofList (c :: t.toList)) (ts ++ .mark c :: us) where
  scan := by
    have htail := ht.scan
    unfold Rules.scan at htail ⊢
    rw [String.toList_append, String.toList_ofList, tokensFrom_append hc hs.scan hs.code,
      tokensFrom_mark fun d _ => continued_mark_of_calm hc hn d, htail]
    rfl
  code := by
    intro d hd
    simp only [List.mem_append, List.mem_cons, reduceCtorEq, false_or] at hd
    exact hd.elim (hs.code d) (ht.code d)

theorem empty : Scans r "" [] where
  scan := rfl
  code := fun _ => List.not_mem_nil

theorem parens (hs : Scans r s ts) :
    Scans r ("(" ++ s ++ ")") (.mark '(' :: (ts ++ [.mark ')'])) := by
  have hscan := empty.append calm_opening (by decide) (hs.append calm_closing (by decide) empty)
  have htext : "(" ++ s ++ ")" =
      "" ++ String.ofList ('(' :: (s ++ String.ofList (')' :: "".toList)).toList) := by
    apply String.toList_injective
    simp
  rwa [htext]

/-- Parentheses around a text without comments are its first and its last token. -/
theorem exists_of_parens (h : Scans r ("(" ++ s ++ ")") us) :
    ∃ ts, Scans r s ts ∧ us = .mark '(' :: (ts ++ [.mark ')']) := by
  have htext : ("(" ++ s ++ ")").toList = '(' :: (s.toList ++ [')']) := by simp
  have hscan := h.scan
  have hfirst : r.opened '(' = .mark '(' := opened_of_not_delimiter (by decide)
  unfold Rules.scan at hscan
  rw [htext, Rules.tokensFrom, Rules.continued, hfirst,
    tokensFrom_mark fun d _ => continued_mark_of_calm calm_opening (by decide) d] at hscan
  obtain ⟨_, hstart, hscan⟩ := Option.bind_eq_some_iff.mp hscan
  obtain ⟨_, hafter, heq⟩ := Option.bind_eq_some_iff.mp hscan
  obtain ⟨inner, hinner, rfl⟩ := Option.map_eq_some_iff.mp hafter
  cases hstart
  cases heq
  have hcode := h.code
  simp only [List.nil_append, List.mem_cons, reduceCtorEq, false_or] at hcode
  obtain ⟨ts, hts, rfl⟩ := exists_of_tokensFrom_concat calm_closing hinner hcode
  exact ⟨ts, ⟨hts, fun c hc => hcode c (List.mem_append_left _ hc)⟩, rfl⟩

end Scans

end TerseSql.Lexing
