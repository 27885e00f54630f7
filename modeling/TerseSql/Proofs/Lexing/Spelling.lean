import TerseSql.Proofs.Lexing.Token

/-!
# Texts that spell tokens

A text spells tokens that fit if it is what writing them gives. Two such texts may be put
together around a separator: a text of characters that no token goes on with.
-/

namespace TerseSql.Lexing

variable {r : Rules}

structure Spells (r : Rules) (s : String) (ts : List Token) : Prop where
  text : s.toList = r.write ts
  fits : r.Fits ts

theorem Spells.scan {s : String} {ts : List Token} (h : Spells r s ts) : r.scan s = some ts := by
  unfold Rules.scan
  rw [h.text]
  exact tokensFrom_start_write h.fits

theorem Spells.eq_of_spells {s : String} {ts us : List Token} (h : Spells r s ts)
    (h' : Spells r s us) : ts = us :=
  Option.some.inj (h.scan.symm.trans h'.scan)

/-! ## Characters that keep tokens apart -/

/-- A character that stands by itself after any token. -/
def Rules.isCalm (r : Rules) (c : Char) : Bool :=
  !isDelimiter c && !(r.comments && (c == '-' || c == '/' || c == '*'))

/-- Calm characters, the last of which is no `N`: what stands before and after cannot meet. -/
def Rules.isSeparator (r : Rules) (s : String) : Bool :=
  s.toList.all r.isCalm && s.toList.getLast?.any (· ≠ 'N')

def isSteady (s : String) : Bool :=
  (Rules.mk .double false true).isSeparator s

def marks (s : String) : List Token :=
  s.toList.map .mark

theorem not_delimiter_of_calm {c : Char} (h : r.isCalm c = true) : isDelimiter c = false := by
  unfold Rules.isCalm at h
  simp only [Bool.and_eq_true, Bool.not_eq_true'] at h
  exact h.1

theorem continued_calm {c : Char} (hc : r.isCalm c = true) (d : Char) :
    r.continued (.mark d) c = none := by
  have hquote : c ≠ '\x27' := by
    rintro rfl
    cases not_delimiter_of_calm hc
  unfold Rules.isCalm at hc
  simp only [Rules.continued, hquote, and_false, if_false]
  by_cases hr : r.comments = true
  · simp [hr] at hc
    simp [hc]
  · simp [hr]

theorem continued_closed_of_calm {t : Token} {c : Char} (ht : r.Writes t)
    (hc : r.isCalm c = true) : r.continued t.closed c = none := by
  obtain ⟨hquote, hmarks⟩ := ne_of_not_delimiter (not_delimiter_of_calm hc)
  cases t with
  | name s => simp [Token.closed, Rules.continued, (hmarks r.delimiters).2]
  | literal n s => simp [Token.closed, Rules.continued, hquote]
  | mark d => exact continued_calm hc d
  | comment s => exact absurd ht id

/-- A calm character other than `N` goes on with nothing. -/
theorem continued_mark_of_calm {c : Char} (hc : r.isCalm c = true) (hn : c ≠ 'N') (d : Char) :
    r.continued (.mark c) d = none := by
  unfold Rules.isCalm at hc
  simp only [Rules.continued, hn, false_and, and_false, if_false]
  by_cases hr : r.comments = true
  · simp [hr] at hc
    simp [hc]
  · simp [hr]

/-! ## Putting texts together -/

theorem Spells.empty : Spells r "" [] where
  text := rfl
  fits := ⟨fun t h => (by cases h), List.IsChain.nil⟩

theorem Spells.append {s t : String} {a b : List Token} (hs : Spells r s a) (ht : Spells r t b)
    (hmeet : ∀ x ∈ a.getLast?, ∀ y ∈ b.head?, r.continued x.closed (y.first r) = none) :
    Spells r (s ++ t) (a ++ b) where
  text := by
    unfold Rules.write
    rw [String.toList_append, List.flatMap_append, hs.text, ht.text]
    rfl
  fits := by
    refine ⟨fun x hx => ?_, List.isChain_append.mpr ⟨hs.fits.chain, ht.fits.chain, hmeet⟩⟩
    rcases List.mem_append.mp hx with hx | hx
    · exact hs.fits.writes x hx
    · exact ht.fits.writes x hx

theorem Spells.mark {c : Char} (h : isDelimiter c = false) : Spells r (String.ofList [c]) [.mark c]
    where
  text := by simp [Rules.write, Token.write]
  fits := ⟨fun t ht => (by cases List.mem_singleton.mp ht; exact h), List.IsChain.singleton _⟩

theorem fits_marks {cs : List Char} (h : ∀ c ∈ cs, r.isCalm c = true) :
    r.Fits (cs.map .mark) := by
  have hwrites : ∀ t ∈ cs.map Token.mark, r.Writes t := by
    intro t ht
    obtain ⟨c, hc, rfl⟩ := List.mem_map.mp ht
    exact not_delimiter_of_calm (h c hc)
  refine ⟨hwrites, ?_⟩
  induction cs with
  | nil => exact List.IsChain.nil
  | cons c cs ih =>
    have hcs : ∀ d ∈ cs, r.isCalm d = true := fun d hd => h d (List.mem_cons_of_mem _ hd)
    refine (ih hcs fun t ht => hwrites t (List.mem_cons_of_mem _ ht)).cons fun y hy => ?_
    obtain ⟨d, hd, rfl⟩ := List.mem_map.mp (List.mem_of_mem_head? hy)
    exact continued_closed_of_calm (hwrites _ List.mem_cons_self) (hcs d hd)

theorem Spells.calm {s : String} (h : ∀ c ∈ s.toList, r.isCalm c = true) :
    Spells r s (marks s) where
  text := by
    unfold Rules.write marks
    rw [List.flatMap_map]
    exact (List.flatMap_singleton' s.toList).symm
  fits := fits_marks h

theorem Spells.append_calm {s t : String} {a : List Token} (hs : Spells r s a)
    (ht : ∀ c ∈ t.toList, r.isCalm c = true) : Spells r (s ++ t) (a ++ marks t) := by
  refine hs.append (Spells.calm ht) fun x hx y hy => ?_
  obtain ⟨c, hc, rfl⟩ := List.mem_map.mp (List.mem_of_mem_head? hy)
  exact continued_closed_of_calm (hs.fits.writes x (List.mem_of_mem_getLast? hx)) (ht c hc)

theorem calm_of_separator {s : String} (h : r.isSeparator s = true) :
    ∀ c ∈ s.toList, r.isCalm c = true := by
  unfold Rules.isSeparator at h
  rw [Bool.and_eq_true, List.all_eq_true] at h
  exact h.1

theorem isSeparator_of_calm {s : String} (hne : s.toList ≠ [])
    (h : ∀ c ∈ s.toList, r.isCalm c = true ∧ c ≠ 'N') : r.isSeparator s = true := by
  unfold Rules.isSeparator
  rw [Bool.and_eq_true, List.all_eq_true]
  refine ⟨fun c hc => (h c hc).1, ?_⟩
  cases hlast : s.toList.getLast? with
  | none => exact absurd (List.getLast?_eq_none_iff.mp hlast) hne
  | some c =>
    have hc := (h c (List.mem_of_getLast? hlast)).2
    simp [hc]

/-- Where there are no comments, every character but a delimiter is calm. -/
theorem calm_of_not_delimiter {c : Char} (hr : r.comments = false) (h : isDelimiter c = false) :
    r.isCalm c = true := by
  simp [Rules.isCalm, hr, h]

/-- Comments only add characters that are not calm. -/
theorem calm_of_comments {c : Char} (h : (Rules.mk .double false true).isCalm c = true) :
    r.isCalm c = true := by
  cases hr : r.comments with
  | true =>
    unfold Rules.isCalm at h ⊢
    rwa [hr]
  | false => exact calm_of_not_delimiter hr (not_delimiter_of_calm h)

theorem isSeparator_of_steady {s : String} (h : isSteady s = true) : r.isSeparator s = true := by
  unfold isSteady Rules.isSeparator at h
  unfold Rules.isSeparator
  rw [Bool.and_eq_true, List.all_eq_true] at h ⊢
  exact ⟨fun c hc => calm_of_comments (h.1 c hc), h.2⟩

/-- No token goes on where a separator ends. -/
theorem continued_of_separator {sep : String} (h : r.isSeparator sep = true) {a : List Token}
    {t : Token} (ht : t ∈ (a ++ marks sep).getLast?) (c : Char) : r.continued t.closed c = none := by
  have hcalm := calm_of_separator h
  unfold Rules.isSeparator at h
  cases hlast : sep.toList.getLast? with
  | none => simp [hlast] at h
  | some d =>
    have hmark : (marks sep).getLast? = some (.mark d) := by
      unfold marks
      rw [List.getLast?_map, hlast]
      rfl
    rw [List.getLast?_append, hmark, Option.some_or] at ht
    obtain rfl := Option.some.inj ht
    rw [hlast, Bool.and_eq_true] at h
    have hn : d ≠ 'N' := by simpa using h.2
    exact continued_mark_of_calm (hcalm d (List.mem_of_getLast? hlast)) hn c

theorem Spells.joint {s sep t : String} {a b : List Token} (hs : Spells r s a)
    (hsep : r.isSeparator sep = true) (ht : Spells r t b) :
    Spells r (s ++ sep ++ t) (a ++ marks sep ++ b) :=
  (hs.append_calm (calm_of_separator hsep)).append ht fun _ hx _ _ =>
    continued_of_separator hsep hx _

theorem marks_append (s t : String) : marks (s ++ t) = marks s ++ marks t := by
  unfold marks
  rw [String.toList_append, List.map_append]

end TerseSql.Lexing
