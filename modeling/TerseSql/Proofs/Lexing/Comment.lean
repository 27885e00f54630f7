import TerseSql.Proofs.Lexing.Spelling

/-!
# Texts that open a comment

Two dashes after tokens open a comment, which goes on over whatever is put behind them on the
same line.
-/

namespace TerseSql.Lexing

variable {r : Rules}

def OpensLine (r : Rules) (s : String) (ts : List Token) (body : List Char) : Prop :=
  ∃ before : String, Spells r before ts ∧ (∀ t ∈ ts.getLast?, r.continued t.closed '-' = none) ∧
    s.toList = before.toList ++ '-' :: '-' :: body ∧ '\n' ∉ body

theorem readOn_line {cs : List Char} (h : '\n' ∉ cs) (read : List Char) :
    r.readOn (.line read) cs = some (.line (cs.reverse ++ read)) := by
  induction cs generalizing read with
  | nil => rfl
  | cons c cs ih =>
    rw [List.mem_cons, not_or] at h
    have hc : r.continued (.line read) c = some (.line (c :: read)) := by
      simp [Rules.continued, Ne.symm h.1]
    rw [readOn_cons, hc, Option.bind_some, ih h.2]
    simp

/-- The dashes and what follows them, where a token is over. -/
theorem readOn_dashes (hr : r.comments = true) {body : List Char} (h : '\n' ∉ body) :
    r.readOn (r.opened '-') ('-' :: body) = some (.line body.reverse) := by
  have hopened : r.opened '-' = .mark '-' := opened_of_not_delimiter (by decide)
  have hline : r.continued (.mark '-') '-' = some (.line []) := by
    simp [Rules.continued, hr]
  rw [hopened, readOn_cons, hline, Option.bind_some, readOn_line h, List.append_nil]

namespace OpensLine

variable {s : String} {ts : List Token} {body : List Char}

theorem scan (h : OpensLine r s ts body) (hr : r.comments = true) :
    r.scan s = some (ts ++ [Token.comment (String.ofList body)]) := by
  obtain ⟨before, hbefore, hlast, hs, hbody⟩ := h
  have hcomment : ∀ (m : Mode) (us : List Token), m.finish = some us →
      r.continued m '-' = none →
      r.tokensFrom m ('-' :: '-' :: body) = some (us ++ [Token.comment (String.ofList body)]) := by
    intro m us hm hc
    have hread := tokensFrom_of_readOn (readOn_dashes hr hbody) []
    rw [List.append_nil] at hread
    rw [Rules.tokensFrom, hc, hm, hread, Rules.tokensFrom, Mode.finish, List.reverse_reverse]
    rfl
  unfold Rules.scan
  rw [hs, hbefore.text]
  cases ts with
  | nil => exact hcomment .start [] rfl rfl
  | cons t ts =>
    have hdash := hlast _ (List.getLast?_eq_some_getLast (List.cons_ne_nil t ts))
    rw [tokensFrom_write_append (m := .start) hbefore.fits rfl rfl,
      hcomment _ _ (Token.finish_closed _) hdash, Option.map_some, List.nil_append,
      ← List.append_assoc, List.dropLast_concat_getLast]

theorem hides (h : OpensLine r s ts body) (hr : r.comments = true) : r.hides s = true := by
  obtain ⟨before, hbefore, hlast, hs, hbody⟩ := h
  have hcomment : ∀ m : Mode, r.continued m '-' = none →
      (r.modeAfter m ('-' :: '-' :: body)).isComment = true := by
    intro m hc
    have hstep : r.modeAfter m ('-' :: '-' :: body) =
        r.modeAfter (r.opened '-') ('-' :: body) := by
      simp [Rules.modeAfter, Rules.step, hc]
    rw [hstep, modeAfter_of_readOn (readOn_dashes hr hbody)]
    rfl
  have hsplit : r.modeAfter .start s.toList =
      r.modeAfter (r.modeAfter .start (r.write ts)) ('-' :: '-' :: body) := by
    rw [hs, hbefore.text]
    exact List.foldl_append
  unfold Rules.hides
  rw [hsplit]
  cases ts with
  | nil => exact hcomment .start rfl
  | cons t ts =>
    rw [modeAfter_write_cons (m := .start) hbefore.fits rfl]
    exact hcomment _ (hlast _ (List.getLast?_eq_some_getLast (List.cons_ne_nil t ts)))

theorem append (h : OpensLine r s ts body) {t : String} (ht : '\n' ∉ t.toList) :
    OpensLine r (s ++ t) ts (body ++ t.toList) := by
  obtain ⟨before, hbefore, hlast, hs, hbody⟩ := h
  refine ⟨before, hbefore, hlast, ?_, ?_⟩
  · rw [String.toList_append, hs, List.append_assoc]
    rfl
  · rw [List.mem_append, not_or]
    exact ⟨hbody, ht⟩

theorem joint (h : OpensLine r s ts body) {u sep : String} {us : List Token} (hu : Spells r u us)
    (hsep : r.isSeparator sep = true) : OpensLine r (u ++ sep ++ s) (us ++ marks sep ++ ts) body := by
  obtain ⟨before, hbefore, hlast, hs, hbody⟩ := h
  refine ⟨u ++ sep ++ before, hu.joint hsep hbefore, fun t ht => ?_, ?_, hbody⟩
  · rw [List.getLast?_append] at ht
    cases hts : ts.getLast? with
    | some t' =>
      rw [hts, Option.some_or] at ht
      obtain rfl := Option.some.inj ht
      exact hlast t' hts
    | none =>
      rw [hts, Option.none_or] at ht
      exact continued_of_separator (a := us) hsep ht _
  · rw [String.toList_append, String.toList_append, hs]
    simp

end OpensLine

theorem Spells.not_hides {s : String} {ts : List Token} (h : Spells r s ts) :
    r.hides s = false :=
  isComment_modeAfter h.scan fun _ hcomment => h.fits.writes _ hcomment

end TerseSql.Lexing
