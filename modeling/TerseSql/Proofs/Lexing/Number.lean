import TerseSql.Dialect.Renderer
import TerseSql.Proofs.Lexing.Characters

/-!
# Numbers as tokens

A number is written with digits, a point, the sign and the mark of an exponent. No two signs
meet, so a number opens no comment.
-/

namespace TerseSql.Lexing

variable {r : Rules}

def isNumeral (c : Char) : Bool :=
  c.isDigit || c == '.' || c == '-' || c == 'e'

def isUnsigned (c : Char) : Bool :=
  c.isDigit || c == '.'

theorem calm_of_unsigned (r : Rules) {c : Char} (h : isUnsigned c = true) : r.isCalm c = true := by
  unfold isUnsigned at h
  rw [Bool.or_eq_true, beq_iff_eq] at h
  rcases h with h | rfl
  · exact calm_of_lexical r (lexical_of_digit h)
  · exact calm_of_comments (by decide)

theorem numeral_of_unsigned {c : Char} (h : isUnsigned c = true) : isNumeral c = true := by
  unfold isUnsigned at h
  unfold isNumeral
  rw [h]
  rfl

theorem unsigned_of_mem_toDigits {n : Nat} {c : Char} (h : c ∈ Nat.toDigits 10 n) :
    isUnsigned c = true := by
  have hdigit := Nat.isDigit_of_mem_toDigits (by decide) (by decide) h
  simp [isUnsigned, hdigit]

/-! ## Integers -/

theorem spells_signed (negative : Bool) {s : String} (h : ∀ c ∈ s.toList, isUnsigned c = true) :
    Spells r ((if negative then "-" else "") ++ s) (marks ((if negative then "-" else "") ++ s)) := by
  have hcalm : ∀ c ∈ s.toList, r.isCalm c = true := fun c hc => calm_of_unsigned r (h c hc)
  cases negative with
  | false =>
    rw [if_neg Bool.false_ne_true, String.empty_append]
    exact Spells.calm hcalm
  | true =>
    have hsign : Spells r "-" [.mark '-'] := Spells.mark (c := '-') (by decide)
    rw [if_pos rfl, marks_append]
    exact hsign.append_calm hcalm

/-- An integer is a sign, if it is negative, and digits. -/
theorem exists_signed_int (n : Int) :
    ∃ s : String, toString n = (if n < 0 then "-" else "") ++ s ∧
      s.toList ≠ [] ∧ ∀ c ∈ s.toList, isUnsigned c = true := by
  cases n with
  | ofNat m =>
    refine ⟨m.repr, ?_, ?_, fun c hc => ?_⟩
    · rw [if_neg (by simp), String.empty_append]
      rfl
    · rw [Nat.toList_repr]
      exact Nat.toDigits_ne_nil
    · rw [Nat.toList_repr] at hc
      exact unsigned_of_mem_toDigits hc
  | negSucc m =>
    refine ⟨m.succ.repr, ?_, ?_, fun c hc => ?_⟩
    · rw [if_pos (Int.negSucc_lt_zero m)]
      rfl
    · rw [Nat.toList_repr]
      exact Nat.toDigits_ne_nil
    · rw [Nat.toList_repr] at hc
      exact unsigned_of_mem_toDigits hc

theorem spells_int (n : Int) : Spells r (toString n) (marks (toString n)) := by
  obtain ⟨s, hs, _, hunsigned⟩ := exists_signed_int n
  rw [hs]
  have h := spells_signed (r := r) (decide (n < 0)) hunsigned
  simpa only [decide_eq_true_eq] using h

theorem numeral_of_mem_signed {negative : Prop} [Decidable negative] {s : String}
    (h : ∀ c ∈ s.toList, isNumeral c = true) :
    ∀ c ∈ ((if negative then "-" else "") ++ s).toList, isNumeral c = true := by
  intro c hc
  rw [String.toList_append] at hc
  rcases List.mem_append.mp hc with hc | hc
  · by_cases hn : negative
    · rw [if_pos hn] at hc
      obtain rfl : c = '-' := by simpa using hc
      rfl
    · rw [if_neg hn] at hc
      cases hc
  · exact h c hc

theorem numeral_of_mem_int {n : Int} {c : Char} (h : c ∈ (toString n).toList) :
    isNumeral c = true := by
  obtain ⟨s, hs, _, hunsigned⟩ := exists_signed_int n
  rw [hs] at h
  exact numeral_of_mem_signed (fun d hd => numeral_of_unsigned (hunsigned d hd)) c h

/-! ## Floating-point numbers -/

theorem unsigned_positional {digits : List Char} (h : ∀ c ∈ digits, isUnsigned c = true)
    (point : Int) : ∀ c ∈ FloatLayout.positional digits point, isUnsigned c = true := by
  have hzero : isUnsigned '0' = true := rfl
  have hpoint : isUnsigned '.' = true := rfl
  intro c hc
  unfold FloatLayout.positional at hc
  by_cases hlow : point ≤ 0
  · rw [if_pos hlow] at hc
    simp only [List.cons_append, List.mem_cons, List.mem_append, List.mem_replicate] at hc
    rcases hc with rfl | rfl | ⟨_, rfl⟩ | hc
    · exact hzero
    · exact hpoint
    · exact hzero
    · exact h c hc
  · rw [if_neg hlow] at hc
    by_cases hlong : digits.length ≤ point
    · rw [if_pos hlong] at hc
      simp only [List.mem_append, List.mem_replicate, List.mem_cons, List.not_mem_nil,
        or_false] at hc
      rcases hc with (hc | ⟨_, rfl⟩) | rfl | rfl
      · exact h c hc
      · exact hzero
      · exact hpoint
      · exact hzero
    · rw [if_neg hlong] at hc
      simp only [List.mem_append, List.mem_cons] at hc
      rcases hc with hc | rfl | hc
      · exact h c (List.mem_of_mem_take hc)
      · exact hpoint
      · exact h c (List.mem_of_mem_drop hc)

theorem exists_scientific {digits : List Char} (h : ∀ c ∈ digits, isUnsigned c = true)
    (point : Int) :
    ∃ s : String, String.ofList (Lexicon.layout.scientific digits point) =
      s ++ "e" ++ toString (point - 1) ∧ ∀ c ∈ s.toList, isUnsigned c = true := by
  refine ⟨String.ofList (digits.take 1 ++ if digits.length ≤ 1 then [] else '.' :: digits.drop 1),
    ?_, fun c hc => ?_⟩
  · apply String.toList_injective
    simp [FloatLayout.scientific, Lexicon.layout]
  · rw [String.toList_ofList] at hc
    rcases List.mem_append.mp hc with hc | hc
    · exact h c (List.mem_of_mem_take hc)
    · by_cases hone : digits.length ≤ 1
      · rw [if_pos hone] at hc
        cases hc
      · rw [if_neg hone] at hc
        rcases List.mem_cons.mp hc with rfl | hc
        · rfl
        · exact h c (List.mem_of_mem_drop hc)

/-- How a finite number is written: unsigned characters after a sign, and perhaps an
exponent. -/
theorem exists_write {x : Float} (h : (Binary.ofFloat x).isFinite = true) :
    ∃ (negative : Bool) (s : String), (∀ c ∈ s.toList, isUnsigned c = true) ∧
      (Lexicon.layout.write x = (if negative then "-" else "") ++ s ∨
        ∃ e : Int, Lexicon.layout.write x = (if negative then "-" else "") ++ s ++ "e" ++ toString e) := by
  unfold FloatLayout.write
  cases hx : Binary.ofFloat x with
  | nan => rw [hx] at h; cases h
  | infinite negative => rw [hx] at h; cases h
  | finite negative mantissa exponent =>
    refine ⟨negative, ?_⟩
    by_cases hzero : mantissa = 0
    · refine ⟨"0.0", List.all_eq_true.mp (by decide), Or.inl ?_⟩
      simp only [hzero, if_true]
    · simp only [hzero, if_false]
      obtain ⟨d, unit⟩ := Shortest.digits Lexicon.layout.tieUp mantissa exponent
      have hdigits : ∀ c ∈ Nat.toDigits 10 d, isUnsigned c = true :=
        fun c hc => unsigned_of_mem_toDigits hc
      dsimp only
      by_cases hrange : Lexicon.layout.lowest ≤ ↑(Nat.toDigits 10 d).length + unit ∧
          ↑(Nat.toDigits 10 d).length + unit ≤ Lexicon.layout.highest
      · rw [if_pos hrange]
        refine ⟨_, fun c hc => ?_, Or.inl rfl⟩
        rw [String.toList_ofList] at hc
        exact unsigned_positional hdigits _ c hc
      · rw [if_neg hrange]
        obtain ⟨s, hs, hunsigned⟩ :=
          exists_scientific hdigits (↑(Nat.toDigits 10 d).length + unit)
        refine ⟨s, hunsigned, Or.inr ⟨↑(Nat.toDigits 10 d).length + unit - 1, ?_⟩⟩
        rw [hs]
        simp only [String.append_assoc]

theorem spells_float {x : Float} (h : (Binary.ofFloat x).isFinite = true) :
    Spells r (Lexicon.layout.write x) (marks (Lexicon.layout.write x)) := by
  obtain ⟨negative, s, hunsigned, hs | ⟨e, hs⟩⟩ := exists_write h
  · rw [hs]
    exact spells_signed negative hunsigned
  · rw [hs, marks_append, marks_append]
    have he : r.isSeparator "e" = true := by
      unfold Rules.isSeparator Rules.isCalm
      cases r.comments <;> decide
    exact (spells_signed negative hunsigned).joint he (spells_int e)

theorem numeral_of_mem_float {x : Float} (h : (Binary.ofFloat x).isFinite = true) {c : Char}
    (hc : c ∈ (Lexicon.layout.write x).toList) : isNumeral c = true := by
  obtain ⟨negative, s, hunsigned, hs⟩ := exists_write h
  have hsigned : ∀ d ∈ ((if negative then "-" else "") ++ s).toList, isNumeral d = true :=
    numeral_of_mem_signed fun d hd => numeral_of_unsigned (hunsigned d hd)
  rcases hs with hs | ⟨e, hs⟩
  · rw [hs] at hc
    exact hsigned c hc
  · rw [hs, String.toList_append, String.toList_append] at hc
    rcases List.mem_append.mp hc with hc | hc
    · rcases List.mem_append.mp hc with hc | hc
      · exact hsigned c hc
      · obtain rfl : c = 'e' := by simpa using hc
        rfl
    · exact numeral_of_mem_int hc

theorem floatLiteral_eq_ok_iff {x : Float} {s : String} : floatLiteral x = .ok s ↔
    (Binary.ofFloat x).isFinite = true ∧ s = Lexicon.layout.write x := by
  unfold floatLiteral
  by_cases hfinite : (Binary.ofFloat x).isFinite = true
  · simp [hfinite, eq_comm]
  · simp [hfinite]

end TerseSql.Lexing
