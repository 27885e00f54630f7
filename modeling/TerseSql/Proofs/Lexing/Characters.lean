import TerseSql.Grammar.Key
import TerseSql.Lexicon
import TerseSql.Proofs.Lexing.Spelling

/-!
# Characters of words

What letters become in upper case is a letter or lies beyond ASCII, so that no mark arises
from a word.
-/

namespace TerseSql.Lexing

/-- A character that a word goes on with: a letter, a digit, an underscore, or anything
beyond ASCII. -/
def isLexical (c : Char) : Bool :=
  c.isAlphanum || c == '_' || 128 ≤ c.toNat

theorem calm_of_all (r : Rules) {p : Char → Bool}
    (hp : (['\x27', '"', '\x60', '[', ']', '-', '/', '*'].all fun d => !p d) = true) {c : Char}
    (h : p c = true) : r.isCalm c = true := by
  by_contra hc
  have hspecial : c ∈ ['\x27', '"', '\x60', '[', ']', '-', '/', '*'] := by
    unfold Rules.isCalm isDelimiter at hc
    cases hr : r.comments <;> simp [hr] at hc ⊢ <;> tauto
  have hnot := List.all_eq_true.mp hp c hspecial
  rw [h] at hnot
  cases hnot

theorem calm_of_lexical (r : Rules) {c : Char} (h : isLexical c = true) : r.isCalm c = true :=
  calm_of_all r (by decide) h

/-! ## Upper case -/

theorem exists_run_of_shiftedBy {runs : List Text.CaseRun} {n m : Nat}
    (h : Text.shiftedBy runs n = some m) :
    ∃ run ∈ runs, run.first ≤ n ∧ n ≤ run.last ∧ m = (n + run.shift).toNat := by
  induction runs with
  | nil => cases h
  | cons run rest ih =>
    unfold Text.shiftedBy at h
    by_cases hlow : n < run.first
    · rw [if_pos hlow] at h
      cases h
    · rw [if_neg hlow] at h
      by_cases hin : n ≤ run.last ∧ (n - run.first) % run.step = 0
      · rw [if_pos hin] at h
        exact ⟨run, List.mem_cons_self, by omega, hin.1, (Option.some.inj h).symm⟩
      · rw [if_neg hin] at h
        obtain ⟨run', hmem, hrun⟩ := ih h
        exact ⟨run', List.mem_cons_of_mem _ hmem, hrun⟩

/-- The code points from `low` to `high` are capital letters of ASCII, or valid ones beyond
ASCII. -/
def areCapitals (low high : Int) : Bool :=
  (65 ≤ low && high ≤ 90) || (128 ≤ low && high < 0xD800) || (0xE000 ≤ low && high < 0x110000)

theorem lexical_of_capital {n : Nat} {low high : Int} (h : areCapitals low high = true)
    (hlow : low ≤ n) (hhigh : (n : Int) ≤ high) : isLexical (Char.ofNat n) = true := by
  have hvalid : n.isValidChar := by
    unfold areCapitals at h
    simp only [Bool.or_eq_true, Bool.and_eq_true, decide_eq_true_eq] at h
    unfold Nat.isValidChar
    omega
  have hn : (Char.ofNat n).toNat = n := by
    rw [Char.ofNat, dif_pos hvalid]
    rfl
  by_cases hbig : 128 ≤ n
  · simp [isLexical, hn, hbig]
  · have hcapitals : ∀ m < 91, 65 ≤ m → isLexical (Char.ofNat m) = true := by decide
    unfold areCapitals at h
    simp only [Bool.or_eq_true, Bool.and_eq_true, decide_eq_true_eq] at h
    exact hcapitals n (by omega) (by omega)

theorem upperRuns_capitals :
    ∀ run ∈ Text.upperRuns, areCapitals (run.first + run.shift) (run.last + run.shift) = true := by
  decide +kernel

theorem upperExpansions_capitals :
    ∀ e ∈ Text.upperExpansions, ∀ n ∈ e.2, areCapitals n n = true := by
  decide +kernel

/-- A character stays as it is in upper case, or it becomes characters of words. -/
theorem mem_upperChar {c u : Char} (h : u ∈ Text.upperChar c) : u = c ∨ isLexical u = true := by
  -- A character has an entry in the table of expansions, is shifted with its run, or stays.
  unfold Text.upperChar Text.mapCase at h
  cases hexp : Text.upperExpansions.lookup c.toNat with
  | some codes =>
    rw [hexp] at h
    obtain ⟨n, hn, rfl⟩ := List.mem_map.mp h
    obtain ⟨before, after, hsplit, _⟩ := List.lookup_eq_some_iff.mp hexp
    have hmem : (c.toNat, codes) ∈ Text.upperExpansions := by
      rw [hsplit]
      exact List.mem_append_right _ List.mem_cons_self
    exact Or.inr (lexical_of_capital (upperExpansions_capitals _ hmem n hn)
      (Int.le_refl _) (Int.le_refl _))
  | none =>
    rw [hexp] at h
    cases hshift : Text.shiftedBy Text.upperRuns c.toNat with
    | none =>
      rw [hshift] at h
      exact Or.inl (List.mem_singleton.mp h)
    | some m =>
      rw [hshift] at h
      obtain rfl := List.mem_singleton.mp h
      obtain ⟨run, hrun, hfirst, hlast, rfl⟩ := exists_run_of_shiftedBy hshift
      have hcap := upperRuns_capitals run hrun
      refine Or.inr (lexical_of_capital hcap ?_ ?_)
      · unfold areCapitals at hcap
        simp only [Bool.or_eq_true, Bool.and_eq_true, decide_eq_true_eq] at hcap
        omega
      · unfold areCapitals at hcap
        simp only [Bool.or_eq_true, Bool.and_eq_true, decide_eq_true_eq] at hcap
        omega

/-- What holds of the characters of words and of those of a text holds of its upper case. -/
theorem forall_upper {p : Char → Prop} (hp : ∀ c, isLexical c = true → p c) {s : String}
    (h : ∀ c ∈ s.toList, p c) : ∀ c ∈ (Text.upper s).toList, p c := by
  intro u hu
  unfold Text.upper at hu
  rw [String.toList_ofList] at hu
  obtain ⟨c, hc, huc⟩ := List.mem_flatMap.mp hu
  rcases mem_upperChar huc with rfl | hlexical
  · exact h u hc
  · exact hp u hlexical

theorem upper_lexical {s : String} (h : ∀ c ∈ s.toList, isLexical c = true) :
    ∀ c ∈ (Text.upper s).toList, isLexical c = true :=
  forall_upper (fun _ hc => hc) h

theorem upper_calm {r : Rules} {s : String} (h : ∀ c ∈ s.toList, r.isCalm c = true) :
    ∀ c ∈ (Text.upper s).toList, r.isCalm c = true :=
  forall_upper (fun _ hc => calm_of_lexical r hc) h

theorem upper_ne_nil {s : String} (h : s.toList ≠ []) : (Text.upper s).toList ≠ [] := by
  have hexpansions : ∀ e ∈ Text.upperExpansions, e.2 ≠ [] := by decide +kernel
  have hchar : ∀ c, Text.upperChar c ≠ [] := by
    intro c hc
    unfold Text.upperChar Text.mapCase at hc
    cases hexp : Text.upperExpansions.lookup c.toNat with
    | some codes =>
      obtain ⟨before, after, hsplit, _⟩ := List.lookup_eq_some_iff.mp hexp
      have hmem : (c.toNat, codes) ∈ Text.upperExpansions := by
        rw [hsplit]
        exact List.mem_append_right _ List.mem_cons_self
      rw [hexp] at hc
      exact hexpansions _ hmem (List.map_eq_nil_iff.mp hc)
    | none =>
      rw [hexp] at hc
      cases hshift : Text.shiftedBy Text.upperRuns c.toNat with
      | none =>
        rw [hshift] at hc
        cases hc
      | some m =>
        rw [hshift] at hc
        cases hc
  cases hs : s.toList with
  | nil => exact absurd hs h
  | cons c cs =>
    unfold Text.upper
    rw [String.toList_ofList, hs, List.flatMap_cons]
    exact fun hnil => hchar c (List.append_eq_nil_iff.mp hnil).1

/-! ## Characters of keys -/

/-- What holds of each character of ASCII. -/
theorem forall_ascii {p : Char → Prop} (h : ∀ n < 128, p (Char.ofNat n)) {c : Char}
    (hc : c.toNat < 128) : p c := by
  rw [← Char.ofNat_toNat c]
  exact h c.toNat hc

theorem lexical_of_word {c : Char} (h : Text.isWord c = true) : isLexical c = true := by
  by_cases hbig : 128 ≤ c.toNat
  · simp [isLexical, hbig]
  · exact forall_ascii (p := fun d => Text.isWord d = true → isLexical d = true) (by decide)
      (Nat.lt_of_not_le hbig) h

/-- Nothing in the field or the function of a condition is a mark of its own. -/
theorem calm_of_conditionText (r : Rules) {c : Char} (h : Grammar.isConditionText c = true) :
    r.isCalm c = true :=
  calm_of_all r (by decide) h

/-! ## Numbers -/

theorem lexical_of_digit {c : Char} (h : c.isDigit = true) : isLexical c = true := by
  simp [isLexical, Char.isAlphanum, h]

end TerseSql.Lexing
