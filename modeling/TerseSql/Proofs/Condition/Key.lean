import TerseSql.Proofs.Condition.Grammar
import TerseSql.Proofs.Shorthand.Term

/-!
# Characters of the keys of conditions

The field and the function of a condition are made of characters of its key, and the grammar
of keys lets only words, points and white space stand there.
-/

namespace TerseSql

/-! ## Trimming and splitting -/

theorem mem_of_mem_trim {s : String} {c : Char} (h : c ∈ (Text.trim s).toList) : c ∈ s.toList := by
  unfold Text.trim Text.trimChars at h
  rw [String.toList_ofList, List.mem_reverse] at h
  exact mem_of_mem_trimLeft (List.mem_reverse.mp (mem_of_mem_trimLeft h))

theorem mem_of_mem_splitChars {sep c : Char} {cs part : List Char}
    (hpart : part ∈ Text.splitChars sep cs) (hc : c ∈ part) : c ∈ cs := by
  induction cs generalizing part with
  | nil =>
    rw [Text.splitChars, List.mem_singleton] at hpart
    rw [hpart] at hc
    cases hc
  | cons d cs ih =>
    unfold Text.splitChars at hpart
    by_cases hd : d = sep
    · rw [if_pos hd] at hpart
      rcases List.mem_cons.mp hpart with rfl | hpart
      · cases hc
      · exact List.mem_cons_of_mem _ (ih hpart hc)
    · rw [if_neg hd] at hpart
      cases hsplit : Text.splitChars sep cs with
      | nil => exact absurd hsplit (Text.splitChars_ne_nil sep cs)
      | cons first rest =>
        rw [hsplit] at hpart
        rcases List.mem_cons.mp hpart with rfl | hpart
        · rcases List.mem_cons.mp hc with rfl | hc
          · exact List.mem_cons_self
          · exact List.mem_cons_of_mem _ (ih (hsplit ▸ List.mem_cons_self) hc)
        · exact List.mem_cons_of_mem _ (ih (hsplit ▸ List.mem_cons_of_mem _ hpart) hc)

theorem mem_of_mem_split {sep c : Char} {s part : String} (hpart : part ∈ Text.split sep s)
    (hc : c ∈ part.toList) : c ∈ s.toList := by
  unfold Text.split at hpart
  obtain ⟨cs, hcs, rfl⟩ := List.mem_map.mp hpart
  rw [String.toList_ofList] at hc
  exact mem_of_mem_splitChars hcs hc

/-! ## Fields -/

theorem mem_of_mem_parts {path : String} {f : Field} (h : Field.ofPath path = .ok f) {part : String}
    (hpart : part ∈ f.parts) {c : Char} (hc : c ∈ part.toList) : c ∈ path.toList := by
  rw [Field.parts_ofPath h] at hpart
  exact mem_of_mem_split hpart hc

theorem mem_of_mem_readFunction {func : Option String} {g : String} {distinct : Bool}
    (h : FieldExpr.readFunction func = (some g, distinct)) {c : Char} (hc : c ∈ g.toList) :
    ∃ f, func = some f ∧ c ∈ f.toList := by
  unfold FieldExpr.readFunction at h
  cases func with
  | none => cases h
  | some f =>
    refine ⟨f, rfl, ?_⟩
    rw [Option.map_some] at h
    have hmem : c ∈ (Text.trim f).toList := by
      cases hf : (Text.trim f).toList with
      | nil => rw [hf] at h; cases h
      | cons d rest =>
        rw [hf] at h
        by_cases hdot : d = '.'
        · subst hdot
          cases h
          rw [String.toList_ofList] at hc
          exact List.mem_cons_of_mem _ hc
        · have hread : (some (String.ofList (d :: rest)), false) = (some g, distinct) := by
            rw [← h]
            split <;> simp_all
          cases hread
          rwa [String.toList_ofList] at hc
    exact mem_of_mem_trim hmem

/-! ## Keys -/

theorem conditionText_of_condition? {key : String} {k : Grammar.ConditionKey}
    (h : Grammar.condition? key = some k) :
    (∀ c ∈ k.path.toList, Grammar.isConditionText c = true) ∧
      ∀ f, k.func = some f → ∀ c ∈ f.toList, Grammar.isConditionText c = true := by
  obtain ⟨negated, body, name, func, op, -, hbody, rfl⟩ := Grammar.condition?_eq_some_iff.mp h
  cases hbody with
  | bare hname =>
    refine ⟨fun c hc => hname.text c ?_, fun f hf => nomatch hf⟩
    rwa [String.toList_ofList] at hc
  | under hname hfunc =>
    refine ⟨fun c hc => hname.text c ?_, fun f hf c hc => hfunc.text c ?_⟩
    · rwa [String.toList_ofList] at hc
    · cases hf
      rwa [String.toList_ofList] at hc

/-- What a condition is on: a field whose parts, and perhaps a function whose name, are made
of words, points and white space. -/
theorem field_of_ofKey {key : String} {t : ConditionTerm} (h : ConditionTerm.ofKey key = .ok t) :
    t.field.aliasName = none ∧
      (∀ part ∈ t.field.field.parts, ∀ c ∈ part.toList, Grammar.isConditionText c = true) ∧
      ∀ f, t.field.func = some f → ∀ c ∈ f.toList, Grammar.isConditionText c = true := by
  obtain ⟨k, _, hk, hmade, rfl⟩ := ConditionTerm.ofKey_eq_ok_iff.mp h
  obtain ⟨f, hf, rfl⟩ := FieldExpr.make_eq_ok_iff.mp hmade
  obtain ⟨hpath, hfunc⟩ := conditionText_of_condition? hk
  refine ⟨rfl, fun part hpart c hc => ?_, fun g hg c hc => ?_⟩
  · exact hpath c (mem_of_mem_trim (mem_of_mem_trim (mem_of_mem_parts hf hpart hc)))
  · obtain ⟨g', hg', hc'⟩ := mem_of_mem_readFunction (Prod.ext hg rfl) hc
    exact hfunc g' hg' c hc'

end TerseSql
