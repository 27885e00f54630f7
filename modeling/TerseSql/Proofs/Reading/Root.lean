import TerseSql.Proofs.Reading.Tree
import TerseSql.Statement.Clause

/-!
# Predicates without their parentheses

The root of a predicate loses the parentheses of a single group. What is inside them is one
unit still if it holds no connective between spaces, so that a predicate may be followed by AND
as it is.
-/

namespace TerseSql

open Lexing Reading Statement

/-! ## Connectives between spaces -/

namespace Text

theorem occursIn_append (needle before after : List Char) :
    occursIn needle (before ++ needle ++ after) = true := by
  induction before with
  | nil =>
    rw [List.nil_append]
    cases needle with
    | nil => cases after <;> simp [occursIn]
    | cons c needle => simp [occursIn]
  | cons c before ih =>
    rw [List.cons_append, List.cons_append, occursIn, ih, Bool.or_true]

theorem contains_append (before needle after : String) :
    contains (before ++ needle ++ after) needle = true := by
  unfold contains
  rw [String.toList_append, String.toList_append]
  exact occursIn_append _ _ _

end Text

theorem isCompound_append (c : Connective) (before after : String) :
    isCompound (before ++ c.separator ++ after) = true := by
  have hcontains := Text.contains_append before c.separator after
  unfold isCompound
  rw [Bool.or_eq_true]
  cases c with
  | and => exact Or.inl hcontains
  | or => exact Or.inr hcontains

/-- Texts under a connective, of which there are at least two, are compound. -/
theorem eq_singleton_of_not_compound {c : Connective} {ss : List String} (hne : ss ≠ [])
    (h : isCompound (Text.join c.separator ss) = false) : ∃ s, ss = [s] := by
  rcases ss with _ | ⟨s, _ | ⟨t, ss⟩⟩
  · exact absurd rfl hne
  · exact ⟨s, rfl⟩
  · rw [Text.join, isCompound_append] at h
    cases h

namespace Reading

open Condition

variable {b : Builtin} {s inner : String} {φ : Formula}

/-! ## Insides of conditions -/

theorem ReadsAtom.inside?_eq_none (h : ReadsAtom b s) : inside? s = none := by
  cases hinside : inside? s with
  | none => rfl
  | some inner =>
    obtain ⟨ls, ⟨ts, hts, rfl⟩, hatom⟩ := h
    obtain ⟨mid, rfl, -⟩ := spells_inner hts (inside?_eq_some_iff.mp hinside).1
    obtain ⟨l, rest, hls, hrole, -⟩ := hatom
    have hwords : words (.mark '(' :: (mid ++ [Token.mark ')'])) =
        .sign '(' :: words (mid ++ [Token.mark ')']) := rfl
    rw [hwords] at hls
    obtain ⟨rfl, -⟩ := List.cons.inj hls
    cases hrole

/-- The inside of a condition, if it is not compound, is a unit that says the same. -/
theorem ReadsAs.unit_inside (h : ReadsAs b s φ) (hinside : inside? s = some inner)
    (hsimple : isCompound inner = false) : ReadsBy IsUnit b inner φ := by
  cases h with
  | atom hatom =>
    rw [hatom.inside?_eq_none] at hinside
    cases hinside
  | @matches_ c ss hne hatoms =>
    obtain rfl := eq_of_inside? hinside
    obtain ⟨t, rfl⟩ := eq_singleton_of_not_compound hne hsimple
    refine (hatoms t List.mem_cons_self).unit.congr fun v => ?_
    cases c with
    | and => exact Formula.eval_conj v [b.atom t]
    | or => exact Formula.eval_disj v [b.atom t]

theorem unit_inside_leaf {name : String} {v : Value} (h : b.ReadableLeaf name v)
    (hs : Condition.leaf b.dialect name v = .ok s) (hinside : inside? s = some inner)
    (hsimple : isCompound inner = false) :
    ∃ φ, Tree.leafFormula? b name v = some φ ∧ ReadsBy IsUnit b inner φ := by
  obtain ⟨t, u, ht, hu, rfl⟩ := exists_of_leaf hs
  have hfield : ReadsAtom b (t.field.render b.dialect.toLexicon) :=
    readsAtom_field (field_of_ofKey ht).1 (h.function ht)
  obtain ⟨φ, hφ, hreads⟩ := readsAs_condition hfield (h.knows t ht) h.literal hu
  unfold Tree.leafFormula?
  rw [ht]
  dsimp only
  rw [hφ, Option.map_some]
  by_cases hneg : t.negated = true
  · -- A negated condition starts with its NOT, so it has no inside.
    rw [if_pos hneg] at hinside
    have hstarts := (inside?_eq_some_iff.mp hinside).1
    simp at hstarts
  · rw [if_neg hneg] at hinside ⊢
    exact ⟨_, rfl, hreads.unit_inside hinside hsimple⟩

/-! ## Insides of trees -/

mutual

theorem unit_inside_tree (hsimple : isCompound inner = false) :
    ∀ t : Tree, t.Formed b.ReadableLeaf → ∀ s, t.render b.dialect = .ok s →
      inside? s = some inner → ∃ φ, t.formula? b = some φ ∧ ReadsBy IsUnit b inner φ
  | .raw _, h, _, _, _ => absurd h id
  | .broken _, h, _, _, _ => absurd h id
  | .leaf name v, h, s, hs, hinside => by
    rw [Tree.render] at hs
    rw [Tree.formula?]
    exact unit_inside_leaf h hs hinside hsimple
  | .group c members, h, s, hs, hinside => by
    rw [Tree.render] at hs
    rw [Tree.formula?]
    obtain ⟨ss, hall, hs⟩ := Built.exists_of_bind hs
    cases hs
    by_cases hsingle : ∃ t, ss = [t]
    · obtain ⟨t, rfl⟩ := hsingle
      obtain ⟨φ, hφ, hreads⟩ := unit_inside_single hsimple members h.2 t hall hinside
      rw [hφ]
      refine ⟨_, rfl, hreads.congr fun v => ?_⟩
      cases c with
      | and => exact Formula.eval_conj v [φ]
      | or => exact Formula.eval_disj v [φ]
    · -- A group of more members is compound inside its parentheses.
      have hne : ss ≠ [] := by
        rintro rfl
        exact h.1 (List.length_eq_zero_iff.mp (Tree.length_renderAll hall).symm)
      rw [c.group_eq_parens fun t ht => hsingle ⟨t, ht⟩] at hinside
      obtain rfl := eq_of_inside? hinside
      exact absurd (eq_singleton_of_not_compound hne hsimple) hsingle

theorem unit_inside_single (hsimple : isCompound inner = false) :
    ∀ ts : List Tree, Tree.FormedAll b.ReadableLeaf ts → ∀ s,
      Tree.renderAll b.dialect ts = .ok [s] → inside? s = some inner →
      ∃ φ, Tree.formulas? b ts = some [φ] ∧ ReadsBy IsUnit b inner φ
  | [], _, s, hs, _ => nomatch Tree.length_renderAll hs
  | [t], h, s, hs, hinside => by
    rw [Tree.renderAll, Tree.renderAll] at hs
    obtain ⟨u, hfirst, hs⟩ := Built.exists_of_bind hs
    cases hs
    obtain ⟨φ, hφ, hreads⟩ := unit_inside_tree hsimple t h.1 s hfirst hinside
    refine ⟨φ, ?_, hreads⟩
    rw [Tree.formulas?, Tree.formulas?, hφ]
    rfl
  | _ :: _ :: _, _, s, hs, _ => nomatch Tree.length_renderAll hs

end

end Reading

/-! ## Predicates -/

open Condition

/-- The predicate of conditions that are read is a sentence, and a unit unless it is
compound. -/
theorem reads_predicate {b : Builtin} {conditions : Dict Value}
    (hne : conditions.isEmpty = false)
    (h : Tree.FormedAll b.ReadableLeaf (Tree.ofDict conditions)) {p : String}
    (hp : Condition.render b.dialect conditions = .ok p) :
    ∃ φs, Tree.formulas? b (Tree.ofDict conditions) = some φs ∧
      ReadsBy IsSentence b p (.all φs) ∧
      (isCompound p = false → ReadsBy IsUnit b p (.all φs)) := by
  obtain ⟨ss, hall, rfl⟩ := Tree.exists_of_render hp
  obtain ⟨φs, hφs, hreads⟩ := readsBy_trees _ h ss hall
  -- A dictionary that is not empty has a first entry, and that writes a text.
  have hsome : ss ≠ [] := by
    rintro rfl
    have hnil := List.length_eq_zero_iff.mp (Tree.length_renderAll hall).symm
    obtain ⟨entries⟩ := conditions
    cases entries with
    | nil => cases hne
    | cons e rest =>
      unfold Tree.ofDict at hnil
      rw [Tree.ofEntries] at hnil
      cases hnil
  refine ⟨φs, hφs, readsBy_conjoin hreads hsome, fun hsimple => ?_⟩
  rcases ss with _ | ⟨s, _ | ⟨t, rest⟩⟩
  · exact absurd rfl hsome
  · -- A single condition loses its parentheses, if it has any.
    cases hinside : inside? s with
    | none =>
      cases hreads with
      | @cons _ φ _ _ hfirst hrest =>
        cases hrest
        have hroot : conjoin [s] = s := by rw [conjoin, hinside, Option.getD_none]
        rw [hroot]
        exact hfirst.congr fun v => Formula.eval_conj v [φ]
    | some inner =>
      have hroot : conjoin [s] = inner := by rw [conjoin, hinside, Option.getD_some]
      rw [hroot] at hsimple ⊢
      obtain ⟨φ, hφ, hunit⟩ := unit_inside_single hsimple _ h s hall hinside
      obtain rfl : [φ] = φs := Option.some.inj (hφ.symm.trans hφs)
      exact hunit.congr fun v => Formula.eval_conj v [φ]
  · have hcompound : isCompound (conjoin (s :: t :: rest)) = true :=
      isCompound_append .and s (Text.join " AND " (t :: rest))
    rw [hcompound] at hsimple
    cases hsimple

end TerseSql
