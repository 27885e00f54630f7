import TerseSql.Proofs.Blank.Condition
import TerseSql.Proofs.Mirror.Value

/-!
# Conditions under two dialects

MySQL knows one operator more than the generic dialect, `regexp`. Any other condition is
written by the same rule in both, with the marks of the dialect around its names.
-/

namespace TerseSql

open Lexing Text

/-! ## Rules -/

/-- An operator that both dialects read in the same way, without marks around names. -/
def IsSharedOperator (token : Option String) : Prop :=
  ∀ t, token = some t → IsUnmarked t ∧ Registry.normalize t ≠ "regexp"

theorem rule_mysql {token : Option String} (h : IsSharedOperator token) :
    Builtin.mysql.rule token = Builtin.generic.rule token := by
  have hnormal : Registry.normalize ((token.filter fun t => !Text.isAllBlank t).getD "=") ≠
      "regexp" := by
    cases hfilter : token.filter fun t => !Text.isAllBlank t with
    | none => decide
    | some t => exact (h t (Option.filter_eq_some_iff.mp hfilter).1).2
  unfold Builtin.rule
  dsimp only
  generalize (token.filter fun t => !Text.isAllBlank t).getD "=" = t at hnormal
  have hown : Builtin.mysql.ownRules.lookup (Registry.normalize t) = none := by
    show List.lookup (Registry.normalize t) [("regexp", Rule.plain "REGEXP")] = none
    rw [List.lookup_cons, beq_false_of_ne hnormal]
    rfl
  rw [hown]
  rfl

theorem words_unmarked {token : Option String} (h : IsSharedOperator token) :
    ∀ w ∈ (Builtin.generic.rule token).words, IsUnmarked w :=
  forall_words .generic (by decide) fun op hop => (h op hop).1

section

variable {R : Query → Query → Prop} (hR : ∀ q q', R q q' → q.Mirrors q')
include hR

variable {field field' : String} (hfield : Mirrors field field') {v v' : Value}
  (hv : v.Twins R v')
include hfield

omit hR in
theorem mirrors_operation {op s s' : String} (hop : IsUnmarked op) (hs : Mirrors s s') :
    Mirrors (field ++ " " ++ op ++ " " ++ s) (field' ++ " " ++ op ++ " " ++ s') :=
  (((hfield.after (by decide)).after hop).after (by decide)).append hs

omit hR in
theorem mirrors_enclosed {op s s' : String} (hop : IsUnmarked op) (hs : Mirrors s s') :
    Mirrors (field ++ " " ++ op ++ " (" ++ s ++ ")") (field' ++ " " ++ op ++ " (" ++ s' ++ ")") :=
  ((((hfield.after (by decide)).after hop).after (by decide)).append hs).after (by decide)

include hv

theorem membership_mirrors {op listOp : String} (hop : IsUnmarked op) (hlist : IsUnmarked listOp) :
    Alike Mirrors (Builtin.generic.dialect.membership op listOp field v)
      (Builtin.mysql.dialect.membership op listOp field' v') := by
  have hscalar : ∀ {w w' : Value}, w.Twins R w' → Alike Mirrors
      (do return field ++ " " ++ op ++ " " ++ (← Builtin.generic.dialect.literal w))
      (do return field' ++ " " ++ op ++ " " ++ (← Builtin.mysql.dialect.literal w')) :=
    fun hw => (literal_mirrors hR hw).bind fun s s' hs => .ok (mirrors_operation hfield hop hs)
  unfold Renderer.membership
  have hcollapse := hv.collapse
  generalize v.collapse = w, v'.collapse = w' at hcollapse
  cases hcollapse with
  | list hitems =>
    cases hitems with
    | nil => exact .error
    | cons hitem hrest =>
      apply (literals_mirrors hR (.cons hitem hrest)).bind
      intro ss ss' hss
      exact .ok (mirrors_enclosed hfield hlist (Mirrors.join (by decide) hss))
  | query hq => exact .ok (mirrors_enclosed hfield hlist (hR _ _ hq).sql)
  | null => exact hscalar .null
  | bool b => exact hscalar (.bool b)
  | int n => exact hscalar (.int n)
  | float x => exact hscalar (.float x)
  | text hs => exact hscalar (.text hs)
  | field hf => exact hscalar (.field hf)
  | dict hentries => exact hscalar (.dict hentries)

theorem matchOne_mirrors {op : String} (hop : IsUnmarked op) :
    Alike Mirrors (Builtin.generic.dialect.matchOne op field v)
      (Builtin.mysql.dialect.matchOne op field' v') :=
  (literal_mirrors hR hv.wrapPattern).bind fun _ _ hs => .ok (mirrors_operation hfield hop hs)

theorem pattern_mirrors {op joiner : String} (hop : IsUnmarked op) (hjoiner : IsUnmarked joiner) :
    Alike Mirrors (Builtin.generic.dialect.pattern op joiner field v)
      (Builtin.mysql.dialect.pattern op joiner field' v') := by
  unfold Renderer.pattern
  have hcollapse := hv.collapse
  generalize v.collapse = w, v'.collapse = w' at hcollapse
  cases hcollapse with
  | list hitems =>
    cases hitems with
    | nil => exact .error
    | cons hitem hrest =>
      have hmatches := Alike.mapM (Value.TwinItems.cons hitem hrest).forall₂
        (fun _ _ hw => matchOne_mirrors hR hfield hw hop)
      apply hmatches.bind
      intro ss ss' hss
      exact .ok (((Mirrors.join hjoiner hss).before (by decide)).after (by decide))
  | query hq => exact matchOne_mirrors hR hfield (.query hq) hop
  | null => exact matchOne_mirrors hR hfield .null hop
  | bool b => exact matchOne_mirrors hR hfield (.bool b) hop
  | int n => exact matchOne_mirrors hR hfield (.int n) hop
  | float x => exact matchOne_mirrors hR hfield (.float x) hop
  | text hs => exact matchOne_mirrors hR hfield (.text hs) hop
  | field hf => exact matchOne_mirrors hR hfield (.field hf) hop
  | dict hentries => exact matchOne_mirrors hR hfield (.dict hentries) hop

theorem range_mirrors {op : String} (hop : IsUnmarked op) :
    Alike Mirrors (Builtin.generic.dialect.range op field v)
      (Builtin.mysql.dialect.range op field' v') := by
  unfold Renderer.range
  cases hv with
  | list hitems =>
    cases hitems with
    | nil => exact .error
    | cons hlow hrest =>
      cases hrest with
      | nil => exact .error
      | cons hhigh hrest =>
        cases hrest with
        | nil =>
          apply (literal_mirrors hR hlow).bind
          intro s s' hs
          apply (literal_mirrors hR hhigh).bind
          intro t t' ht
          exact .ok (((mirrors_operation hfield hop hs).after (by decide)).append ht)
        | cons _ _ => exact .error
  | _ => exact .error

omit hR in
theorem nullTest_mirrors :
    Alike Mirrors (Renderer.nullTest field v) (Renderer.nullTest field' v') := by
  unfold Renderer.nullTest
  cases hv with
  | null => exact .ok (hfield.after (by decide))
  | _ => exact .error

theorem infixed_mirrors {token : String} (h : IsUnmarked token) :
    Alike Mirrors (Builtin.generic.dialect.infixed token field v)
      (Builtin.mysql.dialect.infixed token field' v') := by
  unfold Renderer.infixed
  by_cases hquantified : isQuantified token = true
  · rw [if_pos hquantified, if_pos hquantified]
    cases hv with
    | field hf => exact .ok (mirrors_enclosed hfield h.upper (field_mirrors hf))
    | query hq => exact .ok (mirrors_enclosed hfield h.upper (hR _ _ hq).sql)
    | _ => exact .error
  · rw [if_neg hquantified, if_neg hquantified]
    exact (literal_mirrors hR hv).bind fun _ _ hs => .ok (mirrors_operation hfield h hs)

/-- A rule writes mirror images if its words have no marks. -/
theorem rule_mirrors {rule : Rule} (hwords : ∀ w ∈ rule.words, IsUnmarked w) :
    Alike Mirrors (rule.condition Builtin.generic.dialect.toRenderer field v)
      (rule.condition Builtin.mysql.dialect.toRenderer field' v') := by
  cases rule with
  | member op listOp =>
    exact membership_mirrors hR hfield hv (hwords op (by simp [Rule.words]))
      (hwords listOp (by simp [Rule.words]))
  | pattern op joiner =>
    exact pattern_mirrors hR hfield hv (hwords op (by simp [Rule.words]))
      (hwords joiner (by simp [Rule.words]))
  | range op => exact range_mirrors hR hfield hv (hwords op (by simp [Rule.words]))
  | null => exact nullTest_mirrors hfield hv
  | plain op => exact infixed_mirrors hR hfield hv (hwords op (by simp [Rule.words]))

theorem condition_mirrors {token : Option String} (h : IsSharedOperator token) :
    Alike Mirrors (Builtin.generic.dialect.condition token field v)
      (Builtin.mysql.dialect.condition token field' v') := by
  rw [condition_eq_rule, condition_eq_rule, rule_mysql h]
  exact rule_mirrors hR hfield hv (words_unmarked h)

end

/-! ## Trees -/

def IsSharedKey (key : String) : Prop :=
  ∀ t, ConditionTerm.ofKey key = .ok t → IsSharedOperator t.operator

theorem conditionField_unmarked {key : String} {t : ConditionTerm}
    (h : ConditionTerm.ofKey key = .ok t) : t.field.IsUnmarked := by
  obtain ⟨hbare, hparts, hfunc⟩ := field_of_ofKey h
  exact {
    field := fun part hpart => isUnmarked_of_all (by decide) (hparts part hpart)
    func := fun func hf => isUnmarked_of_all (by decide) (hfunc func hf)
    aliasName := fun aliasName ha => by rw [hbare] at ha; cases ha }

section

variable {R : Query → Query → Prop} (hR : ∀ q q', R q q' → q.Mirrors q')
include hR

theorem leaf_mirrors {name : String} (h : IsSharedKey name) {v v' : Value} (hv : v.Twins R v') :
    Alike Mirrors (Condition.leaf Builtin.generic.dialect name v)
      (Condition.leaf Builtin.mysql.dialect name v') := by
  unfold Condition.leaf
  apply (Alike.self (ConditionTerm.ofKey name)).bind
  rintro t _ ⟨rfl, ht⟩
  have hfield := fieldExpr_mirrors (conditionField_unmarked ht)
  unfold ConditionTerm.render
  apply (condition_mirrors hR hfield hv (h t ht)).bind
  intro s s' hs
  by_cases hnegated : t.negated = true
  · rw [if_pos hnegated, if_pos hnegated]
    exact .ok (hs.before (by decide))
  · rw [if_neg hnegated, if_neg hnegated]
    exact .ok hs

omit hR in
theorem group_mirrors (c : Connective) {ss ss' : List String} (h : List.Forall₂ Mirrors ss ss') :
    Mirrors (c.group ss) (c.group ss') := by
  have hseparator : IsUnmarked c.separator := by cases c <;> decide
  have hjoin := ((Mirrors.join hseparator h).before (p := "(") (by decide)).after
    (p := ")") (by decide)
  match h with
  | .nil => exact hjoin
  | .cons hs .nil => exact hs
  | .cons _ (.cons _ _) => exact hjoin

namespace Condition.Tree

structure IsShared (ts : List Tree) : Prop where
  keys : EveryOf (fun name _ => IsSharedKey name) ts

omit hR in
theorem isShared_cons {t : Tree} {rest : List Tree} :
    IsShared (t :: rest) ↔ IsShared [t] ∧ IsShared rest := by
  constructor
  · intro h
    exact ⟨⟨h.keys.1, trivial⟩, ⟨h.keys.2⟩⟩
  · rintro ⟨h, hrest⟩
    exact ⟨h.keys.1, hrest.keys⟩

theorem ofSingle_mirrors {name : String} {v v' : Value} (hv : v.Twins R v')
    (h : IsShared [ofSingle (.name name) v]) :
    Alike Mirrors ((ofSingle (.name name) v).render Builtin.generic.dialect)
      ((ofSingle (.name name) v').render Builtin.mysql.dialect) := by
  unfold ofSingle at h ⊢
  dsimp only at h ⊢
  cases hc : Connective.ofKey? name with
  | some c => exact .error
  | none =>
    rw [hc] at h
    exact leaf_mirrors hR h.keys.1 hv

theorem ofCollection_mirrors {name : String} {v v' : Value} (hv : v.Twins R v')
    {members members' : List Tree}
    (hmembers : IsShared members → Alike (List.Forall₂ Mirrors)
      (renderAll Builtin.generic.dialect members) (renderAll Builtin.mysql.dialect members'))
    (h : IsShared [ofCollection (.name name) v members]) :
    Alike Mirrors ((ofCollection (.name name) v members).render Builtin.generic.dialect)
      ((ofCollection (.name name) v' members').render Builtin.mysql.dialect) := by
  unfold ofCollection at h ⊢
  dsimp only at h ⊢
  cases hc : Connective.ofKey? name with
  | some c =>
    rw [hc] at h
    exact (hmembers ⟨h.keys.1⟩).bind fun ss ss' hss => .ok (group_mirrors c hss)
  | none =>
    rw [hc] at h
    exact leaf_mirrors hR h.keys.1 hv

omit hR in
theorem renderAll_cons_mirrors {t t' : Tree} {rest rest' : List Tree}
    (h : Alike Mirrors (t.render Builtin.generic.dialect) (t'.render Builtin.mysql.dialect))
    (hrest : Alike (List.Forall₂ Mirrors) (renderAll Builtin.generic.dialect rest)
      (renderAll Builtin.mysql.dialect rest')) :
    Alike (List.Forall₂ Mirrors) (renderAll Builtin.generic.dialect (t :: rest))
      (renderAll Builtin.mysql.dialect (t' :: rest')) := by
  rw [renderAll, renderAll]
  exact h.bind fun s s' hs => hrest.bind fun ss ss' hss => .ok (.cons hs hss)

omit hR in
/-- A list that is no pair is no item of a group, and neither is its mirror image. -/
theorem ofItems_mirrors_of_not_pair {members members' : List Value}
    (hmembers : Value.TwinItems R members members') (h : members.length ≠ 2)
    (rest rest' : List Value) :
    Alike (List.Forall₂ Mirrors)
      (renderAll Builtin.generic.dialect (ofItems (.list members :: rest)))
      (renderAll Builtin.mysql.dialect (ofItems (.list members' :: rest'))) := by
  have h' : members'.length ≠ 2 := by rwa [← hmembers.forall₂.length_eq]
  rw [ofItems_of_not_pair h, ofItems_of_not_pair h']
  exact .error

end Condition.Tree

end

namespace Condition.Tree

variable {R : Query → Query → Prop}

mutual

theorem ofEntry_mirrors (hR : ∀ q q', R q q' → q.Mirrors q') (name : String) : ∀ v v' : Value, v.Twins R v' →
    IsShared [ofEntry (.name name) v] →
    Alike Mirrors ((ofEntry (.name name) v).render Builtin.generic.dialect)
      ((ofEntry (.name name) v').render Builtin.mysql.dialect)
  | .dict ⟨entries⟩ => by
    intro _ hv h
    cases hv with
    | dict hentries =>
      rw [ofEntry] at h ⊢
      rw [ofEntry]
      exact ofCollection_mirrors hR (.dict hentries) (ofEntries_mirrors hR entries _ hentries) h
  | .list items => by
    intro _ hv h
    cases hv with
    | list hitems =>
      rw [ofEntry] at h ⊢
      rw [ofEntry]
      exact ofCollection_mirrors hR (.list hitems) (ofItems_mirrors hR items _ hitems) h
  | .null | .bool _ | .int _ | .float _ | .text _ | .field _ | .query _ => by
    intro _ hv h
    cases hv
    all_goals
      simp only [ofEntry] at h ⊢
      apply ofSingle_mirrors hR _ h
      constructor
    all_goals assumption
  | .raw _ | .json _ => by
    intro _ hv _
    cases hv

theorem ofEntries_mirrors (hR : ∀ q q', R q q' → q.Mirrors q') :
    ∀ entries entries' : List (Key × Value),
    Value.TwinEntries R entries entries' → IsShared (ofEntries entries) →
    Alike (List.Forall₂ Mirrors) (renderAll Builtin.generic.dialect (ofEntries entries))
      (renderAll Builtin.mysql.dialect (ofEntries entries'))
  | [] => by
    intro _ hentries _
    cases hentries
    exact .ok .nil
  | (key, v) :: rest => by
    intro _ hentries h
    cases hentries with
    | cons hv hrest =>
      rw [ofEntries, isShared_cons] at h
      rw [ofEntries, ofEntries]
      exact renderAll_cons_mirrors (ofEntry_mirrors hR _ v _ hv h.1)
        (ofEntries_mirrors hR rest _ hrest h.2)

theorem ofItems_mirrors (hR : ∀ q q', R q q' → q.Mirrors q') :
    ∀ items items' : List Value, Value.TwinItems R items items' → IsShared (ofItems items) →
    Alike (List.Forall₂ Mirrors) (renderAll Builtin.generic.dialect (ofItems items))
      (renderAll Builtin.mysql.dialect (ofItems items'))
  | [] => by
    intro _ hitems _
    cases hitems
    exact .ok .nil
  | .text name :: rest => by
    intro _ hitems h
    cases hitems with
    | cons hitem hrest =>
      cases hitem with
      | text _ =>
        rw [ofItems, isShared_cons] at h
        rw [ofItems, ofItems]
        exact renderAll_cons_mirrors (ofSingle_mirrors hR .null h.1)
          (ofItems_mirrors hR rest _ hrest h.2)
  | .list [k, v] :: rest => by
    intro _ hitems h
    cases hitems with
    | cons hitem hrest =>
      cases hitem with
      | list hpair =>
        cases hpair with
        | cons hk hv =>
          cases hv with
          | cons hv hnil =>
            cases hnil
            rw [ofItems] at h
            rw [ofItems, ofItems]
            cases hk with
            | @text key _ =>
              dsimp only [pairKey] at h ⊢
              rw [isShared_cons] at h
              exact renderAll_cons_mirrors (ofEntry_mirrors hR key v _ hv h.1)
                (ofItems_mirrors hR rest _ hrest h.2)
            | _ => exact .error
  | .raw _ :: _ | .json _ :: _ => by
    intro _ hitems _
    cases hitems with
    | cons hitem _ => cases hitem
  | .null :: _ | .bool _ :: _ | .int _ :: _ | .float _ :: _ | .dict _ :: _ | .field _ :: _
  | .query _ :: _ => by
    intro _ hitems _
    cases hitems with
    | cons hitem _ =>
      cases hitem
      all_goals simp only [ofItems]
      all_goals exact .error
  | .list [] :: _ | .list [_] :: _ | .list (_ :: _ :: _ :: _) :: _ => by
    intro _ hitems _
    cases hitems with
    | cons hitem _ =>
      cases hitem with
      | list hmembers => exact ofItems_mirrors_of_not_pair hmembers (by simp) _ _

end

end Condition.Tree

end TerseSql
