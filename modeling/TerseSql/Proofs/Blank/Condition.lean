import TerseSql.Proofs.Blank.Relation
import TerseSql.Proofs.Blank.Value
import TerseSql.Proofs.Condition.Rule
import TerseSql.Proofs.Condition.Tree
import TerseSql.Proofs.Lexing.Term

/-!
# Conditions without their texts

A condition and the same condition with blank values render to related texts. The texts that
the first holds are those of its values, between percent signs where patterns are.
-/

namespace TerseSql

open Lexing

def Rule.separators : Rule → List String
  | member op listOp => [" " ++ op ++ " ", " " ++ listOp ++ " (", ",", ")"]
  | pattern op joiner => [" " ++ op ++ " ", joiner, "(", ")"]
  | range op => [" " ++ op ++ " ", " AND "]
  | null => [" IS NULL"]
  | plain op => [" " ++ op ++ " "]

def Rule.texts : Rule → Value → List String
  | pattern _ _, v => v.patternTexts
  | _, v => v.texts

namespace Condition.Tree

/-! ## Trees -/

mutual

def blank : Tree → Tree
  | raw r => raw r
  | leaf name v => leaf name v.blank
  | group c members => group c (blankAll members)
  | broken _ => broken (.condition .notNull)

def blankAll : List Tree → List Tree
  | [] => []
  | t :: rest => blank t :: blankAll rest

end

def leafTexts (b : Builtin) (name : String) (v : Value) : List String :=
  match ConditionTerm.ofKey name with
  | .ok t => (b.rule t.operator).texts v
  | .error _ => []

mutual

def texts (b : Builtin) : Tree → List String
  | raw _ | broken _ => []
  | leaf name v => leafTexts b name v
  | group _ members => textsOf b members

def textsOf (b : Builtin) : List Tree → List String
  | [] => []
  | t :: rest => texts b t ++ textsOf b rest

end

mutual

/-- No piece is raw, and every condition on a field satisfies `P`. -/
def Every (P : String → Value → Prop) : Tree → Prop
  | raw _ => False
  | leaf name v => P name v
  | group _ members => EveryOf P members
  | broken _ => True

def EveryOf (P : String → Value → Prop) : List Tree → Prop
  | [] => True
  | t :: rest => Every P t ∧ EveryOf P rest

end

mutual

theorem every_imp {P Q : String → Value → Prop} (h : ∀ name v, P name v → Q name v) :
    ∀ t : Tree, t.Every P → t.Every Q
  | .raw _, ht => ht
  | .leaf name v, ht => h name v ht
  | .group _ members, ht => everyOf_imp h members ht
  | .broken _, _ => trivial

theorem everyOf_imp {P Q : String → Value → Prop} (h : ∀ name v, P name v → Q name v) :
    ∀ ts : List Tree, EveryOf P ts → EveryOf Q ts
  | [], _ => trivial
  | t :: rest, hts => ⟨every_imp h t hts.1, everyOf_imp h rest hts.2⟩

end

end Condition.Tree

def Builtin.KnowsKey (b : Builtin) (key : String) : Prop :=
  ∀ t, ConditionTerm.ofKey key = .ok t → ∀ token, t.operator = some token → b.Knows token

namespace Lexing.TextRelation

variable {b : Builtin} {comments : Bool} (R : TextRelation (b.rules comments))

/-- A value other than a text whose literal is related to itself. Collections have none. -/
def Admits : Value → Prop
  | .text _ | .list _ | .dict _ => True
  | v => Alike (R.holds · · []) (b.dialect.literal v) (b.dialect.literal v)

def Covers (v : Value) : Prop :=
  ∀ x ∈ v.leaves, R.Admits x

structure AdmitsLeaf (name : String) (v : Value) : Prop where
  knows : b.KnowsKey name
  separates {t : ConditionTerm} : ConditionTerm.ofKey name = .ok t →
    ∀ sep ∈ (b.rule t.operator).separators, (b.rules comments).isSeparator sep = true
  covers : R.Covers v

/-- Texts in quotes are related whatever they are, and so are the fields of conditions. -/
structure Suits : Prop where
  text (s s' : String) : R.holds (b.dialect.quoteText s) (b.dialect.quoteText s') [s]
  field {key : String} {t : ConditionTerm} : ConditionTerm.ofKey key = .ok t →
    R.holds (t.field.render b.dialect.toLexicon) (t.field.render b.dialect.toLexicon) []

end Lexing.TextRelation

namespace Lexing

variable {b : Builtin} {comments : Bool} {R : TextRelation (b.rules comments)}

theorem covers_of_mem {items : List Value} (h : R.Covers (.list items)) :
    ∀ item ∈ items, R.Covers item :=
  fun _ hitem x hx => h x (Value.mem_leaves_list hitem hx)

theorem covers_collapse {v : Value} (h : R.Covers v) : R.Covers v.collapse := by
  intro x hx
  rw [Value.leaves_collapse] at hx
  exact h x hx

theorem holds_between {field sep s s' : String} {a : List String} (hfield : R.holds field field [])
    (hsep : (b.rules comments).isSeparator sep = true) (hs : R.holds s s' a) :
    R.holds (field ++ sep ++ s) (field ++ sep ++ s') a :=
  R.joint hfield hsep hs

section

variable (hsuits : R.Suits)
include hsuits

/-! ## Literals -/

theorem literal_alike {v : Value} (h : R.Covers v) :
    Alike (R.holds · · v.texts) (b.dialect.literal v) (b.dialect.literal v.blank) := by
  cases v with
  | text s =>
    rw [literal_eq, literal_eq]
    exact .ok (hsuits.text s "")
  | list items =>
    rw [literal_eq, literal_eq, Value.blank_list]
    exact .error
  | dict entries =>
    rw [literal_eq, literal_eq]
    exact .error
  | _ => exact h _ List.mem_cons_self

theorem literal_wrapPattern_alike {v : Value} (h : R.Covers v) :
    Alike (R.holds · · v.patternTexts) (b.dialect.literal v.wrapPattern)
      (b.dialect.literal v.blank.wrapPattern) := by
  cases v with
  | text s =>
    -- A text stays a text with percent signs around it, whatever it is.
    have hwrap : ∀ t, ∃ w, (Value.text t).wrapPattern = .text w := by
      intro t
      unfold Value.wrapPattern
      dsimp only
      split
      · exact ⟨_, rfl⟩
      · exact ⟨_, rfl⟩
    obtain ⟨w, hw⟩ := hwrap s
    obtain ⟨w', hw'⟩ := hwrap ""
    have htexts : (Value.text s).patternTexts = [w] := by
      rw [Value.patternTexts, Value.leaves, List.filterMap_cons, hw]
      · rfl
      · simp
    rw [Value.blank, hw, hw', htexts, literal_eq, literal_eq]
    exact .ok (hsuits.text w w')
  | list items =>
    rw [literal_eq, literal_eq, Value.blank_list]
    exact .error
  | dict entries =>
    rw [literal_eq, literal_eq]
    exact .error
  | _ => exact h _ List.mem_cons_self

theorem literals_alike {items : List Value} (h : R.Covers (.list items)) :
    Alike (R.HoldsAll · · (items.flatMap Value.texts)) (items.mapM b.dialect.literal)
      ((items.map Value.blank).mapM b.dialect.literal) := by
  rw [List.mapM_map]
  exact TextRelation.mapM fun item hitem => literal_alike hsuits (covers_of_mem h item hitem)

/-! ## Rules -/

variable {field : String} (hfield : R.holds field field [])
include hfield

theorem membership_alike {op listOp : String}
    (hsep : ∀ sep ∈ (Rule.member op listOp).separators, (b.rules comments).isSeparator sep = true)
    {v : Value} (h : R.Covers v) :
    Alike (R.holds · · v.texts) (b.dialect.membership op listOp field v)
      (b.dialect.membership op listOp field v.blank) := by
  have hop := hsep (" " ++ op ++ " ") (by simp [Rule.separators])
  have hlist := hsep (" " ++ listOp ++ " (") (by simp [Rule.separators])
  have hcomma := hsep "," (by simp [Rule.separators])
  have hclose := hsep ")" (by simp [Rule.separators])
  have hscalar : ∀ w : Value, R.Covers w → Alike (R.holds · · w.texts)
      (do return field ++ " " ++ op ++ " " ++ (← b.dialect.literal w))
      (do return field ++ " " ++ op ++ " " ++ (← b.dialect.literal w.blank)) := by
    intro w hw
    refine (literal_alike hsuits hw).bind fun s s' hs => .ok ?_
    simpa only [String.append_assoc] using holds_between hfield hop hs
  unfold Renderer.membership
  rw [Value.collapse_blank, ← Value.texts_collapse]
  have hcollapse := covers_collapse h
  generalize v.collapse = w at hcollapse
  cases w with
  | list items =>
    rw [Value.blank_list, Value.texts_list]
    cases items with
    | nil => exact .error
    | cons item rest =>
      refine (literals_alike hsuits hcollapse).bind fun ss ss' hss => .ok ?_
      have hinfix := TextRelation.after
        (holds_between hfield hlist (TextRelation.join hcomma hss)) hclose
      simpa only [String.append_assoc] using hinfix
  | query q =>
    -- A query is its own blank: that it is covered says that its text is related to itself.
    have hliteral : Alike (R.holds · · []) (b.dialect.literal (.query q))
        (b.dialect.literal (.query q)) := hcollapse _ List.mem_cons_self
    rw [literal_eq] at hliteral
    obtain ⟨hq⟩ : Alike (R.holds · · []) (.ok q.sql) (.ok q.sql) := hliteral
    have htexts : (Value.query q).texts = [] := rfl
    rw [htexts]
    refine .ok ?_
    have hinfix := TextRelation.after (holds_between hfield hlist hq) hclose
    simpa only [String.append_assoc] using hinfix
  | _ => exact hscalar _ hcollapse

theorem matchOne_alike {op : String}
    (hop : (b.rules comments).isSeparator (" " ++ op ++ " ") = true) {v : Value}
    (h : R.Covers v) :
    Alike (R.holds · · v.patternTexts) (b.dialect.matchOne op field v)
      (b.dialect.matchOne op field v.blank) := by
  unfold Renderer.matchOne
  refine (literal_wrapPattern_alike hsuits h).bind fun s s' hs => .ok ?_
  simpa only [String.append_assoc] using holds_between hfield hop hs

theorem pattern_alike {op joiner : String}
    (hsep : ∀ sep ∈ (Rule.pattern op joiner).separators, (b.rules comments).isSeparator sep = true)
    {v : Value} (h : R.Covers v) :
    Alike (R.holds · · v.patternTexts) (b.dialect.pattern op joiner field v)
      (b.dialect.pattern op joiner field v.blank) := by
  have hop := hsep (" " ++ op ++ " ") (by simp [Rule.separators])
  have hjoiner := hsep joiner (by simp [Rule.separators])
  have hopen := hsep "(" (by simp [Rule.separators])
  have hclose := hsep ")" (by simp [Rule.separators])
  unfold Renderer.pattern
  rw [Value.collapse_blank, ← Value.patternTexts_collapse]
  have hcollapse := covers_collapse h
  generalize v.collapse = w at hcollapse
  cases w with
  | list items =>
    rw [Value.blank_list, Value.patternTexts_list]
    cases items with
    | nil => exact .error
    | cons item rest =>
      have hall : Alike (R.HoldsAll · · ((item :: rest).flatMap Value.patternTexts))
          ((item :: rest).mapM (b.dialect.matchOne op field))
          (((item :: rest).map Value.blank).mapM (b.dialect.matchOne op field)) := by
        rw [List.mapM_map]
        exact TextRelation.mapM fun x hx =>
          matchOne_alike hsuits hfield hop (covers_of_mem hcollapse x hx)
      refine hall.bind fun ss ss' hss => .ok ?_
      exact TextRelation.after (TextRelation.before hopen (TextRelation.join hjoiner hss)) hclose
  | _ => exact matchOne_alike hsuits hfield hop hcollapse

theorem range_alike {op : String}
    (hsep : ∀ sep ∈ (Rule.range op).separators, (b.rules comments).isSeparator sep = true)
    {v : Value} (h : R.Covers v) :
    Alike (R.holds · · v.texts) (b.dialect.range op field v) (b.dialect.range op field v.blank) := by
  have hop := hsep (" " ++ op ++ " ") (by simp [Rule.separators])
  have hand := hsep " AND " (by simp [Rule.separators])
  unfold Renderer.range
  match v with
  | .list [low, high] =>
    rw [Value.blank_list, Value.texts_list]
    have hlow := covers_of_mem h low List.mem_cons_self
    have hhigh := covers_of_mem h high (List.mem_cons_of_mem _ List.mem_cons_self)
    refine (literal_alike hsuits hlow).bind fun s s' hs => ?_
    refine (literal_alike hsuits hhigh).bind fun t t' ht => .ok ?_
    have hjoint := R.joint (holds_between hfield hop hs) hand ht
    simpa only [String.append_assoc, List.flatMap_cons, List.flatMap_nil, List.append_nil]
      using hjoint
  | .list [] | .list [_] | .list (_ :: _ :: _ :: _) =>
    rw [Value.blank_list]
    exact .error
  | .null | .bool _ | .int _ | .float _ | .text _ | .dict _ | .raw _ | .field _ | .query _
  | .json _ => exact .error

theorem apply_alike {rule : Rule}
    (hsep : ∀ sep ∈ rule.separators, (b.rules comments).isSeparator sep = true)
    {v : Value} (h : R.Covers v) :
    Alike (R.holds · · (rule.texts v)) (rule.apply b.dialect.toRenderer field v)
      (rule.apply b.dialect.toRenderer field v.blank) := by
  cases rule with
  | member op listOp => exact membership_alike hsuits hfield hsep h
  | pattern op joiner => exact pattern_alike hsuits hfield hsep h
  | range op => exact range_alike hsuits hfield hsep h
  | null =>
    have hnull := hsep " IS NULL" (by simp [Rule.separators])
    cases v with
    | null => exact .ok (TextRelation.after hfield hnull)
    | _ => exact .error
  | plain op =>
    have hop := hsep (" " ++ op ++ " ") (by simp [Rule.separators])
    refine (literal_alike hsuits h).bind fun s s' hs => .ok ?_
    simpa only [Rule.texts, String.append_assoc] using holds_between hfield hop hs

end

/-! ## Trees -/

section

variable (hsuits : R.Suits)
include hsuits

theorem leaf_alike {name : String} {v : Value} (h : R.AdmitsLeaf name v) :
    Alike (R.holds · · (Condition.Tree.leafTexts b name v)) (Condition.leaf b.dialect name v)
      (Condition.leaf b.dialect name v.blank) := by
  unfold Condition.leaf Condition.Tree.leafTexts
  cases ht : ConditionTerm.ofKey name with
  | error e => exact .error
  | ok t =>
    have hfield := hsuits.field ht
    have happly := apply_alike hsuits hfield (h.separates ht) h.covers
    rw [← condition_eq (h.knows t ht)] at happly
    refine happly.bind fun s s' hs => .ok ?_
    by_cases hneg : t.negated = true
    · have hnot : (b.rules comments).isSeparator "NOT " = true := isSeparator_of_steady (by decide)
      rw [if_pos hneg, if_pos hneg]
      exact TextRelation.before hnot hs
    · rw [if_neg hneg, if_neg hneg]
      exact hs

end

theorem group_holds (c : Connective) {ss ss' a : List String} (h : R.HoldsAll ss ss' a) :
    R.holds (c.group ss) (c.group ss') a := by
  have hsep : (b.rules comments).isSeparator c.separator = true :=
    isSeparator_of_steady (by cases c <;> decide)
  have hopen : (b.rules comments).isSeparator "(" = true := isSeparator_of_steady (by decide)
  have hclose : (b.rules comments).isSeparator ")" = true := isSeparator_of_steady (by decide)
  have hgroup := TextRelation.after (TextRelation.before hopen (TextRelation.join hsep h)) hclose
  cases h with
  | nil => exact hgroup
  | cons hfirst hrest =>
    cases hrest with
    | nil => rwa [Connective.group, Connective.group, List.append_nil]
    | cons _ _ => exact hgroup

mutual

theorem tree_alike (hsuits : R.Suits) : ∀ t : Condition.Tree, t.Every R.AdmitsLeaf →
    Alike (R.holds · · (t.texts b)) (t.render b.dialect) (t.blank.render b.dialect)
  | .raw _, h => absurd h id
  | .leaf name v, h => by
    rw [Condition.Tree.blank, Condition.Tree.render, Condition.Tree.render, Condition.Tree.texts]
    exact leaf_alike hsuits h
  | .group c members, h => by
    rw [Condition.Tree.blank, Condition.Tree.render, Condition.Tree.render, Condition.Tree.texts]
    exact (trees_alike hsuits members h).bind fun ss ss' hss => .ok (group_holds c hss)
  | .broken e, _ => by
    rw [Condition.Tree.blank, Condition.Tree.render, Condition.Tree.render]
    exact .error

theorem trees_alike (hsuits : R.Suits) : ∀ ts : List Condition.Tree, Condition.Tree.EveryOf R.AdmitsLeaf ts →
    Alike (R.HoldsAll · · (Condition.Tree.textsOf b ts))
      (Condition.Tree.renderAll b.dialect ts)
      (Condition.Tree.renderAll b.dialect (Condition.Tree.blankAll ts))
  | [], _ => .ok .nil
  | t :: rest, h => by
    rw [Condition.Tree.blankAll, Condition.Tree.renderAll, Condition.Tree.renderAll,
      Condition.Tree.textsOf]
    refine (tree_alike hsuits t h.1).bind fun s s' hs => ?_
    exact (trees_alike hsuits rest h.2).bind fun ss ss' hss => .ok (.cons hs hss)

end

/-! ## Separators of the rules -/

theorem named_separates {rule : Rule} (h : rule ∈ Rule.named) :
    ∀ sep ∈ rule.separators, (b.rules comments).isSeparator sep = true := by
  have hall : ∀ rule ∈ Rule.named, ∀ sep ∈ rule.separators, isSteady sep = true := by decide
  exact fun sep hsep => isSeparator_of_steady (hall rule h sep hsep)

theorem symbol_calm {c : Char} (h : isSymbol c = true) :
    (b.rules false).isCalm c = true ∧ c ≠ 'N' := by
  have hnot := forall_symbol (p := fun d => !isDelimiter d) (by decide) h
  rw [Bool.not_eq_true'] at hnot
  refine ⟨calm_of_not_delimiter rfl hnot, ?_⟩
  rintro rfl
  cases h

theorem symbolic_separates {token : String} (h : isSymbolic token = true) :
    ∀ sep ∈ (Rule.plain token).separators, (b.rules false).isSeparator sep = true := by
  intro sep hsep
  obtain rfl := List.mem_singleton.mp hsep
  unfold isSymbolic at h
  rw [Bool.and_eq_true, List.all_eq_true] at h
  have hblank : (b.rules false).isCalm ' ' = true ∧ ' ' ≠ 'N' := ⟨rfl, by decide⟩
  refine isSeparator_of_calm (by simp) fun c hc => ?_
  simp only [String.toList_append, List.mem_append] at hc
  rcases hc with (hc | hc) | hc
  · rwa [List.mem_singleton.mp hc]
  · exact symbol_calm (h.2 c hc)
  · rwa [List.mem_singleton.mp hc]

theorem separates_of_knows {token : Option String} (h : ∀ t, token = some t → b.Knows t) :
    ∀ sep ∈ (b.rule token).separators, (b.rules false).isSeparator sep = true := by
  rcases rule_cases h with hnamed | ⟨t, hsymbolic, hrule⟩
  · exact named_separates hnamed
  · rw [hrule]
    exact symbolic_separates hsymbolic

end Lexing

end TerseSql
