import TerseSql.Proofs.Condition.Inside
import TerseSql.Proofs.Condition.Key
import TerseSql.Proofs.Condition.Tree
import TerseSql.Proofs.Reading.Rule

/-!
# Trees of conditions as formulas

The text of a tree of conditions is read as a formula that says what the tree says. Groups in
parentheses, groups of one member without them, and the root without its own all keep the
members together.
-/

namespace TerseSql

open Lexing Reading

namespace Builtin

variable (b : Builtin)

def read (s : String) : Option Formula :=
  ((b.rules false).scan s).bind fun ts => Reading.read (words ts)

/-- A condition on a field that is read: by an operator that is known and perhaps under a
function whose name is no keyword, of literals. -/
structure ReadableLeaf (name : String) (v : Value) : Prop where
  knows : b.KnowsKey name
  function {t : ConditionTerm} : ConditionTerm.ofKey name = .ok t →
    ∀ func, t.field.func = some func → IsFunctionName func
  literal : IsLiteral v

end Builtin

namespace Condition.Tree

/-! ## Formulas of trees -/

mutual

/-- A tree of groups that have members and of conditions that satisfy `P`. -/
def Formed (P : String → Value → Prop) : Tree → Prop
  | raw _ | broken _ => False
  | leaf name v => P name v
  | group _ members => members ≠ [] ∧ FormedAll P members

def FormedAll (P : String → Value → Prop) : List Tree → Prop
  | [] => True
  | t :: rest => Formed P t ∧ FormedAll P rest

end

def leafFormula? (b : Builtin) (name : String) (v : Value) : Option Formula :=
  match ConditionTerm.ofKey name with
  | .ok t =>
    (b.conditionFormula? t.operator (t.field.render b.dialect.toLexicon) v).map fun φ =>
      if t.negated then .not φ else φ
  | .error _ => none

mutual

def formula? (b : Builtin) : Tree → Option Formula
  | raw _ | broken _ => none
  | leaf name v => leafFormula? b name v
  | group c members => (formulas? b members).map (gather c)

def formulas? (b : Builtin) : List Tree → Option (List Formula)
  | [] => some []
  | t :: rest => do return (← formula? b t) :: (← formulas? b rest)

end

/-! ## Success -/

def Renders (d : Dialect) (name : String) (v : Value) : Prop :=
  ∃ s, Condition.leaf d name v = .ok s

mutual

theorem exists_render_iff (d : Dialect) {P : String → Value → Prop} :
    ∀ t : Tree, t.Formed P → ((∃ s, t.render d = .ok s) ↔ t.Every (Renders d))
  | .raw _, h => absurd h id
  | .broken _, h => absurd h id
  | .leaf name v, _ => by
    rw [render, Every, Renders]
  | .group c members, h => by
    rw [render, Every, ← exists_renderAll_iff d members h.2]
    constructor
    · intro ⟨s, hs⟩
      obtain ⟨ss, hss, _⟩ := Built.exists_of_bind hs
      exact ⟨ss, hss⟩
    · intro ⟨ss, hss⟩
      rw [hss]
      exact ⟨_, rfl⟩

theorem exists_renderAll_iff (d : Dialect) {P : String → Value → Prop} :
    ∀ ts : List Tree, FormedAll P ts →
      ((∃ ss, renderAll d ts = .ok ss) ↔ EveryOf (Renders d) ts)
  | [], _ => by
    rw [renderAll, EveryOf]
    exact ⟨fun _ => trivial, fun _ => ⟨[], rfl⟩⟩
  | t :: rest, h => by
    rw [renderAll, EveryOf, ← exists_render_iff d t h.1, ← exists_renderAll_iff d rest h.2]
    constructor
    · intro ⟨ss, hss⟩
      obtain ⟨first, hfirst, hss⟩ := Built.exists_of_bind hss
      obtain ⟨others, hothers, _⟩ := Built.exists_of_bind hss
      exact ⟨⟨first, hfirst⟩, ⟨others, hothers⟩⟩
    · intro ⟨⟨s, hs⟩, ⟨ss, hss⟩⟩
      rw [hs, hss]
      exact ⟨_, rfl⟩

end

end Condition.Tree

namespace Reading

open Condition

variable {b : Builtin}

/-! ## Conditions on a field -/

theorem readsAtom_field {e : FieldExpr} (hbare : e.aliasName = none)
    (hfunc : ∀ func, e.func = some func → IsFunctionName func) :
    ReadsAtom b (e.render b.dialect.toLexicon) :=
  lexed_fieldExpr b hbare hfunc

theorem readsBy_not {s : String} {φ : Formula} (h : ReadsBy IsOperand b s φ) :
    ReadsBy IsUnit b ("NOT " ++ s) (.not φ) := by
  have hspace : (b.rules false).isSeparator " " = true := isSeparator_of_steady (by decide)
  have hnot : Lexed (b.rules false) "NOT" [.word "NOT"] :=
    ⟨marks "NOT", spells_lexical (by decide), by decide⟩
  obtain ⟨ls, ψ, hlexed, hoperand, heval⟩ := h
  have htext := hnot.joint hspace (by decide) hlexed
  refine ⟨_, .not ψ, htext, hoperand.isUnit_not, fun v => ?_⟩
  rw [Formula.eval, Formula.eval, heval v]

theorem readsBy_leaf {name : String} {v : Value} (h : b.ReadableLeaf name v) {s : String}
    (hs : Condition.leaf b.dialect name v = .ok s) :
    ∃ φ, Tree.leafFormula? b name v = some φ ∧ ReadsBy IsUnit b s φ := by
  obtain ⟨t, u, ht, hu, rfl⟩ := exists_of_leaf hs
  have hfield : ReadsAtom b (t.field.render b.dialect.toLexicon) :=
    readsAtom_field (field_of_ofKey ht).1 (h.function ht)
  obtain ⟨φ, hφ, hreads⟩ := readsOperand_condition hfield (h.knows t ht) h.literal hu
  unfold Tree.leafFormula?
  rw [ht]
  dsimp only
  rw [hφ, Option.map_some]
  by_cases hneg : t.negated = true
  · rw [if_pos hneg, if_pos hneg]
    exact ⟨_, rfl, readsBy_not hreads⟩
  · rw [if_neg hneg, if_neg hneg]
    exact ⟨_, rfl, hreads.imp fun _ _ => IsOperand.isUnit⟩

/-! ## Trees -/

theorem readsBy_group (c : Connective) {ss : List String} {φs : List Formula}
    (h : List.Forall₂ (ReadsBy IsUnit b) ss φs) (hne : ss ≠ []) :
    ReadsBy IsUnit b (c.group ss) (gather c φs) := by
  have hparens := (readsBy_parens (readsBy_join c h hne)).imp fun _ _ => IsOperand.isUnit
  cases h with
  | nil => exact absurd rfl hne
  | @cons s φ ss φs hfirst hrest =>
    cases hrest with
    | cons _ _ => exact hparens
    | nil =>
      refine hfirst.congr fun v => ?_
      cases c with
      | and => exact Formula.eval_conj v [φ]
      | or => exact Formula.eval_disj v [φ]

mutual

theorem readsBy_tree : ∀ t : Tree, t.Formed b.ReadableLeaf → ∀ s, t.render b.dialect = .ok s →
    ∃ φ, t.formula? b = some φ ∧ ReadsBy IsUnit b s φ
  | .raw _, h, _, _ => absurd h id
  | .broken _, h, _, _ => absurd h id
  | .leaf name v, h, s, hs => by
    rw [Tree.render] at hs
    rw [Tree.formula?]
    exact readsBy_leaf h hs
  | .group c members, h, s, hs => by
    rw [Tree.render] at hs
    rw [Tree.formula?]
    obtain ⟨ss, hall, hs⟩ := Built.exists_of_bind hs
    cases hs
    obtain ⟨φs, hφs, hreads⟩ := readsBy_trees members h.2 ss hall
    have hsome : ss ≠ [] := by
      rintro rfl
      cases hreads
      cases members with
      | nil => exact h.1 rfl
      | cons t rest =>
        rw [Tree.formulas?] at hφs
        simp [Option.bind_eq_some_iff] at hφs
    rw [hφs]
    exact ⟨_, rfl, readsBy_group c hreads hsome⟩

theorem readsBy_trees : ∀ ts : List Tree, Tree.FormedAll b.ReadableLeaf ts →
    ∀ ss, Tree.renderAll b.dialect ts = .ok ss →
    ∃ φs, Tree.formulas? b ts = some φs ∧ List.Forall₂ (ReadsBy IsUnit b) ss φs
  | [], _, ss, hss => by
    rw [Tree.renderAll] at hss
    cases hss
    exact ⟨[], by rw [Tree.formulas?], .nil⟩
  | t :: rest, h, ss, hss => by
    rw [Tree.renderAll] at hss
    obtain ⟨s, hfirst, hss⟩ := Built.exists_of_bind hss
    obtain ⟨ss', hrest, hss⟩ := Built.exists_of_bind hss
    cases hss
    obtain ⟨φ, hφ, hreads⟩ := readsBy_tree t h.1 s hfirst
    obtain ⟨φs, hφs, hreadsAll⟩ := readsBy_trees rest h.2 ss' hrest
    refine ⟨φ :: φs, ?_, .cons hreads hreadsAll⟩
    rw [Tree.formulas?, hφ, hφs]
    rfl

end

/-! ## The root -/

theorem readsBy_inside {s inner : String} {φ : Formula} (h : ReadsBy IsUnit b s φ)
    (hinside : inside? s = some inner) : ReadsBy IsSentence b inner φ := by
  obtain ⟨ls, ψ, ⟨ts, hs, rfl⟩, hunit, heval⟩ := h
  obtain ⟨mid, rfl, hmid⟩ := spells_inner hs (inside?_eq_some_iff.mp hinside).1
  have hencloses := hunit.encloses
  rw [words_parens] at hencloses
  obtain ⟨ms, hms, hsentence⟩ := hencloses rfl
  have hinner : words mid = ms := (List.append_inj' (List.cons.inj hms).2 rfl).1
  exact ⟨ms, ψ, ⟨mid, hmid, hinner⟩, hsentence, heval⟩

/-- Conditions that hold together are read as their conjunction, with or without the
parentheses of a single one. -/
theorem readsBy_conjoin {ss : List String} {φs : List Formula}
    (h : List.Forall₂ (ReadsBy IsUnit b) ss φs) (hne : ss ≠ []) :
    ReadsBy IsSentence b (conjoin ss) (.all φs) := by
  have hjoin := readsBy_join .and h hne
  cases h with
  | nil => exact absurd rfl hne
  | @cons s φ ss φs hfirst hrest =>
    cases hrest with
    | cons _ _ => exact hjoin
    | nil =>
      have hsingle : ∀ v, φ.eval v = (Formula.all [φ]).eval v := fun v => Formula.eval_conj v [φ]
      rw [conjoin]
      cases hinside : inside? s with
      | none => exact (hfirst.imp fun _ _ => IsUnit.isSentence).congr hsingle
      | some inner => exact (readsBy_inside hfirst hinside).congr hsingle

theorem read_of_readsBy {s : String} {φ : Formula} (h : ReadsBy IsSentence b s φ) :
    ∃ ψ, b.read s = some ψ ∧ ∀ v, ψ.eval v = φ.eval v := by
  obtain ⟨ls, ψ, ⟨ts, hs, rfl⟩, hsentence, heval⟩ := h
  refine ⟨ψ, ?_, heval⟩
  unfold Builtin.read
  rw [hs.scan, Option.bind_some]
  exact read_of_isSentence hsentence

end Reading

namespace Condition

/-- A tree of conditions keeps its meaning: it is rendered exactly if each of its conditions
is on its own, and then its text is read as a formula that is true where the conjunction of what
the tree says is. -/
theorem read_render (b : Builtin) {conditions : Dict Value} (hne : conditions.isEmpty = false)
    (h : Tree.FormedAll b.ReadableLeaf (Tree.ofDict conditions)) :
    ((∃ sql, render b.dialect conditions = .ok sql) ↔
      Tree.EveryOf (Tree.Renders b.dialect) (Tree.ofDict conditions)) ∧
    ∀ sql, render b.dialect conditions = .ok sql → ∃ φ φs, b.read sql = some φ ∧
      Tree.formulas? b (Tree.ofDict conditions) = some φs ∧
      ∀ v, φ.eval v = (Formula.all φs).eval v := by
  rw [← Tree.exists_renderAll_iff b.dialect _ h, Tree.render_eq]
  cases hall : Tree.renderAll b.dialect (Tree.ofDict conditions) with
  | error e =>
    refine ⟨⟨fun ⟨_, hsql⟩ => ?_, fun ⟨_, hss⟩ => ?_⟩, fun sql hsql => ?_⟩
    · cases hsql
    · cases hss
    · cases hsql
  | ok ss =>
    refine ⟨⟨fun _ => ⟨ss, rfl⟩, fun _ => ⟨_, rfl⟩⟩, fun sql hsql => ?_⟩
    cases hsql
    obtain ⟨φs, hφs, hreads⟩ := readsBy_trees _ h ss hall
    have hsome : ss ≠ [] := by
      rintro rfl
      obtain ⟨entries⟩ := conditions
      cases entries with
      | nil => cases hne
      | cons e rest =>
        unfold Tree.ofDict at hφs
        rw [Tree.ofEntries, Tree.formulas?] at hφs
        cases hreads
        simp [Option.bind_eq_some_iff] at hφs
    obtain ⟨φ, hread, heval⟩ := read_of_readsBy (readsBy_conjoin hreads hsome)
    exact ⟨φ, φs, hread, hφs, heval⟩

theorem readableLeaf_of_key {b : Builtin} {name : String} {t : ConditionTerm} {v : Value}
    (hkey : ConditionTerm.ofKey name = .ok t)
    (hknows : ∀ token, t.operator = some token → b.Knows token) (hfunc : t.field.func = none)
    (hv : IsLiteral v) : b.ReadableLeaf name v where
  knows := by
    intro t' ht
    rw [hkey] at ht
    cases ht
    exact hknows
  function := by
    intro t' ht func hf
    rw [hkey] at ht
    cases ht
    rw [hfunc] at hf
    cases hf
  literal := hv

def alternatives : Dict Value :=
  ⟨[(.name "OR", .dict ⟨[(.name "a[~]", .list [.text "x) AND (", .text "y"]),
    (.name "!b[<>]", .list [.int 1, .int 9])]⟩)]⟩

def alternativesText : String :=
  "(\x22a\x22 LIKE '%x) AND (%' OR \x22a\x22 LIKE '%y%') OR NOT \x22b\x22 BETWEEN 1 AND 9"

/-- The root loses its parentheses, and the group in it keeps its own. -/
theorem read_render_alternatives :
    ∃ φ φs, render Builtin.generic.dialect alternatives = .ok alternativesText ∧
      Builtin.generic.read alternativesText = some φ ∧
      Tree.formulas? .generic (Tree.ofDict alternatives) = some φs ∧
      ∀ v, φ.eval v = (Formula.all φs).eval v := by
  have hpatterns : IsLiteral (.list [.text "x) AND (", .text "y"]) := by
    intro x hx
    have hmem : x = .text "x) AND (" ∨ x = .text "y" := by
      simpa [Value.leaves, Value.leavesOf] using hx
    rcases hmem with rfl | rfl <;> simp
  have hbounds : IsLiteral (.list [.int 1, .int 9]) := by
    intro x hx
    have hmem : x = .int 1 ∨ x = .int 9 := by
      simpa [Value.leaves, Value.leavesOf] using hx
    rcases hmem with rfl | rfl <;> simp
  have hmatch : Builtin.generic.ReadableLeaf "a[~]" (.list [.text "x) AND (", .text "y"]) := by
    have hkey : ConditionTerm.ofKey "a[~]" =
        .ok ⟨false, ⟨⟨none, none, "a"⟩, none, false, none⟩, some "~"⟩ := rfl
    refine readableLeaf_of_key hkey (fun token htoken => ?_) rfl hpatterns
    cases htoken
    exact Or.inr (Or.inl rfl)
  have hrange : Builtin.generic.ReadableLeaf "!b[<>]" (.list [.int 1, .int 9]) := by
    have hkey : ConditionTerm.ofKey "!b[<>]" =
        .ok ⟨true, ⟨⟨none, none, "b"⟩, none, false, none⟩, some "<>"⟩ := rfl
    refine readableLeaf_of_key hkey (fun token htoken => ?_) rfl hbounds
    cases htoken
    exact Or.inr (Or.inl rfl)
  have hformed : Tree.FormedAll Builtin.generic.ReadableLeaf (Tree.ofDict alternatives) :=
    ⟨⟨List.cons_ne_nil _ _, hmatch, hrange, trivial⟩, trivial⟩
  have hne : alternatives.isEmpty = false := rfl
  have hsql : render Builtin.generic.dialect alternatives = .ok alternativesText := rfl
  obtain ⟨φ, φs, hread⟩ := (read_render .generic hne hformed).2 _ hsql
  exact ⟨φ, φs, hsql, hread⟩

end Condition

end TerseSql
