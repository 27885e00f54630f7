import TerseSql.Proofs.Reading.Root
import TerseSql.Proofs.Window.Fragment
import TerseSql.Proofs.Window.Sections

/-!
# Predicates with windows

A window is conjoined with the predicate that is there. One that is compound goes into
parentheses, and so does the fragment; one that is not is followed by fragments in parentheses.
Either way the terms are read as the conjunction of the predicate and all its windows.
-/

namespace TerseSql

open Lexing Reading Statement

namespace Reading.Formula

variable (v : List Lexeme → Truth)

theorem eval_all_cons (φ : Formula) (φs : List Formula) :
    (all (φ :: φs)).eval v = (φ.eval v).and ((all φs).eval v) := by
  rw [eval, eval, evalAll, Truth.all_cons]

theorem eval_all_singleton (φ : Formula) : (all [φ]).eval v = φ.eval v := by
  rw [eval, evalAll, evalAll, Truth.all_singleton]

theorem eval_all_append (φs ψs : List Formula) :
    (all (φs ++ ψs)).eval v = ((all φs).eval v).and ((all ψs).eval v) := by
  induction φs with
  | nil => exact (Truth.yes_and _).symm
  | cons φ φs ih => rw [List.cons_append, eval_all_cons, eval_all_cons, ih, Truth.and_assoc]

theorem eval_all_concat (φs : List Formula) (φ : Formula) :
    (all (φs ++ [φ])).eval v = ((all φs).eval v).and (φ.eval v) := by
  rw [eval_all_append, eval_all_singleton]

end Reading.Formula

/-! ## Fragments after a predicate -/

def conjunct (fragment : String) : String :=
  "AND (" ++ fragment ++ ")"

def enclosed (fragment : String) : String :=
  "(" ++ fragment ++ ")"

theorem join_conjuncts (p : String) (fragments : List String) :
    Text.join " " (p :: fragments.map conjunct) =
      Text.join Connective.and.separator (p :: fragments.map enclosed) := by
  rw [Text.join_cons, Text.join_cons]
  congr 1
  induction fragments with
  | nil => rfl
  | cons f fragments ih =>
    rw [List.map_cons, List.map_cons, Text.glued, Text.glued, ih]
    rfl

/-! ## Predicates that gather formulas -/

variable {b : Builtin}

/-- The terms of a predicate that is read as the conjunction of formulas: a compound one is a
single term, and one that is not is a unit before fragments. -/
inductive Gathers (b : Builtin) (φs : List Formula) : List String → Prop where
  | compound {p : String} : isCompound p = true → ReadsBy IsSentence b p (.all φs) →
      Gathers b φs [p]
  | simple {p : String} {ψ : Formula} {fragments : List String} {ψs : List Formula} :
      isCompound p = false → ReadsBy IsUnit b p ψ →
      List.Forall₂ (ReadsBy IsSentence b) fragments ψs →
      (∀ v, (Formula.all (ψ :: ψs)).eval v = (Formula.all φs).eval v) →
      Gathers b φs (p :: fragments.map conjunct)

namespace Gathers

variable {φs : List Formula} {body : List String}

theorem units {fragments : List String} {ψs : List Formula}
    (h : List.Forall₂ (ReadsBy IsSentence b) fragments ψs) :
    List.Forall₂ (ReadsBy IsUnit b) (fragments.map enclosed) ψs := by
  rw [List.forall₂_map_left_iff]
  exact h.imp fun _ _ hf => (readsBy_parens hf).imp fun _ _ => IsOperand.isUnit

theorem reads (h : Gathers b φs body) : ReadsBy IsSentence b (Text.join " " body) (.all φs) := by
  cases h with
  | compound _ hp => exact hp
  | simple _ hp hfragments heval =>
    rw [join_conjuncts]
    exact (readsBy_join .and (.cons hp (units hfragments)) (List.cons_ne_nil _ _)).congr heval

theorem of_predicate {p : String} (hp : ReadsBy IsSentence b p (.all φs))
    (hunit : isCompound p = false → ReadsBy IsUnit b p (.all φs)) : Gathers b φs [p] := by
  cases hcompound : isCompound p with
  | true => exact .compound hcompound hp
  | false =>
    show Gathers b φs (p :: List.map conjunct [])
    exact .simple hcompound (hunit hcompound) .nil fun v => Formula.eval_all_singleton v _

theorem conjoin (h : Gathers b φs body) {fragment : String} {χ : Formula}
    (hfragment : ReadsBy IsSentence b fragment χ) :
    Gathers b (φs ++ [χ]) (conjoinPredicate fragment body) := by
  cases h with
  | @compound p hcompound hp =>
    rw [conjoinPredicate, if_pos hcompound]
    -- Both stand in parentheses under one AND, and what they make is compound again.
    have hunits := units (.cons hp (.cons hfragment .nil))
    have htext : "(" ++ p ++ ") AND (" ++ fragment ++ ")" =
        enclosed p ++ Connective.and.separator ++ enclosed fragment := by
      apply String.toList_injective
      simp [enclosed, Connective.separator]
    rw [htext]
    refine .compound (isCompound_append .and _ _) ?_
    refine (readsBy_join .and hunits (List.cons_ne_nil _ _)).congr fun v => ?_
    show (Formula.all [.all φs, χ]).eval v = _
    rw [Formula.eval_all_concat, Formula.eval_all_cons, Formula.eval_all_singleton]
  | @simple p ψ fragments ψs hsimple hp hfragments heval =>
    rw [conjoinPredicate, if_neg (by simp [hsimple])]
    -- The fragment goes before the older ones, and a conjunction does not mind their order.
    show Gathers b (φs ++ [χ]) (p :: List.map conjunct (fragment :: fragments))
    refine .simple hsimple hp (.cons hfragment hfragments) fun v => ?_
    rw [Formula.eval_all_concat, ← heval v, Formula.eval_all_cons, Formula.eval_all_cons,
      Formula.eval_all_cons, Truth.and_comm (χ.eval v), Truth.and_assoc]

end Gathers

/-! ## Windows -/

namespace Window

variable {v : Value} {w : Window}

theorem gathers_rowNumbers (b : Builtin) (h : ofValue v = .ok w) :
    Gathers b [w.formula] [Pagination.rowNumbers w.count w.offset] := by
  refine .of_predicate ((readsBy_rowNumbers b h).congr fun v =>
    (Formula.eval_all_singleton v _).symm) fun hsimple => ?_
  rw [rowNumbers_eq] at hsimple ⊢
  have hunits := units_boundTexts b h
  obtain ⟨t, ht⟩ := eq_singleton_of_not_compound w.boundTexts_ne_nil hsimple
  rw [ht] at hunits ⊢
  unfold formula
  cases hbounds : w.bounds.map Formula.atom with
  | nil =>
    rw [hbounds] at hunits
    cases hunits
  | cons φ rest =>
    rw [hbounds] at hunits
    obtain ⟨hunit, hrest⟩ := List.forall₂_cons.mp hunits
    cases hrest
    refine hunit.congr fun v => ?_
    rw [Formula.eval_all_singleton, Formula.eval_all_singleton]

end Window

end TerseSql
