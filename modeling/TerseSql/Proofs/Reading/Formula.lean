import TerseSql.Proofs.Reading.Lexeme

/-!
# Formulas

What a condition says of a row: atoms put together by NOT, AND and OR. An atom may be
unknown, and truth has three values.
-/

namespace TerseSql.Reading

inductive Truth where
  | no
  | unknown
  | yes
deriving DecidableEq, Repr

namespace Truth

def not : Truth → Truth
  | no => yes
  | unknown => unknown
  | yes => no

def and : Truth → Truth → Truth
  | no, _ | _, no => no
  | yes, yes => yes
  | _, _ => unknown

def or : Truth → Truth → Truth
  | yes, _ | _, yes => yes
  | no, no => no
  | _, _ => unknown

def all (ts : List Truth) : Truth :=
  ts.foldr and yes

def any (ts : List Truth) : Truth :=
  ts.foldr or no

theorem all_singleton (t : Truth) : all [t] = t := by
  cases t <;> rfl

theorem any_singleton (t : Truth) : any [t] = t := by
  cases t <;> rfl

theorem and_comm (t u : Truth) : t.and u = u.and t := by
  cases t <;> cases u <;> rfl

theorem and_assoc (t u w : Truth) : (t.and u).and w = t.and (u.and w) := by
  cases t <;> cases u <;> cases w <;> rfl

theorem yes_and (t : Truth) : yes.and t = t := by
  cases t <;> rfl

theorem and_eq_yes {t u : Truth} : t.and u = yes ↔ t = yes ∧ u = yes := by
  cases t <;> cases u <;> decide

theorem all_cons (t : Truth) (ts : List Truth) : all (t :: ts) = t.and (all ts) := rfl

theorem all_eq_yes {ts : List Truth} : all ts = yes ↔ ∀ t ∈ ts, t = yes := by
  induction ts with
  | nil => simp [all]
  | cons t ts ih => rw [all_cons, and_eq_yes, ih, List.forall_mem_cons]

theorem not_or (t u : Truth) : (t.or u).not = t.not.and u.not := by
  cases t <;> cases u <;> rfl

theorem all_not (ts : List Truth) : all (ts.map not) = (any ts).not := by
  induction ts with
  | nil => rfl
  | cons t ts ih =>
    have hany : any (t :: ts) = t.or (any ts) := rfl
    rw [List.map_cons, all_cons, ih, hany, not_or]

end Truth

inductive Formula where
  | atom (ls : List Lexeme)
  | not (φ : Formula)
  | all (φs : List Formula)
  | any (φs : List Formula)

namespace Formula

mutual

def eval (v : List Lexeme → Truth) : Formula → Truth
  | atom ls => v ls
  | not φ => (eval v φ).not
  | all φs => Truth.all (evalAll v φs)
  | any φs => Truth.any (evalAll v φs)

def evalAll (v : List Lexeme → Truth) : List Formula → List Truth
  | [] => []
  | φ :: φs => eval v φ :: evalAll v φs

end

theorem evalAll_eq_map (v : List Lexeme → Truth) (φs : List Formula) :
    evalAll v φs = φs.map (eval v) := by
  induction φs with
  | nil => rfl
  | cons φ φs ih => rw [evalAll, ih, List.map_cons]

def conj : List Formula → Formula
  | [φ] => φ
  | φs => all φs

def disj : List Formula → Formula
  | [φ] => φ
  | φs => any φs

def negate : Nat → Formula → Formula
  | 0, φ => φ
  | n + 1, φ => not (negate n φ)

variable (v : List Lexeme → Truth)

theorem eval_conj (φs : List Formula) : (conj φs).eval v = (all φs).eval v := by
  match φs with
  | [φ] => rw [conj, eval, evalAll, evalAll, Truth.all_singleton]
  | [] | _ :: _ :: _ => rfl

theorem eval_disj (φs : List Formula) : (disj φs).eval v = (any φs).eval v := by
  match φs with
  | [φ] => rw [disj, eval, evalAll, evalAll, Truth.any_singleton]
  | [] | _ :: _ :: _ => rfl

theorem evalAll_congr {φs ψs : List Formula} (h : List.Forall₂ (fun φ ψ => eval v φ = eval v ψ) φs ψs) :
    evalAll v φs = evalAll v ψs := by
  induction h with
  | nil => rfl
  | cons hfirst _ ih => rw [evalAll, evalAll, hfirst, ih]

end Formula

end TerseSql.Reading
