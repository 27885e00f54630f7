import Mathlib.Order.Nat
import TerseSql.Dialect.Renderer

/-!
# Arithmetic by precedence

Operands with operations between them are grouped as usual: products bind tighter than sums, and
what binds alike is grouped from the left. There is just one such grouping of them.
-/

namespace TerseSql.Arithmetic

inductive Operand where
  | field (parts : List String)
  | number (n : Nat)
deriving DecidableEq, Repr

inductive Expr where
  | operand (x : Operand)
  | binary (op : Arith) (left right : Expr)
deriving DecidableEq, Repr

def level : Arith → Nat
  | .add | .sub => 1
  | .mul | .div | .mod => 2

structure Series where
  first : Operand
  rest : List (Arith × Operand)
deriving DecidableEq, Repr

/-! ## Grouping -/

/-- What has been grouped: the sum before the last operation of sums, with that operation, and the
product behind it. -/
structure Grouped where
  sum : Option (Expr × Arith)
  product : Expr

namespace Grouped

def whole (g : Grouped) : Expr :=
  match g.sum with
  | none => g.product
  | some (e, op) => .binary op e g.product

def push (g : Grouped) (next : Arith × Operand) : Grouped :=
  if level next.1 = 2 then ⟨g.sum, .binary next.1 g.product (.operand next.2)⟩
  else ⟨some (g.whole, next.1), .operand next.2⟩

end Grouped

def group (s : Series) : Expr :=
  (s.rest.foldl Grouped.push ⟨none, .operand s.first⟩).whole

/-! ## Grouped expressions -/

theorem level_cases (op : Arith) : level op = 1 ∨ level op = 2 := by
  cases op <;> decide

namespace Expr

def series : Expr → Series
  | operand x => ⟨x, []⟩
  | binary op l r => ⟨l.series.first, l.series.rest ++ (op, r.series.first) :: r.series.rest⟩

def level : Expr → Nat
  | operand _ => 3
  | binary op _ _ => Arithmetic.level op

/-- Nothing on the left of an operation binds looser than it, and on its right everything binds
tighter. -/
def IsGrouped : Expr → Prop
  | operand _ => True
  | binary op l r =>
    Arithmetic.level op ≤ l.level ∧ Arithmetic.level op < r.level ∧ l.IsGrouped ∧ r.IsGrouped

theorem two_lt_level_operand (x : Operand) : 2 < (operand x).level :=
  Nat.lt_succ_self 2

theorem level_lt_operand (op : Arith) (x : Operand) :
    Arithmetic.level op < (operand x).level := by
  have hop := level_cases op
  have hoperand := two_lt_level_operand x
  omega

theorem one_le_level (e : Expr) : 1 ≤ e.level := by
  cases e with
  | operand x => exact Nat.le_add_left 1 2
  | binary op l r =>
    rw [level]
    have hlevel := level_cases op
    omega

theorem eq_operand_of_level {e : Expr} (h : 2 < e.level) : ∃ x, e = operand x := by
  cases e with
  | operand x => exact ⟨x, rfl⟩
  | binary op l r =>
    rw [level] at h
    have hlevel := level_cases op
    omega

end Expr

/-! ## Grouping is a way to group -/

namespace Grouped

/-- A product, behind a sum if there is one. -/
structure IsValid (g : Grouped) : Prop where
  product : g.product.IsGrouped
  product_level : 2 ≤ g.product.level
  sum : ∀ e op, g.sum = some (e, op) → level op = 1 ∧ e.IsGrouped

theorem IsValid.whole {g : Grouped} (h : g.IsValid) : g.whole.IsGrouped := by
  unfold Grouped.whole
  split
  · exact h.product
  · next e op hsum =>
    obtain ⟨hop, he⟩ := h.sum e op hsum
    have hproduct := h.product_level
    have hlevel := e.one_le_level
    exact ⟨by omega, by omega, he, h.product⟩

theorem IsValid.push {g : Grouped} (h : g.IsValid) (next : Arith × Operand) :
    (g.push next).IsValid := by
  unfold Grouped.push
  by_cases hlevel : Arithmetic.level next.1 = 2
  · have hproduct := h.product_level
    rw [if_pos hlevel]
    exact ⟨⟨by omega, Expr.level_lt_operand next.1 next.2, h.product, trivial⟩,
      by rw [Expr.level, hlevel], h.sum⟩
  · have hone := (level_cases next.1).resolve_right hlevel
    rw [if_neg hlevel]
    refine ⟨trivial, (Expr.two_lt_level_operand next.2).le, fun e op hsum => ?_⟩
    cases hsum
    exact ⟨hone, h.whole⟩

theorem IsValid.foldl {g : Grouped} (h : g.IsValid) (rest : List (Arith × Operand)) :
    (rest.foldl Grouped.push g).IsValid := by
  induction rest generalizing g with
  | nil => exact h
  | cons next rest ih => exact ih (h.push next)

theorem series_push (g : Grouped) (next : Arith × Operand) :
    (g.push next).whole.series = ⟨g.whole.series.first, g.whole.series.rest ++ [next]⟩ := by
  unfold Grouped.push
  by_cases hlevel : Arithmetic.level next.1 = 2
  · rw [if_pos hlevel]
    unfold Grouped.whole
    cases g.sum with
    | none => rfl
    | some before => simp [Expr.series]
  · rw [if_neg hlevel]
    rfl

theorem series_foldl (g : Grouped) (rest : List (Arith × Operand)) :
    (rest.foldl Grouped.push g).whole.series =
      ⟨g.whole.series.first, g.whole.series.rest ++ rest⟩ := by
  induction rest generalizing g with
  | nil => simp
  | cons next rest ih =>
    rw [List.foldl_cons, ih, series_push]
    simp

end Grouped

theorem isGrouped_group (s : Series) : (group s).IsGrouped := by
  have hstart : Grouped.IsValid ⟨none, .operand s.first⟩ :=
    ⟨trivial, (Expr.two_lt_level_operand s.first).le, fun _ _ hsum => by cases hsum⟩
  exact (hstart.foldl s.rest).whole

theorem series_group (s : Series) : (group s).series = s :=
  Grouped.series_foldl ⟨none, .operand s.first⟩ s.rest

/-! ## Grouping is the only way to group -/

/-- A product is grouped behind any sum. -/
theorem foldl_product {e : Expr} (h : e.IsGrouped) (hlevel : 2 ≤ e.level)
    (sum : Option (Expr × Arith)) :
    e.series.rest.foldl Grouped.push ⟨sum, .operand e.series.first⟩ = ⟨sum, e⟩ := by
  induction e with
  | operand x => rfl
  | binary op l r ihl _ =>
    obtain ⟨hleft, hright, hl, -⟩ := h
    have hop : level op = 2 := le_antisymm (by have := level_cases op; omega) hlevel
    rw [hop] at hleft hright
    obtain ⟨x, rfl⟩ := Expr.eq_operand_of_level hright
    rw [Expr.series, List.foldl_append, ihl hl hleft]
    exact if_pos hop

theorem group_series {e : Expr} (h : e.IsGrouped) : group e.series = e := by
  induction e with
  | operand x => rfl
  | binary op l r ihl _ =>
    rcases level_cases op with hop | hop
    · obtain ⟨-, hright, hl, hr⟩ := h
      rw [hop] at hright
      have hpush : ∀ g : Grouped, g.whole = l →
          g.push (op, r.series.first) = ⟨some (l, op), .operand r.series.first⟩ := by
        rintro g rfl
        exact if_neg (by rw [hop]; decide)
      rw [group, Expr.series, List.foldl_append, List.foldl_cons, hpush _ (ihl hl),
        foldl_product hr hright]
      rfl
    · rw [group, foldl_product h hop.ge]
      rfl

theorem group_eq_iff {s : Series} {e : Expr} : group s = e ↔ e.series = s ∧ e.IsGrouped := by
  constructor
  · rintro rfl
    exact ⟨series_group s, isGrouped_group s⟩
  · rintro ⟨rfl, h⟩
    exact group_series h

-- 1 - 2 * 3 - 4 is (1 - 2 * 3) - 4.
example : group ⟨.number 1, [(.sub, .number 2), (.mul, .number 3), (.sub, .number 4)]⟩ =
    .binary .sub (.binary .sub (.operand (.number 1))
      (.binary .mul (.operand (.number 2)) (.operand (.number 3)))) (.operand (.number 4)) := by
  decide

end TerseSql.Arithmetic
