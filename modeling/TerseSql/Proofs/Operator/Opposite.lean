import TerseSql.Clause.Condition
import TerseSql.Proofs.Operator.Paired

/-!
# Opposite operators

Two operators are opposite if a condition with one denies, on the same operands, what a condition
with the other says. Where one of them is a match with any of some patterns, the other is a match
with none, and so it joins its matches by AND.
-/

namespace TerseSql

open Lexing Reading

/-! ## Atoms with their sign -/

def negatable : List Lexeme :=
  [.word "IN", .word "LIKE", .word "ILIKE", .word "BETWEEN"]

def positive? : List Lexeme → Option (List Lexeme)
  | f :: .sign '<' :: .sign '>' :: rest => some (f :: .sign '=' :: rest)
  | f :: .sign '!' :: .sign '~' :: rest => some (f :: .sign '~' :: rest)
  | f :: .word w :: rest =>
    if w = "NOT" ∧ rest.head?.any (· ∈ negatable) then some (f :: rest) else none
  | _ => none

/-- The truth of atoms where a negated one is the negation of the one that it denies. -/
def signed (truth : List Lexeme → Truth) (ls : List Lexeme) : Truth :=
  match positive? ls with
  | some positive => (truth positive).not
  | none => truth ls

def denials : List (String × String) :=
  [(" = ", " <> "), (" IN (", " NOT IN ("), (" LIKE ", " NOT LIKE "), (" ILIKE ", " NOT ILIKE "),
   (" BETWEEN ", " NOT BETWEEN "), (" ~ ", " !~ ")]

theorem positive?_of_mem_denials {s s' : String} (h : (s, s') ∈ denials) (f : Lexeme)
    (rest : List Lexeme) :
    positive? (f :: (words (marks s) ++ rest)) = none ∧
      positive? (f :: (words (marks s') ++ rest)) = some (f :: (words (marks s) ++ rest)) := by
  unfold denials at h
  simp only [List.mem_cons, Prod.mk.injEq, List.not_mem_nil, or_false] at h
  rcases h with ⟨rfl, rfl⟩ | ⟨rfl, rfl⟩ | ⟨rfl, rfl⟩ | ⟨rfl, rfl⟩ | ⟨rfl, rfl⟩ | ⟨rfl, rfl⟩ <;>
    exact ⟨rfl, rfl⟩

namespace Segment

/-! ## Conditions that deny each other -/

/-- Conditions that are read as formulas of which one is true where the other is false. -/
def Complementary (ps qs : List Segment) : Prop :=
  ∀ field, ∃ φ ψ, read (lexemesOf field ps) = some φ ∧ read (lexemesOf field qs) = some ψ ∧
    ∀ truth, ψ.eval (signed truth) = (φ.eval (signed truth)).not

def Equivalent (ps qs : List Segment) : Prop :=
  ∀ field, ∃ φ ψ, read (lexemesOf field ps) = some φ ∧ read (lexemesOf field qs) = some ψ ∧
    ∀ truth, φ.eval (signed truth) = ψ.eval (signed truth)

/-- Conditions that deny each other and may both stand after a NOT. -/
def Opposed (ps qs : List Segment) : Prop :=
  ∀ field, ∃ φ ψ, IsOperand (lexemesOf field ps) φ ∧ IsOperand (lexemesOf field qs) ψ ∧
    ∀ truth, ψ.eval (signed truth) = (φ.eval (signed truth)).not

theorem Opposed.complementary {ps qs : List Segment} (h : Opposed ps qs) : Complementary ps qs := by
  intro field
  obtain ⟨φ, ψ, hφ, hψ, heval⟩ := h field
  exact ⟨φ, ψ, read_of_isSentence hφ.isUnit.isSentence, read_of_isSentence hψ.isUnit.isSentence,
    heval⟩

theorem Opposed.equivalent {ps qs : List Segment} (h : Opposed ps qs) :
    Equivalent (.fixed "NOT " :: ps) qs := by
  intro field
  obtain ⟨φ, ψ, hφ, hψ, heval⟩ := h field
  have hnot : IsUnit (lexemesOf field (.fixed "NOT " :: ps)) (.not φ) := hφ.isUnit_not
  exact ⟨.not φ, ψ, read_of_isSentence hnot.isSentence, read_of_isSentence hψ.isUnit.isSentence,
    fun truth => (heval truth).symm⟩

theorem opposed_atoms {ps qs : List Segment} (hps : ∀ field, IsAtom (lexemesOf field ps))
    (hqs : ∀ field, IsAtom (lexemesOf field qs))
    (hsign : ∀ field, positive? (lexemesOf field ps) = none ∧
      positive? (lexemesOf field qs) = some (lexemesOf field ps)) : Opposed ps qs := by
  intro field
  refine ⟨_, _, (hps field).isOperand, (hqs field).isOperand, fun truth => ?_⟩
  obtain ⟨hpositive, hnegative⟩ := hsign field
  simp only [Formula.eval, signed, hpositive, hnegative]

theorem positive?_append {s s' : String} (h : (s, s') ∈ denials) (ps : List Segment)
    (field : String) :
    positive? (lexemesOf field ([Segment.field] ++ [Segment.fixed s] ++ ps)) = none ∧
      positive? (lexemesOf field ([Segment.field] ++ [Segment.fixed s'] ++ ps)) =
        some (lexemesOf field ([Segment.field] ++ [Segment.fixed s] ++ ps)) := by
  simp only [lexemesOf_append, lexemesOf_fixed, List.append_assoc]
  exact positive?_of_mem_denials h _ _

theorem sign_comparison {op op' : String} (h : (" " ++ op ++ " ", " " ++ op' ++ " ") ∈ denials)
    (s field : String) :
    positive? (lexemesOf field (comparison op s)) = none ∧
      positive? (lexemesOf field (comparison op' s)) = some (lexemesOf field (comparison op s)) :=
  positive?_append h [.operand s] field

variable {op op' : String}

theorem opposed_comparison (h : (" " ++ op ++ " ", " " ++ op' ++ " ") ∈ denials)
    (hop : isInertText (" " ++ op ++ " ") = true) (hop' : isInertText (" " ++ op' ++ " ") = true)
    (s : String) : Opposed (comparison op s) (comparison op' s) :=
  opposed_atoms (fun field => isAtom_comparison field hop s)
    (fun field => isAtom_comparison field hop' s) (sign_comparison h s)

theorem opposed_listing (h : (" " ++ op ++ " (", " " ++ op' ++ " (") ∈ denials)
    (hop : isInertBefore (.sign '(') (" " ++ op ++ " (") = true)
    (hop' : isInertBefore (.sign '(') (" " ++ op' ++ " (") = true) (ss : List String) :
    Opposed (listing op ss) (listing op' ss) :=
  opposed_atoms (fun field => isAtom_listing field hop ss)
    (fun field => isAtom_listing field hop' ss) (positive?_append h _)

theorem opposed_interval (h : (" " ++ op ++ " ", " " ++ op' ++ " ") ∈ denials)
    (hop : isInertBefore (.word "BETWEEN") (" " ++ op ++ " ") = true)
    (hop' : isInertBefore (.word "BETWEEN") (" " ++ op' ++ " ") = true) (low high : String) :
    Opposed (interval op low high) (interval op' low high) := by
  refine opposed_atoms (fun field => isAtom_interval field hop low high)
    (fun field => isAtom_interval field hop' low high) fun field => ?_
  simp only [interval, comparison, List.append_assoc ([_] ++ [_])]
  exact positive?_append h _ field

/-- A match with any of some patterns is denied by matches that deny each of them. -/
theorem opposed_grouped (h : (" " ++ op ++ " ", " " ++ op' ++ " ") ∈ denials)
    (hop : isInertText (" " ++ op ++ " ") = true) (hop' : isInertText (" " ++ op' ++ " ") = true)
    {ss : List String} (hne : ss ≠ []) :
    Opposed (grouped op " OR " ss) (grouped op' " AND " ss) := by
  intro field
  refine ⟨_, _, isOperand_grouped field .or hop hne, isOperand_grouped field .and hop' hne,
    fun truth => ?_⟩
  have hnot : ∀ s, signed truth (lexemesOf field (comparison op' s)) =
      (signed truth (lexemesOf field (comparison op s))).not := by
    intro s
    obtain ⟨hpositive, hnegative⟩ := sign_comparison h s field
    simp only [signed, hpositive, hnegative]
  simp only [combine, Formula.eval_conj, Formula.eval_disj, Formula.eval, Formula.evalAll_eq_map,
    List.map_map, Function.comp_def, hnot]
  rw [← Truth.all_not, List.map_map]
  rfl

end Segment

/-! ## Opposite rules -/

def Rule.opposites : List (Rule × Rule) :=
  [(.member "=" "IN", .member "<>" "NOT IN"),
   (.pattern "LIKE" " OR ", .pattern "NOT LIKE" " AND "),
   (.pattern "ILIKE" " OR ", .pattern "NOT ILIKE" " AND "),
   (.range "BETWEEN", .range "NOT BETWEEN"), (.plain "~", .plain "!~")]

def Rule.matchesPatterns : Rule → Bool
  | pattern _ _ => true
  | _ => false

def Value.shown (patterns : Bool) (v : Value) : List Value :=
  if patterns then v.operands.map wrapPattern else v.operands

theorem paired_rules (b : Builtin) {rule rule' : Rule} (h : (rule, rule') ∈ Rule.opposites)
    (v : Value) :
    Paired id Segment.Opposed ((v.shown rule.matchesPatterns).mapM b.dialect.literal)
      (fun field => rule.apply b.dialect.toRenderer field v)
      (fun field => rule'.apply b.dialect.toRenderer field v) := by
  unfold Rule.opposites at h
  simp only [List.mem_cons, Prod.mk.injEq, List.not_mem_nil, or_false] at h
  rcases h with ⟨rfl, rfl⟩ | ⟨rfl, rfl⟩ | ⟨rfl, rfl⟩ | ⟨rfl, rfl⟩ | ⟨rfl, rfl⟩
  · exact paired_membership b (Segment.opposed_comparison (by decide) (by decide) (by decide))
      (Segment.opposed_listing (by decide) (by decide) (by decide)) v
  · exact paired_pattern b (Segment.opposed_comparison (by decide) (by decide) (by decide))
      (fun _ => Segment.opposed_grouped (by decide) (by decide) (by decide)) v
  · exact paired_pattern b (Segment.opposed_comparison (by decide) (by decide) (by decide))
      (fun _ => Segment.opposed_grouped (by decide) (by decide) (by decide)) v
  · exact paired_range b (Segment.opposed_interval (by decide) (by decide) (by decide)) v
  · exact paired_infixed b (Segment.opposed_comparison (by decide) (by decide) (by decide)) v

/-! ## Opposite operators -/

namespace Builtin

def opposites (b : Builtin) : List (String × String) :=
  [("=", "!"), ("~", "!~"), ("<>", "><")] ++
    match b with
    | postgres => [("~~", "!~~"), ("regexp", "!regexp")]
    | _ => []

def operandTexts (b : Builtin) (op : String) (v : Value) : Built (List String) :=
  (v.shown (["~", "!~", "~~", "!~~"].contains op)).mapM b.dialect.literal

theorem rule_of_mem_opposites {b : Builtin} {p : String × String} (h : p ∈ b.opposites) :
    (b.rule (some p.1), b.rule (some p.2)) ∈ Rule.opposites ∧
      ["~", "!~", "~~", "!~~"].contains p.1 = (b.rule (some p.1)).matchesPatterns := by
  have hall : ∀ p ∈ b.opposites, (b.rule (some p.1), b.rule (some p.2)) ∈ Rule.opposites ∧
      ["~", "!~", "~~", "!~~"].contains p.1 = (b.rule (some p.1)).matchesPatterns := by
    cases b <;> decide
  exact hall p h

end Builtin

namespace ConditionTerm

variable (d : Dialect) (e : FieldExpr) (token : Option String) (v : Value)

theorem render_negated : render ⟨true, e, token⟩ d v =
    (do return "NOT " ++ (← d.condition token (e.render d.toLexicon) v)) := rfl

theorem render_plain :
    render ⟨false, e, token⟩ d v = d.condition token (e.render d.toLexicon) v := by
  unfold render
  dsimp only
  cases d.condition token (e.render d.toLexicon) v <;> rfl

end ConditionTerm

theorem paired_opposites {b : Builtin} {op opposite : String} (h : (op, opposite) ∈ b.opposites)
    (v : Value) :
    Paired id Segment.Opposed (b.operandTexts op v)
      (fun field => b.dialect.condition (some op) field v)
      (fun field => b.dialect.condition (some opposite) field v) := by
  obtain ⟨hrules, hpatterns⟩ := Builtin.rule_of_mem_opposites h
  have hnamed : ∀ p ∈ Rule.opposites, p.1 ∈ Rule.named ∧ p.2 ∈ Rule.named := by decide
  obtain ⟨hop, hopposite⟩ := hnamed _ hrules
  have hpaired := paired_rules b hrules v
  rw [condition_eq_rule, condition_eq_rule, Rule.condition_of_named hop,
    Rule.condition_of_named hopposite, Builtin.operandTexts, hpatterns]
  exact hpaired

/-- Conditions with opposite operators fail alike or deny each other, and so the negation of one
says what the other does. -/
theorem condition_opposite {b : Builtin} {op opposite : String} (h : (op, opposite) ∈ b.opposites)
    (v : Value) :
    Paired id Segment.Complementary (b.operandTexts op v)
        (fun field => b.dialect.condition (some op) field v)
        (fun field => b.dialect.condition (some opposite) field v) ∧
      Paired (fun e : FieldExpr => e.render b.dialect.toLexicon) Segment.Equivalent
        (b.operandTexts op v) (fun e => ConditionTerm.render ⟨true, e, some op⟩ b.dialect v)
        (fun e => ConditionTerm.render ⟨false, e, some opposite⟩ b.dialect v) := by
  have hpaired := paired_opposites h v
  refine ⟨hpaired.imp fun _ _ => Segment.Opposed.complementary, ?_⟩
  have hnot := (hpaired.on fun e : FieldExpr => e.render b.dialect.toLexicon).after "NOT "
  simp only [ConditionTerm.render_negated, ConditionTerm.render_plain]
  refine hnot.imp fun ps qs hps => ?_
  obtain ⟨rest, rfl, hopposed⟩ := hps
  exact hopposed.equivalent

def somePatterns : Value :=
  .list [.text "a", .text "50%"]

theorem condition_opposite_patterns :
    ("~~", "!~~") ∈ Builtin.postgres.opposites ∧
      Builtin.postgres.dialect.condition (some "~~") "f" somePatterns =
        .ok "(f ILIKE '%a%' OR f ILIKE '50%')" ∧
      Builtin.postgres.dialect.condition (some "!~~") "f" somePatterns =
        .ok "(f NOT ILIKE '%a%' AND f NOT ILIKE '50%')" ∧
      Paired id Segment.Complementary (.ok ["'%a%'", "'50%'"])
        (fun field => Builtin.postgres.dialect.condition (some "~~") field somePatterns)
        (fun field => Builtin.postgres.dialect.condition (some "!~~") field somePatterns) ∧
      Paired (fun e : FieldExpr => e.render Builtin.postgres.dialect.toLexicon) Segment.Equivalent
        (.ok ["'%a%'", "'50%'"])
        (fun e => ConditionTerm.render ⟨true, e, some "~~"⟩ Builtin.postgres.dialect somePatterns)
        (fun e => ConditionTerm.render ⟨false, e, some "!~~"⟩ Builtin.postgres.dialect
          somePatterns) := by
  have hmem : ("~~", "!~~") ∈ Builtin.postgres.opposites := by decide
  obtain ⟨hcomplementary, hequivalent⟩ := condition_opposite hmem somePatterns
  exact ⟨hmem, rfl, rfl, hcomplementary, hequivalent⟩

end TerseSql
