import TerseSql.Proofs.Reading.Rule

/-!
# Conditions in segments

A condition is written with the field, its operands and what the operator puts around them. In
these segments the field and the operands are units, whatever their texts hold, and from them a
condition is read as a formula.
-/

namespace TerseSql

open Lexing Reading

inductive Segment where
  | field
  | operand (s : String)
  | fixed (s : String)
deriving DecidableEq, Repr

namespace Segment

section

variable (field : String)

def text : Segment → String
  | .field => field
  | operand s => s
  | fixed s => s

def lexemes : Segment → List Lexeme
  | .field => [.quoted (.name field)]
  | operand s => [.quoted (.literal false s)]
  | fixed s => words (marks s)

def textOf : List Segment → String
  | [] => ""
  | p :: ps => p.text field ++ textOf ps

def lexemesOf (ps : List Segment) : List Lexeme :=
  ps.flatMap (lexemes field)

end

def operand? : Segment → Option String
  | operand s => some s
  | _ => none

def operandsOf (ps : List Segment) : List String :=
  ps.filterMap operand?

/-! ## Ways to put segments together -/

def comparison (op s : String) : List Segment :=
  [Segment.field] ++ [Segment.fixed (" " ++ op ++ " ")] ++ [Segment.operand s]

def listing (op : String) (ss : List String) : List Segment :=
  [Segment.field] ++ [Segment.fixed (" " ++ op ++ " (")] ++
    (List.intercalate [Segment.fixed ","] (ss.map fun s => [Segment.operand s]) ++
      [Segment.fixed ")"])

def interval (op low high : String) : List Segment :=
  comparison op low ++ [Segment.fixed " AND "] ++ [Segment.operand high]

def grouped (op joiner : String) (ss : List String) : List Segment :=
  [Segment.fixed "("] ++ List.intercalate [Segment.fixed joiner] (ss.map (comparison op)) ++
    [Segment.fixed ")"]

section

variable (field : String)

theorem textOf_append (ps qs : List Segment) :
    textOf field (ps ++ qs) = textOf field ps ++ textOf field qs := by
  induction ps with
  | nil => exact String.empty_append.symm
  | cons p ps ih => rw [List.cons_append, textOf, textOf, ih, String.append_assoc]

theorem textOf_singleton (p : Segment) : textOf field [p] = p.text field :=
  String.append_empty

theorem textOf_intercalate (sep : String) (pss : List (List Segment)) :
    textOf field (List.intercalate [.fixed sep] pss) = Text.join sep (pss.map (textOf field)) := by
  induction pss with
  | nil => rfl
  | cons ps pss ih =>
    cases pss with
    | nil => rw [List.intercalate_singleton, List.map_singleton, Text.join]
    | cons qs pss =>
      rw [List.intercalate_cons_cons, textOf_append, textOf_append, ih, textOf_singleton]
      rfl

theorem lexemesOf_append (ps qs : List Segment) :
    lexemesOf field (ps ++ qs) = lexemesOf field ps ++ lexemesOf field qs :=
  List.flatMap_append

theorem lexemesOf_fixed (s : String) : lexemesOf field [.fixed s] = words (marks s) :=
  List.append_nil _

theorem lexemesOf_intercalate (sep : String) (pss : List (List Segment)) :
    lexemesOf field (List.intercalate [.fixed sep] pss) =
      List.intercalate (words (marks sep)) (pss.map (lexemesOf field)) := by
  induction pss with
  | nil => rfl
  | cons ps pss ih =>
    cases pss with
    | nil => rw [List.intercalate_singleton, List.map_singleton, List.intercalate_singleton]
    | cons qs pss =>
      rw [List.intercalate_cons_cons, lexemesOf_append, lexemesOf_append, ih, lexemesOf_fixed]
      exact List.intercalate_cons_cons.symm

theorem operandsOf_append (ps qs : List Segment) :
    operandsOf (ps ++ qs) = operandsOf ps ++ operandsOf qs :=
  List.filterMap_append

theorem operandsOf_intercalate (sep : String) (pss : List (List Segment)) :
    operandsOf (List.intercalate [.fixed sep] pss) = pss.flatMap operandsOf := by
  induction pss with
  | nil => rfl
  | cons ps pss ih =>
    cases pss with
    | nil => rw [List.intercalate_singleton, List.flatMap_singleton]
    | cons qs pss =>
      rw [List.intercalate_cons_cons, operandsOf_append, operandsOf_append, ih, List.flatMap_cons]
      exact congrArg (· ++ _) (List.append_nil _)

/-! ## Texts and operands -/

theorem textOf_comparison (op s : String) :
    textOf field (comparison op s) = field ++ " " ++ op ++ " " ++ s := by
  simp only [comparison, textOf_append, textOf_singleton, text, String.append_assoc]

theorem textOf_listing (op : String) (ss : List String) :
    textOf field (listing op ss) = field ++ " " ++ op ++ " (" ++ Text.join "," ss ++ ")" := by
  have hss : (ss.map fun s => [operand s]).map (textOf field) = ss := by
    rw [List.map_map]
    exact (List.map_congr_left fun s _ => textOf_singleton field (operand s)).trans (List.map_id _)
  simp only [listing, textOf_append, textOf_intercalate, hss, textOf_singleton, text,
    String.append_assoc]

theorem textOf_interval (op low high : String) :
    textOf field (interval op low high) =
      field ++ " " ++ op ++ " " ++ low ++ " AND " ++ high := by
  simp only [interval, textOf_append, textOf_comparison, textOf_singleton, text]

theorem textOf_grouped (op joiner : String) (ss : List String) :
    textOf field (grouped op joiner ss) =
      "(" ++ Text.join joiner (ss.map fun s => field ++ " " ++ op ++ " " ++ s) ++ ")" := by
  have hss : (ss.map (comparison op)).map (textOf field) =
      ss.map fun s => field ++ " " ++ op ++ " " ++ s := by
    rw [List.map_map]
    exact List.map_congr_left fun s _ => textOf_comparison field op s
  simp only [grouped, textOf_append, textOf_intercalate, hss, textOf_singleton, text]

end

theorem operandsOf_listing (op : String) (ss : List String) : operandsOf (listing op ss) = ss := by
  have hss : (ss.map fun s => [operand s]).flatMap operandsOf = ss := by
    rw [List.flatMap_map]
    exact List.flatMap_singleton' ss
  rw [listing, operandsOf_append, operandsOf_append, operandsOf_append, operandsOf_intercalate, hss]
  exact List.append_nil ss

theorem operandsOf_grouped (op joiner : String) (ss : List String) :
    operandsOf (grouped op joiner ss) = ss := by
  have hss : (ss.map (comparison op)).flatMap operandsOf = ss := by
    rw [List.flatMap_map]
    exact List.flatMap_singleton' ss
  rw [grouped, operandsOf_append, operandsOf_append, operandsOf_intercalate, hss]
  exact List.append_nil ss

/-! ## Readings -/

section

variable (field : String)

theorem inert_operand (s : String) : ∀ l ∈ lexemesOf field [operand s], l.isInert = true := by
  intro l hl
  obtain rfl := List.mem_singleton.mp hl
  rfl

theorem isAtom_field : IsAtom (lexemesOf field [.field]) :=
  ⟨_, [], rfl, rfl, continues_inert fun _ hl => nomatch hl⟩

theorem isAtom_comparison {op : String} (hop : isInertText (" " ++ op ++ " ") = true)
    (s : String) : IsAtom (lexemesOf field (comparison op s)) := by
  unfold isInertText at hop
  rw [List.all_eq_true] at hop
  rw [comparison, lexemesOf_append, lexemesOf_append, lexemesOf_fixed]
  exact ((isAtom_field field).append (continues_inert hop)).append
    (continues_inert (inert_operand field s))

theorem isAtom_listing {op : String} (hop : isInertBefore (.sign '(') (" " ++ op ++ " (") = true)
    (ss : List String) : IsAtom (lexemesOf field (listing op ss)) := by
  obtain ⟨ws, hws, hinert⟩ := exists_of_inertBefore hop
  have hoperands : ∀ l ∈ ss.map fun s => lexemesOf field [operand s],
      ∀ m ∈ l, m.isInert = true := by
    intro l hl
    obtain ⟨s, _, rfl⟩ := List.mem_map.mp hl
    exact inert_operand field s
  have hatom := ((isAtom_field field).append (continues_inert hinert)).append
    (continues_parens (inert_join hoperands))
  have hclosing : words (marks ")") = [.sign ')'] := rfl
  have hmap : (ss.map fun s => [operand s]).map (lexemesOf field) =
      ss.map fun s => lexemesOf field [operand s] := List.map_map
  rw [listing, lexemesOf_append, lexemesOf_append, lexemesOf_append, lexemesOf_intercalate,
    lexemesOf_fixed, lexemesOf_fixed, hmap, hws, hclosing]
  simpa only [List.append_assoc, List.singleton_append] using hatom

theorem isAtom_interval {op : String}
    (hop : isInertBefore (.word "BETWEEN") (" " ++ op ++ " ") = true) (low high : String) :
    IsAtom (lexemesOf field (interval op low high)) := by
  obtain ⟨ws, hws, hinert⟩ := exists_of_inertBefore hop
  have hatom := ((isAtom_field field).append (continues_inert hinert)).append
    (continues_range (inert_operand field low) (inert_operand field high))
  have hand : words (marks " AND ") = [.word "AND"] := by decide
  simp only [interval, comparison, lexemesOf_append, lexemesOf_fixed, hws, hand]
  simpa only [List.append_assoc, List.cons_append, List.nil_append] using hatom

/-- Comparisons in parentheses are one operand, the formula of all of them under the connective. -/
theorem isOperand_grouped (c : Connective) {op : String}
    (hop : isInertText (" " ++ op ++ " ") = true) {ss : List String} (hne : ss ≠ []) :
    IsOperand (lexemesOf field (grouped op c.separator ss))
      (combine c (ss.map fun s => .atom (lexemesOf field (comparison op s)))) := by
  have hunits : List.Forall₂ IsUnit (ss.map fun s => lexemesOf field (comparison op s))
      (ss.map fun s => .atom (lexemesOf field (comparison op s))) := by
    rw [List.forall₂_map_left_iff, List.forall₂_map_right_iff, List.forall₂_same]
    exact fun s _ => (isAtom_comparison field hop s).isOperand.isUnit
  have hsome : (ss.map fun s => lexemesOf field (comparison op s)) ≠ [] := by
    simpa using hne
  have hkeyword : words (marks c.separator) = [keyword c] := by
    cases c <;> decide
  have hmap : (ss.map (comparison op)).map (lexemesOf field) =
      ss.map fun s => lexemesOf field (comparison op s) := List.map_map
  rw [grouped, lexemesOf_append, lexemesOf_append, lexemesOf_intercalate, lexemesOf_fixed,
    lexemesOf_fixed, hmap, hkeyword]
  exact (isSentence_intercalate c hunits hsome).isOperand

end

end Segment

end TerseSql
