import TerseSql.Proofs.Comment.Arithmetic
import TerseSql.Proofs.Condition.Key

/-!
# Arithmetic on one line

The keys of assignments have no line breaks in their fields, so arithmetic on a field is
written on one line.
-/

namespace TerseSql

open Lexing

def IsOneLine (s : String) : Prop :=
  '\n' ∉ s.toList

instance (s : String) : Decidable (IsOneLine s) :=
  inferInstanceAs (Decidable ('\n' ∉ s.toList))

theorem IsOneLine.append {s t : String} (hs : IsOneLine s) (ht : IsOneLine t) :
    IsOneLine (s ++ t) := by
  unfold IsOneLine
  rw [String.toList_append, List.mem_append, not_or]
  exact ⟨hs, ht⟩

theorem IsOneLine.join {sep : String} (hsep : IsOneLine sep) :
    ∀ {ss : List String}, (∀ s ∈ ss, IsOneLine s) → IsOneLine (Text.join sep ss)
  | [], _ => fun h => nomatch h
  | [s], h => h s List.mem_cons_self
  | s :: t :: rest, h => by
    have hrest := IsOneLine.join hsep fun u hu => h u (List.mem_cons_of_mem s hu)
    exact ((h s List.mem_cons_self).append hsep).append hrest

/-! ## Names from keys -/

theorem pathText_of_assignment? {key : String} {k : Grammar.AssignmentKey}
    (h : Grammar.assignment? key = some k) : ∀ c ∈ k.path.toList, isPathText c = true := by
  unfold Grammar.assignment? at h
  obtain ⟨⟨name, rest⟩, hpath, hrest⟩ := Option.bind_eq_some_iff.mp h
  have hk : k.path = String.ofList name := by
    dsimp only at hrest
    split at hrest
    · obtain ⟨op, _, rfl⟩ := Option.map_eq_some_iff.mp hrest
      rfl
    · split at hrest
      · cases hrest
        rfl
      · cases hrest
  rw [hk, String.toList_ofList]
  exact pathText_of_path hpath

theorem oneLine_quote (b : Builtin) {s : String} (h : IsOneLine s) :
    IsOneLine (b.dialect.quote s) := by
  have hmarks : ∀ d : Delimiters, d.opening ≠ '\n' ∧ d.closing ≠ '\n' := by
    intro d
    cases d <;> decide
  obtain ⟨hopening, hclosing⟩ := hmarks b.delimiters
  rw [Builtin.quote_eq]
  by_cases hstar : s = "*"
  · rwa [if_pos hstar]
  · rw [if_neg hstar]
    unfold IsOneLine Delimiters.quote Text.quoted
    simp only [String.toList_ofList, List.cons_append, List.mem_cons, List.mem_append,
      List.not_mem_nil, or_false, not_or]
    exact ⟨Ne.symm hopening, fun hmem => h (Text.mem_of_mem_double hmem), Ne.symm hclosing⟩

theorem oneLine_field (b : Builtin) {key : String} {t : AssignmentTerm}
    (h : AssignmentTerm.ofKey key = .ok t) : IsOneLine (t.field.render b.dialect.toLexicon) := by
  obtain ⟨k, f, hk, hf, rfl⟩ := AssignmentTerm.ofKey_eq_ok_iff.mp h
  refine IsOneLine.join (by decide) fun s hs => ?_
  obtain ⟨part, hpart, rfl⟩ := List.mem_map.mp hs
  refine oneLine_quote b fun hline => ?_
  have htext := pathText_of_assignment? hk _ (mem_of_mem_parts hf hpart hline)
  have hbreak : isPathText '\n' = false := by decide
  rw [hbreak] at htext
  cases htext

theorem oneLine_arithmetic (b : Builtin) {op : Arith} {n : Int64} {e : Key × Value}
    (h : Assignment.IsArithmetic op n e) {s : String}
    (hs : Assignment.entry b.dialect e = .ok s) : IsOneLine s := by
  obtain ⟨key, f, rfl, hkey⟩ := h
  rw [Assignment.entry_int b hkey] at hs
  cases hs
  have hfield := oneLine_field b hkey
  have hsymbol : IsOneLine op.symbol := by
    cases op <;> decide
  have hnumber : IsOneLine (toString n.toInt) := by
    intro hline
    have hnumeral := numeral_of_mem_int hline
    cases hnumeral
  exact (((hfield.append (by decide)).append hfield).append hsymbol).append hnumber

end TerseSql
