import TerseSql.Clause.Assignment
import TerseSql.Proofs.Blank.Condition
import TerseSql.Proofs.Operator.Token
import TerseSql.Proofs.Operator.Update

/-!
# Assignments without their texts

An assignment and the same assignment of a blank value render to related texts. The texts
that the first holds are those of its value, or the document that it becomes.
-/

namespace TerseSql

open Lexing

namespace Value

def jsonTexts (v : Value) : List String :=
  match v.toJson with
  | .ok document => [document.write]
  | .error _ => []

mutual

/-- Whether a value has a document does not depend on its texts. -/
theorem toJson_alike : ∀ v : Value, Alike (fun _ _ => True) v.toJson v.blank.toJson
  | .null | .bool _ | .int _ | .raw _ | .json _ | .text _ => .ok trivial
  | .field _ | .query _ => .error
  | .float x => by
    rw [blank, toJson]
    · cases (Binary.ofFloat x).isFinite with
      | true => exact .ok trivial
      | false => exact .error
    all_goals simp
  | .list items => by
    rw [blank, toJson, toJson]
    exact (itemsToJson_alike items).bind fun _ _ _ => .ok trivial
  | .dict ⟨entries⟩ => by
    rw [blank, toJson, toJson]
    exact (entriesToJson_alike entries [] []).bind fun _ _ _ => .ok trivial

theorem itemsToJson_alike : ∀ items : List Value,
    Alike (fun _ _ => True) (itemsToJson items) (itemsToJson (blankItems items))
  | [] => .ok trivial
  | item :: rest => by
    rw [blankItems, itemsToJson, itemsToJson]
    refine (toJson_alike item).bind fun _ _ _ => ?_
    exact (itemsToJson_alike rest).bind fun _ _ _ => .ok trivial

theorem entriesToJson_alike : ∀ (entries : List (Key × Value)) (members members' : List (String × Json)),
    Alike (fun _ _ => True) (entriesToJson members entries)
      (entriesToJson members' (blankEntries entries))
  | [], _, _ => .ok trivial
  | (key, item) :: rest, _, _ => by
    rw [blankEntries, entriesToJson, entriesToJson]
    exact (toJson_alike item).bind fun _ _ _ => entriesToJson_alike rest _ _

end

end Value

/-! ## Operators -/

namespace Builtin

variable (b : Builtin)

/-- An operator of assignments that a dialect knows: one with a handler, one of those that
conditions have, or one of symbols. -/
def KnowsUpdate (token : String) : Prop :=
  (b.dialect.updateOperators.find? token).isSome = true ∨
    (Operator.ofToken? token).isSome = true ∨ isSymbolic token = true

def assignmentTexts (token : Option String) (v : Value) : List String :=
  match token with
  | some t =>
    if t ≠ "=" ∧ (b.dialect.updateOperators.find? t).isSome = true then v.jsonTexts else v.texts
  | none => v.texts

end Builtin

namespace Assignment

def texts (b : Builtin) : Key × Value → List String
  | (.raw _, v) => v.texts
  | (.name key, v) =>
    match AssignmentTerm.ofKey key with
    | .ok t => b.assignmentTexts t.operator v
    | .error _ => []

end Assignment

namespace Lexing

variable {b : Builtin} {comments : Bool} {R : TextRelation (b.rules comments)}

theorem separator_of_operator {token : String} (h : (Operator.ofToken? token).isSome = true) :
    (b.rules false).isSeparator token = true := by
  have hall : ∀ token ∈ Operator.tokens, isSteady token = true := by decide
  exact isSeparator_of_steady (hall token (mem_tokens h))

theorem separator_of_symbolic {token : String} (h : isSymbolic token = true) :
    (b.rules false).isSeparator token = true := by
  unfold isSymbolic at h
  rw [Bool.and_eq_true, List.all_eq_true, Bool.not_eq_true', List.isEmpty_eq_false_iff] at h
  exact isSeparator_of_calm h.1 fun c hc => symbol_calm (h.2 c hc)

/-! ## Assignments -/

section

variable {R : TextRelation (b.rules false)} (hsuits : R.Suits)
include hsuits

theorem assignJson_alike {field : String} (hfield : R.holds field field []) (v : Value) :
    Alike (R.holds · · v.jsonTexts) (assignJson b.dialect.toRenderer field v)
      (assignJson b.dialect.toRenderer field v.blank) := by
  have heq : (b.rules false).isSeparator "=" = true := isSeparator_of_steady (by decide)
  have hjson := v.toJson_alike
  unfold assignJson Value.jsonTexts
  cases hv : v.toJson with
  | error e =>
    cases hblank : v.blank.toJson with
    | error e' => exact .error
    | ok document =>
      rw [hv, hblank] at hjson
      cases hjson
  | ok document =>
    cases hblank : v.blank.toJson with
    | error e =>
      rw [hv, hblank] at hjson
      cases hjson
    | ok document' => exact .ok (holds_between hfield heq (hsuits.text _ _))

theorem assignment_alike {token : Option String} (h : ∀ t, token = some t → b.KnowsUpdate t)
    {field : String} (hfield : R.holds field field []) {v : Value} (hv : R.Covers v) :
    Alike (R.holds · · (b.assignmentTexts token v)) (b.dialect.assignment token field v)
      (b.dialect.assignment token field v.blank) := by
  have heq : (b.rules false).isSeparator "=" = true := isSeparator_of_steady (by decide)
  have hassign : Alike (R.holds · · v.texts) (b.dialect.assign field v)
      (b.dialect.assign field v.blank) := by
    rw [b.assign_eq]
    exact (literal_alike hsuits hv).bind fun s s' hs => .ok (holds_between hfield heq hs)
  cases token with
  | none => exact hassign
  | some t =>
    unfold Dialect.assignment Builtin.assignmentTexts
    by_cases ht : t = "="
    · simp only [ht, ne_eq, not_true_eq_false, false_and, if_false, if_true]
      exact hassign
    · simp only [ht, ne_eq, not_false_eq_true, true_and, if_false]
      cases hfind : b.dialect.updateOperators.find? t with
      | some handler =>
        rw [b.handler_of_find? hfind]
        exact assignJson_alike hsuits hfield v
      | none =>
        -- What no handler is registered for is arithmetic or made of symbols: it keeps tokens apart.
        have hsep : (b.rules false).isSeparator t = true := by
          rcases h t rfl with hk | hk | hk
          · rw [hfind] at hk
            cases hk
          · exact separator_of_operator hk
          · exact separator_of_symbolic hk
        dsimp only
        rw [b.defaultUpdate_eq]
        refine (literal_alike hsuits hv).bind fun s s' hs => .ok ?_
        have hjoint := holds_between (holds_between hfield heq hfield) hsep hs
        exact hjoint

end

end Lexing

end TerseSql
