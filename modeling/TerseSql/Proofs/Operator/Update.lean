import TerseSql.Dialect.Builtin

/-!
# The rules of assignments

The dialects at hand write assignments by the same rules. A document has an operator of its own,
no operator assigns the value, and any other one combines it with the field.
-/

namespace TerseSql.Builtin

variable (b : Builtin)

theorem assign_eq : b.dialect.assign = b.dialect.toRenderer.assignment := by
  cases b <;> rfl

theorem defaultUpdate_eq : b.dialect.defaultUpdate = b.dialect.toRenderer.combination := by
  cases b <;> rfl

theorem find?_updateOperators (token : String) :
    b.dialect.updateOperators.find? token =
      if Registry.normalize token = "json" then some assignJson else none := by
  have hhandlers : b.dialect.updateOperators.handlers = [("json", assignJson)] := by
    cases b <;> rfl
  unfold Registry.find?
  rw [hhandlers, List.lookup_cons]
  by_cases hjson : Registry.normalize token = "json"
  · simp [hjson]
  · rw [beq_false_of_ne hjson, if_neg hjson]
    rfl

theorem handler_of_find? {token : String} {handler : Handler}
    (h : b.dialect.updateOperators.find? token = some handler) : handler = assignJson := by
  rw [find?_updateOperators] at h
  split at h
  · exact (Option.some.inj h).symm
  · cases h

/-- How an assignment is written; no operator means `=`. -/
theorem assignment_eq (token : Option String) (field : String) (v : Value) :
    b.dialect.assignment token field v =
      if token.getD "=" = "=" then b.dialect.toRenderer.assignment field v
      else if Registry.normalize (token.getD "=") = "json" then
        assignJson b.dialect.toRenderer field v
      else b.dialect.toRenderer.combination (token.getD "=") field v := by
  unfold Dialect.assignment
  rw [assign_eq, defaultUpdate_eq]
  cases token with
  | none => rfl
  | some token =>
    dsimp only [Option.getD_some]
    rw [find?_updateOperators]
    by_cases hjson : Registry.normalize token = "json"
    · rw [if_pos hjson, if_pos hjson]
    · rw [if_neg hjson, if_neg hjson]

end TerseSql.Builtin
