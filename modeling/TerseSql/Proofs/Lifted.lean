import TerseSql.Dialect.Builtin
import TerseSql.Proofs.Dict.Keys
import TerseSql.Statement.Plan

/-!
# Clauses lifted out of conditions

A dictionary that was made by insertions holds every key once. The five clauses that a
selection lifts out of its conditions are then what stands under their names, and what
remains are the other entries in their order: where the five stood is forgotten.
-/

namespace TerseSql

namespace Lifted

def names : List String :=
  ["ORDER", "LIMIT", "GROUP", "HAVING", "EXISTS"]

/-- What is lifted is what stands under the names, and the other entries remain. -/
theorem ofConditions_eq {conditions : Dict Value} (h : conditions.Distinct) :
    ofConditions conditions =
      { order := (conditions.get? "ORDER").filter Value.isTruthy
        limit := (conditions.get? "LIMIT").filter Value.isTruthy
        group := (conditions.get? "GROUP").filter Value.isTruthy
        having := (conditions.get? "HAVING").filter Value.isTruthy
        exists_ := (conditions.get? "EXISTS").filter Value.isTruthy
        conditions := conditions.without names } := by
  have horder := Dict.remove_without h [] "ORDER" (by decide)
  have hlimit := Dict.remove_without h ["ORDER"] "LIMIT" (by decide)
  have hgroup := Dict.remove_without h ["ORDER", "LIMIT"] "GROUP" (by decide)
  have hhaving := Dict.remove_without h ["ORDER", "LIMIT", "GROUP"] "HAVING" (by decide)
  have hexists := Dict.remove_without h ["ORDER", "LIMIT", "GROUP", "HAVING"] "EXISTS" (by decide)
  rw [Dict.without_nil] at horder
  simp only [List.nil_append, List.cons_append] at horder hlimit hgroup hhaving hexists
  unfold ofConditions
  simp only [horder, hlimit, hgroup, hhaving, hexists]
  rfl

end Lifted

namespace Call

variable (d : Dialect) (s : Statement) (sources : List Source) (columns : List Column)
  (options : SelectOptions)

/-- A selection does not depend on where its conditions carry the clauses that it lifts. -/
theorem lifted_anywhere {a b : Dict Value} (ha : a.Distinct) (hb : b.Distinct)
    (hlifted : ∀ name ∈ Lifted.names, a.get? name = b.get? name)
    (hothers : a.without Lifted.names = b.without Lifted.names) :
    run d s (.select sources columns (some a) options) =
      run d s (.select sources columns (some b) options) := by
  have hsame : Lifted.ofConditions a = Lifted.ofConditions b := by
    rw [Lifted.ofConditions_eq ha, Lifted.ofConditions_eq hb, hothers,
      hlifted "ORDER" (by decide), hlifted "LIMIT" (by decide), hlifted "GROUP" (by decide),
      hlifted "HAVING" (by decide), hlifted "EXISTS" (by decide)]
  have hplan : Plan.select sources columns a options = Plan.select sources columns b options := by
    unfold Plan.select
    rw [hsame]
  simp only [run, Option.getD_some, hplan]

/-- Conditions that carry a window, a grouping and an order that cannot be read. -/
theorem lifted_anywhere_shuffled :
    let first : Dict Value := .ofList
      [(.name "ORDER", .bool true), (.name "a", .int 1), (.name "GROUP", .text "c"),
       (.name "LIMIT", .int 3), (.name "b", .int 2)]
    let second : Dict Value := .ofList
      [(.name "a", .int 1), (.name "LIMIT", .int 3), (.name "b", .int 2),
       (.name "ORDER", .bool true), (.name "GROUP", .text "c")]
    let outcome := run Builtin.mssql.dialect .empty (.select [.table "t"] [] (some first) .none)
    outcome = run Builtin.mssql.dialect .empty (.select [.table "t"] [] (some second) .none) ∧
      outcome.statement.terms =
        ["SELECT", "*", "FROM", "[t]", "WHERE", "[a] = 1 AND [b] = 2"] ∧
      outcome.error ≠ none := by
  refine ⟨?_, rfl, fun h => nomatch h⟩
  refine lifted_anywhere _ _ _ _ _ (Dict.distinct_iff.mpr ⟨_, rfl⟩)
    (Dict.distinct_iff.mpr ⟨_, rfl⟩) ?_ rfl
  intro name hname
  simp only [Lifted.names, List.mem_cons, List.not_mem_nil, or_false] at hname
  rcases hname with rfl | rfl | rfl | rfl | rfl <;> rfl

end Call

end TerseSql
