import TerseSql.Clause.Assignment
import TerseSql.Clause.Condition
import TerseSql.Clause.Join
import TerseSql.Clause.Order
import TerseSql.Proofs.Result

/-!
# Terms of keys

A key gives a term exactly if its grammar takes it and what the grammar finds can be built: a
field or a table from its path, and from the value a direction or the fields of a join.
-/

namespace TerseSql

theorem FieldExpr.make_eq_ok_iff {path : String} {func aliasName : Option String} {e : FieldExpr} :
    make path func aliasName = .ok e ↔ ∃ f, Field.ofPath (Text.trim path) = .ok f ∧
      e = ⟨f, (readFunction func).1, (readFunction func).2, aliasName⟩ := by
  constructor
  · intro h
    obtain ⟨f, hf, h⟩ := Built.exists_of_bind h
    cases h
    exact ⟨f, hf, rfl⟩
  · rintro ⟨f, hf, rfl⟩
    exact Built.bind_eq_ok_iff.mpr ⟨f, hf, rfl⟩

theorem ConditionTerm.ofKey_eq_ok_iff {key : String} {t : ConditionTerm} :
    ofKey key = .ok t ↔ ∃ k e, Grammar.condition? key = some k ∧
      FieldExpr.make (Text.trim k.path) k.func none = .ok e ∧
      t = ⟨k.negated, e, k.operator.filter fun op => !Text.isAllBlank op⟩ := by
  unfold ofKey
  cases Grammar.condition? key with
  | none => exact iff_of_false (fun h => nomatch h) fun ⟨_, _, hk, _⟩ => nomatch hk
  | some k =>
    constructor
    · intro h
      obtain ⟨e, he, h⟩ := Built.exists_of_bind h
      cases h
      exact ⟨k, e, rfl, he, rfl⟩
    · rintro ⟨_, e, hk, he, rfl⟩
      cases hk
      exact Built.bind_eq_ok_iff.mpr ⟨e, he, rfl⟩

theorem OrderTerm.ofEntry_eq_ok_iff {key : String} {v : Value} {t : OrderTerm} :
    ofEntry key v = .ok t ↔ ∃ k e direction, Grammar.sort? key = some k ∧
      FieldExpr.make k.path k.func none = .ok e ∧ Direction.ofValue v = .ok direction ∧
      t = ⟨e, direction⟩ := by
  unfold ofEntry
  cases Grammar.sort? key with
  | none => exact iff_of_false (fun h => nomatch h) fun ⟨_, _, _, hk, _⟩ => nomatch hk
  | some k =>
    constructor
    · intro h
      obtain ⟨e, he, h⟩ := Built.exists_of_bind h
      obtain ⟨direction, hdirection, h⟩ := Built.exists_of_bind h
      cases h
      exact ⟨k, e, direction, rfl, he, hdirection, rfl⟩
    · rintro ⟨_, e, direction, hk, he, hdirection, rfl⟩
      cases hk
      refine Built.bind_eq_ok_iff.mpr ⟨e, he, ?_⟩
      exact Built.bind_eq_ok_iff.mpr ⟨direction, hdirection, rfl⟩

theorem JoinTerm.ofEntry_eq_ok_iff {key : String} {v : Value} {primary : Option Primary}
    {t : JoinTerm} : ofEntry key v primary = .ok t ↔
    ∃ k table reference on, Grammar.join? key = some k ∧
      AliasedTable.make k.path k.aliasName = .ok table ∧
      Primary.reference? primary = .ok reference ∧
      onFields table.reference reference v = .ok on ∧ t = ⟨k.marker.getD "><", table, on⟩ := by
  unfold ofEntry
  cases Grammar.join? key with
  | none => exact iff_of_false (fun h => nomatch h) fun ⟨_, _, _, _, hk, _⟩ => nomatch hk
  | some k =>
    constructor
    · intro h
      obtain ⟨table, htable, h⟩ := Built.exists_of_bind h
      obtain ⟨reference, hreference, h⟩ := Built.exists_of_bind h
      obtain ⟨on, hon, h⟩ := Built.exists_of_bind h
      cases h
      exact ⟨k, table, reference, on, rfl, htable, hreference, hon, rfl⟩
    · rintro ⟨_, table, reference, on, hk, htable, hreference, hon, rfl⟩
      cases hk
      refine Built.bind_eq_ok_iff.mpr ⟨table, htable, ?_⟩
      refine Built.bind_eq_ok_iff.mpr ⟨reference, hreference, ?_⟩
      exact Built.bind_eq_ok_iff.mpr ⟨on, hon, rfl⟩

theorem AssignmentTerm.ofKey_eq_ok_iff {key : String} {t : AssignmentTerm} :
    ofKey key = .ok t ↔ ∃ k f, Grammar.assignment? key = some k ∧
      Field.ofPath k.path = .ok f ∧ t = ⟨f, k.operator⟩ := by
  unfold ofKey
  cases Grammar.assignment? key with
  | none => exact iff_of_false (fun h => nomatch h) fun ⟨_, _, hk, _⟩ => nomatch hk
  | some k =>
    constructor
    · intro h
      obtain ⟨f, hf, h⟩ := Built.exists_of_bind h
      cases h
      exact ⟨k, f, rfl, hf, rfl⟩
    · rintro ⟨_, f, hk, hf, rfl⟩
      cases hk
      exact Built.bind_eq_ok_iff.mpr ⟨f, hf, rfl⟩

end TerseSql
