import TerseSql.Statement.Plan

/-!
# What clauses add

Most clauses add terms that do not depend on the statement: they fail and leave the statement
as it was, or they add their terms at its end.
-/

namespace TerseSql

namespace Building

/-- The change adds the terms `x`, or it fails as `x` does and changes nothing. -/
def Adds (change : Building Unit) (x : Built (List String)) : Prop :=
  ∀ s, change.run s =
    match x with
    | .ok terms => .ok () (s.push terms)
    | .error e => .error e s

theorem adds_add (terms : List String) : Adds (Statement.add terms) (pure terms) :=
  fun _ => rfl

theorem adds_throw (e : BuildError) : Adds (throw e) (.error e) :=
  fun _ => rfl

theorem adds_nothing : Adds (pure ()) (.ok []) := by
  intro s
  have hpush : s.push [] = s := by
    unfold Statement.push
    rw [List.append_nil]
  simp only [hpush]
  rfl

theorem adds_bind {α : Type} (x : Built α) {f : α → Building Unit} {g : α → Built (List String)}
    (h : ∀ a, Adds (f a) (g a)) : Adds (liftM x >>= f) (x >>= g) := by
  intro s
  cases x with
  | error e => rfl
  | ok a => exact h a s

theorem exists_of_adds {change : Building Unit} {x : Built (List String)} (h : change.Adds x)
    {s t : Statement} (hrun : change.run s = .ok () t) :
    ∃ terms, x = .ok terms ∧ t = s.push terms := by
  rw [h s] at hrun
  cases x with
  | ok terms =>
    cases hrun
    exact ⟨terms, rfl, rfl⟩
  | error e => cases hrun

end Building

namespace Statement

open Building

variable (d : Dialect)

def tableTerms (keyword table : String) : Built (List String) := do
  return [keyword, (← Table.ofText table).render d.toLexicon]

theorem adds_withTable (keyword table : String) :
    Adds (withTable d keyword table) (tableTerms d keyword table) := by
  unfold withTable tableTerms
  exact adds_bind _ fun _ => adds_add _

def predicateTerms (keyword : String) (conditions : Dict Value) : Built (List String) :=
  if conditions.isEmpty then .ok []
  else do return [keyword, ← Condition.render d conditions]

theorem adds_withPredicate (keyword : String) (conditions : Dict Value) :
    Adds (withPredicate d keyword conditions) (predicateTerms d keyword conditions) := by
  unfold withPredicate predicateTerms
  by_cases h : conditions.isEmpty = true
  · rw [if_pos h, if_pos h]
    exact adds_nothing
  · rw [if_neg h, if_neg h]
    exact adds_bind _ fun _ => adds_add _

def setTerms (sets : Dict Value) : Built (List String) := do
  return ["SET", ← Assignment.render d sets]

theorem adds_set (sets : Dict Value) : Adds (set d sets) (setTerms d sets) := by
  unfold set setTerms
  exact adds_bind _ fun _ => adds_add _

theorem insertBody_of_not_query {d : Dialect} {columns : Option (List Column)} {first : Value}
    (h : ∀ q, first ≠ .query q) (rest : List Value) :
    insertBody d columns first rest =
      (do return ["VALUES", Text.join "," (← (first :: rest).mapM (insertRow d columns))]) := by
  cases first with
  | query q => exact absurd rfl (h q)
  | _ => rfl

def insertTerms (table : String) (columns : Option (List Column)) :
    List Value → Built (List String)
  | [] => .error (.insert (.noRows table))
  | first :: rest => do
    let table ← Table.ofText table
    let columns ← insertColumns columns first rest
    let list ← columnList d columns
    let body ← insertBody d columns first rest
    return "INSERT INTO" :: table.render d.toLexicon :: list ++ body

theorem adds_insert (table : String) (rows : List Value) (columns : Option (List Column)) :
    Adds (insert d table rows columns) (insertTerms d table columns rows) := by
  cases rows with
  | nil => exact adds_throw _
  | cons first rest =>
    unfold insert insertTerms
    refine adds_bind _ fun _ => ?_
    refine adds_bind _ fun _ => ?_
    refine adds_bind _ fun _ => ?_
    exact adds_bind _ fun _ => adds_add _

end Statement

theorem Plan.run_cons_of_adds {d : Dialect} {c : Clause} {x : Built (List String)}
    (h : (c.add d).Adds x) (rest : Plan) (s : Statement) :
    Plan.run d (.ok c :: rest) s =
      match x with
      | .ok terms => Plan.run d rest (s.push terms)
      | .error e => ⟨s, some e⟩ := by
  rw [Plan.run, h s]
  cases x with
  | ok terms => rfl
  | error e => rfl

theorem Plan.run_cons_of_adds_ok {d : Dialect} {c : Clause} {x : Built (List String)}
    {terms : List String} (h : (c.add d).Adds x) (hx : x = .ok terms) (rest : Plan)
    (s : Statement) : Plan.run d (.ok c :: rest) s = Plan.run d rest (s.push terms) := by
  subst hx
  exact Plan.run_cons_of_adds h rest s

theorem Plan.exists_terms {d : Dialect} {c : Clause} {x : Built (List String)}
    (h : (c.add d).Adds x) {rest : Plan} {s : Statement}
    (hok : (Plan.run d (.ok c :: rest) s).error = none) :
    ∃ terms, x = .ok terms ∧ Plan.run d (.ok c :: rest) s = Plan.run d rest (s.push terms) := by
  rw [Plan.run_cons_of_adds h] at hok ⊢
  cases x with
  | ok terms => exact ⟨terms, rfl, rfl⟩
  | error e => cases hok

theorem Call.run_clause_of_adds {d : Dialect} {c : Clause} {x : Built (List String)}
    (h : (c.add d).Adds x) (s : Statement) :
    Call.run d s (.clause c) =
      match x with
      | .ok terms => ⟨s.push terms, none⟩
      | .error e => ⟨s, some e⟩ :=
  Plan.run_cons_of_adds h [] s

end TerseSql
