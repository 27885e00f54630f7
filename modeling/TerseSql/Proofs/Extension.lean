import TerseSql.Proofs.Added
import TerseSql.Proofs.Run

/-!
# How clauses extend a statement

Every clause but a window adds terms after those that are there, or fails. Which terms it adds
depends on the statement through its primary table alone, and FROM is the one clause that changes
it. A window is put in its place among the terms, or fails, whatever the terms are.
-/

namespace TerseSql

namespace Clause

open Building

/-- The terms that a clause adds and the primary table that it leaves, where the primary table
before it is known. A window adds no terms of its own. -/
def extension (d : Dialect) (primary : Option Primary) :
    Clause → Built (List String × Option Primary)
  | select columns distinct => do
    let list ← Statement.selectList d columns
    return ([if distinct then "SELECT DISTINCT" else "SELECT", list], primary)
  | fromSources sources => do
    let (list, found) ← Statement.sourceList d sources
    return (["FROM", list], found)
  | into table => do return (← Statement.tableTerms d "INTO" table, primary)
  | join joins => do return ([← Join.render d.toLexicon primary joins], primary)
  | filter conditions => do return (← Statement.predicateTerms d "WHERE" conditions, primary)
  | orderBy orders => do return (["ORDER BY", ← Order.render d.toLexicon orders], primary)
  | limit _ => .ok ([], primary)
  | groupBy columns => do return (["GROUP BY", ← Statement.groupList d columns], primary)
  | having conditions => do return (← Statement.predicateTerms d "HAVING" conditions, primary)
  | existence q => .ok (["EXISTS", q.sql], primary)
  | union q all => .ok ("UNION" :: (if all then ["ALL"] else []) ++ [q.sql], primary)
  | insert table rows columns => do return (← Statement.insertTerms d table columns rows, primary)
  | update table => do return (← Statement.tableTerms d "UPDATE" table, primary)
  | set sets => do return (← Statement.setTerms d sets, primary)
  | delete table => do return (← Statement.tableTerms d "DELETE FROM" table, primary)

def IsWindow : Clause → Prop
  | limit _ => True
  | _ => False

theorem run_of_adds {change : Building Unit} {x : Built (List String)} (h : change.Adds x)
    (s : Statement) :
    change.run s =
      match (do return (← x, s.primary) : Built (List String × Option Primary)) with
      | .ok (terms, primary) => .ok () { s with terms := s.terms ++ terms, primary }
      | .error e => .error e s := by
  rw [h s]
  cases x with
  | ok terms => rfl
  | error e => rfl

variable (d : Dialect)

theorem run_extension {c : Clause} (hwindow : ¬c.IsWindow) (s : Statement) :
    (c.add d).run s =
      match c.extension d s.primary with
      | .ok (terms, primary) => .ok () { s with terms := s.terms ++ terms, primary }
      | .error e => .error e s := by
  cases c with
  | limit v => exact absurd trivial hwindow
  | into table => exact run_of_adds (Statement.adds_withTable d "INTO" table) s
  | update table => exact run_of_adds (Statement.adds_withTable d "UPDATE" table) s
  | delete table => exact run_of_adds (Statement.adds_withTable d "DELETE FROM" table) s
  | filter conditions => exact run_of_adds (Statement.adds_withPredicate d "WHERE" conditions) s
  | having conditions => exact run_of_adds (Statement.adds_withPredicate d "HAVING" conditions) s
  | set sets => exact run_of_adds (Statement.adds_set d sets) s
  | insert table rows columns => exact run_of_adds (Statement.adds_insert d table rows columns) s
  | existence q => rfl
  | union q all => rfl
  | select columns distinct =>
    simp only [add, Statement.select, extension]
    cases Statement.selectList d columns <;> rfl
  | fromSources sources =>
    simp only [add, Statement.fromSources, extension]
    cases Statement.sourceList d sources <;> rfl
  | join joins =>
    show (Statement.join d joins).run s = _
    have hjoin : (Statement.join d joins).run s = (do
        Statement.add [← Join.render d.toLexicon s.primary joins] : Building Unit).run s := rfl
    rw [hjoin]
    simp only [extension]
    cases Join.render d.toLexicon s.primary joins <;> rfl
  | orderBy orders =>
    simp only [add, Statement.orderBy, extension]
    cases Order.render d.toLexicon orders <;> rfl
  | groupBy columns =>
    simp only [add, Statement.groupBy, extension]
    cases Statement.groupList d columns <;> rfl

/-- What a clause does to every statement with one primary table: it puts a window in its place,
adds terms behind the others, or fails. -/
inductive Effect (primary : Option Primary) (c : Clause) : Prop where
  | places (w : Window) :
    (∀ s, (c.add d).run s =
      .ok () { s with terms := Statement.place (w.fragment d.toLexicon) s.terms }) →
    Effect primary c
  | adds {added : List String} {left : Option Primary} :
    c.extension d primary = .ok (added, left) →
    (∀ s, s.primary = primary →
      (c.add d).run s = .ok () { s with terms := s.terms ++ added, primary := left }) →
    Effect primary c
  | fails {e : BuildError} :
    (∀ s, s.primary = primary → (c.add d).run s = .error e s) → Effect primary c

theorem effect (primary : Option Primary) (c : Clause) : c.Effect d primary := by
  by_cases hwindow : c.IsWindow
  · cases c with
    | limit v =>
      cases hv : Window.ofValue v with
      | error e => exact .fails fun s _ => run_limit_error d s hv
      | ok w => exact .places w fun s => run_limit d s hv
    | _ => cases hwindow
  · have hrun := run_extension d hwindow
    cases hextension : c.extension d primary with
    | error e =>
      refine .fails (e := e) fun s hs => ?_
      rw [hrun s, hs, hextension]
    | ok found =>
      refine .adds hextension fun s hs => ?_
      rw [hrun s, hs, hextension]

end Clause

namespace Call

variable {d : Dialect} {s : Statement}

/-- What a clause that succeeded has added, unless it is a window. -/
theorem exists_extension {c : Clause} (hok : (run d s (.clause c)).error = none)
    (hwindow : ¬c.IsWindow) :
    ∃ terms primary, c.extension d s.primary = .ok (terms, primary) ∧
      (run d s (.clause c)).statement = { s with terms := s.terms ++ terms, primary } := by
  rw [run_clause, Clause.run_extension d hwindow] at hok ⊢
  cases hextension : c.extension d s.primary with
  | error e =>
    rw [hextension] at hok
    cases hok
  | ok found => exact ⟨found.1, found.2, rfl, rfl⟩

end Call

end TerseSql
