import TerseSql.Proofs.Extension
import TerseSql.Proofs.Mirror.Condition
import TerseSql.Proofs.Mirror.Row
import TerseSql.Proofs.Run
import TerseSql.Proofs.Window.Fragment

/-!
# Clauses under two dialects

A clause without raw SQL, documents and full outer joins adds terms to a statement for MySQL
that mirror those that it adds for the generic dialect, or it fails for both.
-/

namespace TerseSql

open Lexing Text

def Dict.Twins (R : Query → Query → Prop) (d d' : Dict Value) : Prop :=
  Value.TwinEntries R d.entries d'.entries

/-! ## Order and windows -/

section

variable {R : Query → Query → Prop}

theorem direction_same {v v' : Value} (h : v.Twins R v') :
    Alike (Same fun _ => True) (Direction.ofValue v) (Direction.ofValue v') := by
  cases h with
  | text hs =>
    apply (Alike.self (Direction.ofValue (.text _))).imp
    rintro direction _ ⟨rfl, _⟩
    exact ⟨rfl, trivial⟩
  | null => exact .ok ⟨rfl, trivial⟩
  | bool b => exact .ok ⟨rfl, trivial⟩
  | _ => exact .error

theorem orderTerm_same {key : String} {v v' : Value} (h : v.Twins R v') :
    Alike (Same fun t : OrderTerm => t.field.IsUnmarked) (OrderTerm.ofEntry key v)
      (OrderTerm.ofEntry key v') := by
  unfold OrderTerm.ofEntry
  cases hk : Grammar.sort? key with
  | none => exact .error
  | some k =>
    dsimp only
    apply (Alike.self (FieldExpr.make k.path k.func none)).bind
    rintro e _ ⟨rfl, he⟩
    apply (direction_same h).bind
    rintro direction _ ⟨rfl, _⟩
    exact .ok ⟨rfl, sortField_unmarked hk he⟩

theorem orders_mirrors {orders orders' : Dict Value} (h : orders.Twins R orders') :
    Alike Mirrors (Order.render Builtin.generic.dialect.toLexicon orders)
      (Order.render Builtin.mysql.dialect.toLexicon orders') := by
  unfold Order.render
  refine (Alike.mapM h.forall₂ fun e e' he => ?_).bind fun _ _ hss =>
    .ok (Mirrors.join (by decide) hss)
  obtain ⟨key, v⟩ := e
  obtain ⟨key', v'⟩ := e'
  obtain ⟨name, rfl, rfl, hv⟩ := he
  apply (orderTerm_same hv).bind
  rintro t _ ⟨rfl, ht⟩
  have hdirection : Text.IsUnmarked t.direction.sql := by
    cases t.direction <;> decide
  exact .ok (((fieldExpr_mirrors ht).after (by decide)).after hdirection)

theorem count_same {v v' : Value} (h : v.Twins R v') :
    Alike (Same fun _ => True) (Window.countOf v) (Window.countOf v') := by
  cases h with
  | int n =>
    apply (Alike.self (Window.countOf (.int n))).imp
    rintro count _ ⟨rfl, _⟩
    exact ⟨rfl, trivial⟩
  | _ => exact .error

theorem window_same {v v' : Value} (h : v.Twins R v') :
    Alike (Same fun _ => True) (Window.ofValue v) (Window.ofValue v') := by
  cases h with
  | int n =>
    apply (Alike.self (Window.ofValue (.int n))).imp
    rintro w _ ⟨rfl, _⟩
    exact ⟨rfl, trivial⟩
  | list hitems =>
    cases hitems with
    | nil => exact .error
    | cons hcount hrest =>
      cases hrest with
      | nil =>
        apply (count_same hcount).bind
        rintro n _ ⟨rfl, _⟩
        exact .ok ⟨rfl, trivial⟩
      | cons hoffset hrest =>
        cases hrest with
        | nil =>
          apply (count_same hcount).bind
          rintro n _ ⟨rfl, _⟩
          apply (count_same hoffset).bind
          rintro m _ ⟨rfl, _⟩
          exact .ok ⟨rfl, trivial⟩
        | cons _ _ => exact .error
  | _ => exact .error

theorem number_unmarked (n : UInt64) : Text.IsUnmarked (Pagination.number n) :=
  isUnmarked_of_all (p := Char.isDigit) (by decide) fun _ hc =>
    Reading.digit_of_mem_number hc

theorem limitOffset_unmarked (w : Window) :
    Text.IsUnmarked (Pagination.limitOffset w.count w.offset) := by
  unfold Pagination.limitOffset
  cases w.offset with
  | none => exact isUnmarked_append.mpr ⟨by decide, number_unmarked w.count⟩
  | some offset =>
    simp only [isUnmarked_append]
    exact ⟨⟨⟨by decide, number_unmarked w.count⟩, by decide⟩, number_unmarked offset⟩

/-! ## Predicates -/

structure Dict.TwinConditions (R : Query → Query → Prop) (d d' : Dict Value) : Prop where
  entries : d.Twins R d'
  shared : Condition.Tree.IsShared (Condition.Tree.ofDict d)

theorem isEmpty_twins {d d' : Dict Value} (h : d.Twins R d') : d'.isEmpty = d.isEmpty := by
  obtain ⟨entries⟩ := d
  obtain ⟨entries'⟩ := d'
  cases h <;> rfl

theorem predicateTerms_mirrors (hR : ∀ q q', R q q' → q.Mirrors q') {keyword : String}
    (hkeyword : Text.IsUnmarked keyword) {d d' : Dict Value} (h : d.TwinConditions R d') :
    Alike (List.Forall₂ Mirrors)
      (Statement.predicateTerms Builtin.generic.dialect keyword d)
      (Statement.predicateTerms Builtin.mysql.dialect keyword d') := by
  unfold Statement.predicateTerms
  rw [isEmpty_twins h.entries]
  by_cases hempty : d.isEmpty = true
  · rw [if_pos hempty, if_pos hempty]
    exact .ok .nil
  · rw [if_neg hempty, if_neg hempty]
    have htrees := Condition.Tree.ofEntries_mirrors hR d.entries d'.entries h.entries h.shared
    have hpredicate : Alike Mirrors (Condition.render Builtin.generic.dialect d)
        (Condition.render Builtin.mysql.dialect d') := by
      rw [Condition.Tree.render_eq, Condition.Tree.render_eq]
      exact htrees.bind fun _ _ hss => .ok (conjoin_mirrors hss)
    exact hpredicate.bind fun _ _ hs => .ok (.cons (mirrors_self hkeyword) (.cons hs .nil))

end

/-! ## Clauses -/

structure Dict.TwinJoins (R : Query → Query → Prop) (d d' : Dict Value) : Prop where
  entries : d.Twins R d'
  shared : ∀ e ∈ d.entries, IsSharedJoin e.1.text ∧ e.2.HasUnmarkedNames

structure Dict.TwinAssignments (R : Query → Query → Prop) (d d' : Dict Value) : Prop where
  entries : d.Twins R d'
  shared : ∀ e ∈ d.entries, IsSharedAssignment e.1.text

/-- The clauses are the same but for queries in them, which are related. They hold neither raw
SQL nor documents nor full outer joins, and the operators in them are shared. -/
inductive Clause.Twins (R : Query → Query → Prop) : Clause → Clause → Prop where
  | select {columns : List Column} (distinct : Bool) : (∀ c ∈ columns, c.IsUnmarked) →
      Twins R (.select columns distinct) (.select columns distinct)
  | fromSources {sources sources' : List Source} :
      List.Forall₂ (Source.Twins R) sources sources' →
      Twins R (.fromSources sources) (.fromSources sources')
  | into {table : String} : Text.IsUnmarked table → Twins R (.into table) (.into table)
  | join {joins joins' : Dict Value} : joins.TwinJoins R joins' →
      Twins R (.join joins) (.join joins')
  | filter {d d' : Dict Value} : d.TwinConditions R d' → Twins R (.filter d) (.filter d')
  | orderBy {orders orders' : Dict Value} : orders.Twins R orders' →
      Twins R (.orderBy orders) (.orderBy orders')
  | limit {v v' : Value} : v.Twins R v' → Twins R (.limit v) (.limit v')
  | groupBy {columns : List Column} : (∀ c ∈ columns, c.IsUnmarked) →
      Twins R (.groupBy columns) (.groupBy columns)
  | having {d d' : Dict Value} : d.TwinConditions R d' → Twins R (.having d) (.having d')
  | existence {q q' : Query} : R q q' → Twins R (.existence q) (.existence q')
  | union {q q' : Query} (all : Bool) : R q q' → Twins R (.union q all) (.union q' all)
  | insert {table : String} {rows rows' : List Value} {columns : Option (List Column)} :
      Text.IsUnmarked table → ColumnsUnmarked columns → Value.TwinItems R rows rows' →
      (∀ row ∈ rows, row.HasUnmarkedNames) →
      Twins R (.insert table rows columns) (.insert table rows' columns)
  | update {table : String} : Text.IsUnmarked table → Twins R (.update table) (.update table)
  | set {sets sets' : Dict Value} : sets.TwinAssignments R sets' →
      Twins R (.set sets) (.set sets')
  | delete {table : String} : Text.IsUnmarked table → Twins R (.delete table) (.delete table)

def MirrorsExtension (x x' : List String × Option Primary) : Prop :=
  List.Forall₂ Mirrors x.1 x'.1 ∧ Same Primary.IsUnmarked x.2 x'.2

structure Outcome.Mirrors (o o' : Outcome) : Prop where
  statement : o.statement.Mirrors o'.statement
  error : o.error = none ↔ o'.error = none

section

variable {R : Query → Query → Prop} (hR : ∀ q q', R q q' → q.Mirrors q')

theorem tableTerms_mirrors {keyword table : String} (hkeyword : Text.IsUnmarked keyword)
    (htable : Text.IsUnmarked table) :
    Alike (List.Forall₂ Mirrors) (Statement.tableTerms Builtin.generic.dialect keyword table)
      (Statement.tableTerms Builtin.mysql.dialect keyword table) := by
  apply (Alike.self (Table.ofText table)).bind
  rintro t _ ⟨rfl, ht⟩
  exact .ok (.cons (mirrors_self hkeyword)
    (.cons (table_mirrors (table_unmarked htable ht)) .nil))

include hR

theorem extension_mirrors {c c' : Clause} (h : c.Twins R c') {primary : Option Primary}
    (hprimary : Primary.IsUnmarked primary) :
    Alike MirrorsExtension (c.extension Builtin.generic.dialect primary)
      (c'.extension Builtin.mysql.dialect primary) := by
  have hadds : ∀ {x x' : Built (List String)}, Alike (List.Forall₂ Mirrors) x x' →
      Alike MirrorsExtension (do return (← x, primary)) (do return (← x', primary)) :=
    fun hx => hx.bind fun _ _ hterms => .ok ⟨hterms, rfl, hprimary⟩
  have hword : ∀ {keyword s s' : String}, Text.IsUnmarked keyword → Text.Mirrors s s' →
      List.Forall₂ Text.Mirrors [keyword, s] [keyword, s'] :=
    fun hkeyword hs => .cons (mirrors_self hkeyword) (.cons hs .nil)
  cases h with
  | select distinct hcolumns =>
    have hkeyword : Text.IsUnmarked (if distinct then "SELECT DISTINCT" else "SELECT") := by
      cases distinct <;> decide
    exact (selectList_mirrors hcolumns).bind fun _ _ hs => .ok ⟨hword hkeyword hs, rfl, hprimary⟩
  | fromSources hsources =>
    exact (sourceList_mirrors hR hsources).bind fun _ _ hx => .ok ⟨hword (by decide) hx.1, hx.2⟩
  | into htable => exact hadds (tableTerms_mirrors (by decide) htable)
  | join hjoins =>
    exact (joins_mirrors hprimary hjoins.entries hjoins.shared).bind fun _ _ hs =>
      .ok ⟨.cons hs .nil, rfl, hprimary⟩
  | filter hconditions => exact hadds (predicateTerms_mirrors hR (by decide) hconditions)
  | orderBy horders =>
    exact (orders_mirrors horders).bind fun _ _ hs => .ok ⟨hword (by decide) hs, rfl, hprimary⟩
  | limit hv => exact .ok ⟨.nil, rfl, hprimary⟩
  | groupBy hcolumns =>
    exact (groupList_mirrors hcolumns).bind fun _ _ hs => .ok ⟨hword (by decide) hs, rfl, hprimary⟩
  | having hconditions => exact hadds (predicateTerms_mirrors hR (by decide) hconditions)
  | existence hq => exact .ok ⟨hword (by decide) (hR _ _ hq).sql, rfl, hprimary⟩
  | union all hq =>
    have hsql := (hR _ _ hq).sql
    refine .ok ⟨.cons (mirrors_self (by decide)) ?_, rfl, hprimary⟩
    cases all with
    | false => exact .cons hsql .nil
    | true => exact hword (by decide) hsql
  | insert htable hcolumns hrows hnames =>
    exact hadds (insertTerms_mirrors hR htable hcolumns hrows hnames)
  | update htable => exact hadds (tableTerms_mirrors (by decide) htable)
  | set hsets =>
    have hassignments := assignments_mirrors hR hsets.entries hsets.shared
    exact hadds (hassignments.bind fun _ _ hs => .ok (hword (by decide) hs))
  | delete htable => exact hadds (tableTerms_mirrors (by decide) htable)

omit hR in
theorem window_mirrors (w : Window) {terms terms' : List String}
    (h : List.Forall₂ Mirrors terms terms') :
    List.Forall₂ Mirrors
      (Statement.place (w.fragment Builtin.generic.dialect.toLexicon) terms)
      (Statement.place (w.fragment Builtin.mysql.dialect.toLexicon) terms') :=
  List.rel_append h (.cons (mirrors_self (limitOffset_unmarked w)) .nil)

/-- Both fail and change nothing, or both succeed and leave statements built alike. -/
theorem run_mirrors {c c' : Clause} (h : c.Twins R c') {s s' : Statement} (hs : s.Mirrors s') :
    (∃ t t', (c.add Builtin.generic.dialect).run s = .ok () t ∧
      (c'.add Builtin.mysql.dialect).run s' = .ok () t' ∧ t.Mirrors t') ∨
    ∃ e e', (c.add Builtin.generic.dialect).run s = .error e s ∧
      (c'.add Builtin.mysql.dialect).run s' = .error e' s' := by
  have hwindow : c'.IsWindow ↔ c.IsWindow := by
    cases h <;> rfl
  by_cases hc : c.IsWindow
  · cases h with
    | @limit v v' hv =>
      have hsame := window_same hv
      generalize hw : Window.ofValue v = x, hw' : Window.ofValue v' = x' at hsame
      cases hsame with
      | error =>
        exact Or.inr ⟨_, _, Clause.run_limit_error _ s hw, Clause.run_limit_error _ s' hw'⟩
      | @ok w w' hx =>
        obtain ⟨rfl, _⟩ := hx
        exact Or.inl ⟨_, _, Clause.run_limit _ s hw, Clause.run_limit _ s' hw',
          window_mirrors w hs.terms, hs.primary, hs.wrapping, hs.reference, hs.aliasName⟩
    | _ => exact absurd hc id
  · rw [Clause.run_extension _ hc, Clause.run_extension _ fun h => hc (hwindow.mp h), hs.primary]
    have hextension := extension_mirrors hR h hs.reference
    generalize c.extension Builtin.generic.dialect s.primary = x,
      c'.extension Builtin.mysql.dialect s.primary = x' at hextension
    cases hextension with
    | error => exact Or.inr ⟨_, _, rfl, rfl⟩
    | @ok x x' hx =>
      obtain ⟨terms, primary⟩ := x
      obtain ⟨terms', primary'⟩ := x'
      obtain ⟨hterms, hprimary, hunmarked⟩ := hx
      dsimp only at hterms hprimary hunmarked
      subst hprimary
      exact Or.inl ⟨_, _, rfl, rfl, List.rel_append hs.terms hterms, rfl, hs.wrapping, hunmarked,
        hs.aliasName⟩

end

end TerseSql
