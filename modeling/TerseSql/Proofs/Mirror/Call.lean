import Mathlib.Data.Option.Basic
import TerseSql.Proofs.Lifted
import TerseSql.Proofs.Mirror.Clause

/-!
# Whole statements under two dialects

The plan of a whole statement is made without the dialect, so the plans of two calls that are
the same but for queries are clauses of the same kind, one by one, or cannot be read at the
same place.
-/

namespace TerseSql

open Lexing Text

section

variable {R : Query → Query → Prop}

/-! ## Lifted clauses -/

theorem remove_twins {d d' : Dict Value} (h : d.Twins R d') (name : String) :
    Option.Rel (Value.Twins R) (d.remove name).1 (d'.remove name).1 ∧
      (d.remove name).2.Twins R (d'.remove name).2 := by
  have hentries : ∀ {entries entries' : List (Key × Value)},
      Value.TwinEntries R entries entries' →
      Option.Rel (Value.Twins R) (Dict.removeEntry (.name name) entries).1
          (Dict.removeEntry (.name name) entries').1 ∧
        Value.TwinEntries R (Dict.removeEntry (.name name) entries).2
          (Dict.removeEntry (.name name) entries').2 := by
    intro entries
    induction entries with
    | nil =>
      intro _ h
      cases h
      exact ⟨.none, .nil⟩
    | cons e rest ih =>
      intro _ h
      cases h with
      | @cons key v v' _ _ hv hrest =>
        unfold Dict.removeEntry
        by_cases hkey : Key.name key = Key.name name
        · rw [if_pos hkey, if_pos hkey]
          exact ⟨.some hv, hrest⟩
        · rw [if_neg hkey, if_neg hkey]
          exact ⟨(ih hrest).1, .cons hv (ih hrest).2⟩
  exact hentries h

theorem isTruthy_twins {v v' : Value} (h : v.Twins R v') : v'.isTruthy = v.isTruthy := by
  cases h with
  | list hitems => cases hitems <;> rfl
  | dict hentries => cases hentries <;> rfl
  | _ => rfl

theorem given_twins {x x' : Option Value} (h : Option.Rel (Value.Twins R) x x') :
    Option.Rel (Value.Twins R) (x.filter Value.isTruthy) (x'.filter Value.isTruthy) := by
  cases h with
  | none => exact .none
  | @some v v' hv =>
    simp only [Option.filter_some, isTruthy_twins hv]
    by_cases htruthy : v.isTruthy = true
    · rw [if_pos htruthy, if_pos htruthy]
      exact .some hv
    · rw [if_neg htruthy, if_neg htruthy]
      exact .none

structure Lifted.Twins (R : Query → Query → Prop) (x x' : Lifted) : Prop where
  order : Option.Rel (Value.Twins R) x.order x'.order
  limit : Option.Rel (Value.Twins R) x.limit x'.limit
  group : Option.Rel (Value.Twins R) x.group x'.group
  having : Option.Rel (Value.Twins R) x.having x'.having
  exists_ : Option.Rel (Value.Twins R) x.exists_ x'.exists_
  conditions : x.conditions.Twins R x'.conditions

theorem lifted_twins {d d' : Dict Value} (h : d.Twins R d') :
    (Lifted.ofConditions d).Twins R (Lifted.ofConditions d') := by
  have horder := remove_twins h "ORDER"
  have hlimit := remove_twins horder.2 "LIMIT"
  have hgroup := remove_twins hlimit.2 "GROUP"
  have hhaving := remove_twins hgroup.2 "HAVING"
  have hexists := remove_twins hhaving.2 "EXISTS"
  exact {
    order := given_twins horder.1
    limit := given_twins hlimit.1
    group := given_twins hgroup.1
    having := given_twins hhaving.1
    exists_ := given_twins hexists.1
    conditions := hexists.2 }

/-! ## Clauses from values -/

theorem listOfSingle_same {v v' : Value} (h : v.Twins R v') :
    Alike (Same fun columns => ∀ c ∈ columns, c.IsUnmarked) (Column.listOfSingle v)
      (Column.listOfSingle v') := by
  cases h with
  | @text s hs =>
    refine .ok ⟨rfl, ?_⟩
    intro c hc
    unfold Column.listOfText Text.splitNames at hc
    obtain ⟨part, hpart, rfl⟩ := List.mem_map.mp hc
    obtain ⟨name, hname, rfl⟩ := List.mem_map.mp hpart
    exact (hs.split hname).trim
  | field hf => exact .ok ⟨rfl, List.forall_mem_singleton.mpr hf⟩
  | _ => exact .error

theorem listOfValue_same {v v' : Value} (h : v.Twins R v') :
    Alike (Same fun columns => ∀ c ∈ columns, c.IsUnmarked) (Column.listOfValue v)
      (Column.listOfValue v') := by
  have hsingle := listOfSingle_same h
  cases h with
  | list hitems =>
    apply (Alike.mapM hitems.forall₂ fun _ _ => listOfSingle_same).bind
    intro lists lists' hlists
    obtain ⟨rfl, hall⟩ := same_of_forall₂ hlists
    refine .ok ⟨rfl, ?_⟩
    intro c hc
    obtain ⟨columns, hcolumns, hmem⟩ := List.mem_flatten.mp hc
    exact hall columns hcolumns c hmem
  | _ => exact hsingle

theorem twins_self {d : Dict Value}
    (h : ∀ e ∈ d.entries, (∃ name, e.1 = .name name) ∧ e.2 = .null) : d.Twins R d := by
  obtain ⟨entries⟩ := d
  unfold Dict.Twins
  dsimp only at h ⊢
  induction entries with
  | nil => exact .nil
  | cons e rest ih =>
    obtain ⟨hfirst, hrest⟩ := List.forall_mem_cons.mp h
    obtain ⟨key, v⟩ := e
    obtain ⟨⟨name, rfl⟩, rfl⟩ := hfirst
    exact .cons .null (ih hrest)

theorem sortKeys_twins {columns : List Column} (h : ∀ c ∈ columns, c.IsUnmarked) :
    (Dict.ofList (columns.map fun c => (c.sortKey, Value.null))).Twins R
      (Dict.ofList (columns.map fun c => (c.sortKey, Value.null))) := by
  apply twins_self
  apply Dict.forall_ofList
  intro e he
  obtain ⟨c, hc, rfl⟩ := List.mem_map.mp he
  refine ⟨?_, rfl⟩
  cases c with
  | name s => exact ⟨s, rfl⟩
  | raw r => exact absurd (h _ hc) id
  | field f => exact ⟨f.path, rfl⟩

def Clause.orderOf (v : Value) : Built (List Column) → Built Clause
  | .ok columns => .ok (.orderBy (.ofList (columns.map fun c => (c.sortKey, .null))))
  | .error _ => .error (.order (.notOrder v))

theorem ofOrder_twins {v v' : Value} (h : v.Twins R v') :
    Alike (Clause.Twins R) (Clause.ofOrder v) (Clause.ofOrder v') := by
  have hcolumns : Alike (Clause.Twins R) (Clause.orderOf v (Column.listOfValue v))
      (Clause.orderOf v' (Column.listOfValue v')) := by
    have hsame := listOfValue_same h
    generalize Column.listOfValue v = x, Column.listOfValue v' = x' at hsame
    cases hsame with
    | error => exact .error
    | ok h =>
      obtain ⟨rfl, hall⟩ := h
      exact .ok (.orderBy (sortKeys_twins hall))
  cases h with
  | dict hentries => exact .ok (.orderBy hentries)
  | _ => exact hcolumns

theorem ofGroup_twins {v v' : Value} (h : v.Twins R v') :
    Alike (Clause.Twins R) (Clause.ofGroup v) (Clause.ofGroup v') := by
  apply (listOfValue_same h).bind
  rintro columns _ ⟨rfl, hall⟩
  exact .ok (.groupBy hall)

theorem ofHaving_twins {v v' : Value} (h : v.Twins R v')
    (hshared : ∀ d, v = .dict d → Condition.Tree.IsShared (Condition.Tree.ofDict d)) :
    Alike (Clause.Twins R) (Clause.ofHaving v) (Clause.ofHaving v') := by
  cases h with
  | dict hentries => exact .ok (.having ⟨hentries, hshared _ rfl⟩)
  | _ => exact .error

theorem ofExists_twins {v v' : Value} (h : v.Twins R v') :
    Alike (Clause.Twins R) (Clause.ofExists v) (Clause.ofExists v') := by
  cases h with
  | query hq => exact .ok (.existence hq)
  | _ => exact .error

/-! ## Plans -/

def TwinPlans (R : Query → Query → Prop) : Plan → Plan → Prop :=
  List.Forall₂ (Alike (Clause.Twins R))

theorem optional_twins {α β : Type} {P : α → β → Prop} {f : α → Built Clause}
    {g : β → Built Clause} {x : Option α} {y : Option β} (h : Option.Rel P x y)
    (hfg : ∀ a b, x = some a → P a b → Alike (Clause.Twins R) (f a) (g b)) :
    TwinPlans R (x.map f).toList (y.map g).toList := by
  cases h with
  | none => exact .nil
  | some hab => exact .cons (hfg _ _ rfl hab) .nil

/-- Conditions with the clauses that they may carry: what remains of them, and a predicate of
groups among the clauses, are shared. -/
structure Dict.TwinLifted (R : Query → Query → Prop) (d d' : Dict Value) : Prop where
  entries : d.Twins R d'
  remaining : Condition.Tree.IsShared (Condition.Tree.ofDict (Lifted.ofConditions d).conditions)
  having (groups : Dict Value) : (Lifted.ofConditions d).having = some (.dict groups) →
    Condition.Tree.IsShared (Condition.Tree.ofDict groups)

structure SelectOptions.Twins (R : Query → Query → Prop) (o o' : SelectOptions) : Prop where
  join : Option.Rel (Dict.TwinJoins R) o.join o'.join
  distinct : o'.distinct = o.distinct
  into : Same (fun table => ∀ t, table = some t → Text.IsUnmarked t) o.into o'.into
  wrapping : Same (fun wrapping => ∀ w, wrapping = some w → w.IsUnmarked) o.wrapping o'.wrapping

theorem joins_twins {x x' : Option (Dict Value)} (h : Option.Rel (Dict.TwinJoins R) x x') :
    TwinPlans R (Plan.joins x) (Plan.joins x') := by
  cases h with
  | none => exact .nil
  | @some d d' hd =>
    unfold Plan.joins
    dsimp only
    rw [isEmpty_twins hd.entries]
    by_cases hempty : d.isEmpty = true
    · rw [if_pos hempty, if_pos hempty]
      exact .nil
    · rw [if_neg hempty, if_neg hempty]
      exact .cons (.ok (.join hd)) .nil

theorem select_twins {sources sources' : List Source}
    (hsources : List.Forall₂ (Source.Twins R) sources sources') {columns : List Column}
    (hcolumns : ∀ c ∈ columns, c.IsUnmarked) {d d' : Dict Value} (hd : d.TwinLifted R d')
    {o o' : SelectOptions} (ho : o.Twins R o') :
    TwinPlans R (Plan.select sources columns d o) (Plan.select sources' columns d' o') := by
  have hlifted := lifted_twins hd.entries
  have hinto : TwinPlans R (o.into.map fun table => .ok (.into table)).toList
      (o'.into.map fun table => .ok (.into table)).toList := by
    rw [← ho.into.1]
    cases hi : o.into with
    | none => exact .nil
    | some table => exact .cons (.ok (.into (ho.into.2 table hi))) .nil
  unfold Plan.select
  rw [ho.distinct]
  refine List.rel_append (List.rel_append (List.rel_append (List.rel_append (List.rel_append
    (List.rel_append (List.rel_append (List.rel_append (List.rel_append ?_ hinto) ?_) ?_) ?_) ?_)
    ?_) ?_) ?_) ?_
  · exact .cons (.ok (.select o.distinct hcolumns)) .nil
  · exact .cons (.ok (.fromSources hsources)) .nil
  · exact joins_twins ho.join
  · exact .cons (.ok (.filter ⟨hlifted.conditions, hd.remaining⟩)) .nil
  · exact optional_twins hlifted.order fun _ _ _ => ofOrder_twins
  · exact optional_twins hlifted.limit fun _ _ _ hv => .ok (.limit hv)
  · exact optional_twins hlifted.group fun _ _ _ => ofGroup_twins
  · apply optional_twins hlifted.having
    intro v v' hv htwins
    exact ofHaving_twins htwins fun groups hgroups => hd.having groups (hgroups ▸ hv)
  · exact optional_twins hlifted.exists_ fun _ _ _ => ofExists_twins

/-! ## Calls -/

inductive InsertHead.Twins (R : Query → Query → Prop) : InsertHead → InsertHead → Prop where
  | columns {columns : List Column} : (∀ c ∈ columns, c.IsUnmarked) →
      Twins R (.columns columns) (.columns columns)
  | row {values values' : List Value} : Value.TwinItems R values values' →
      Twins R (.row values) (.row values')
  | record {d d' : Dict Value} : d.Twins R d' → (Value.dict d).HasUnmarkedNames →
      Twins R (.record d) (.record d')

theorem insertHead_twins {table : String} (htable : Text.IsUnmarked table)
    {head head' : InsertHead} (h : head.Twins R head') {rows rows' : List Value}
    (hrows : Value.TwinItems R rows rows') (hnames : ∀ row ∈ rows, row.HasUnmarkedNames) :
    Clause.Twins R (head.clause table rows) (head'.clause table rows') := by
  have hnone : ColumnsUnmarked none := fun _ h => nomatch h
  cases h with
  | columns hcolumns =>
    refine .insert htable ?_ hrows hnames
    intro given heq
    cases heq
    exact hcolumns
  | row hvalues =>
    refine .insert htable hnone (.cons (.list hvalues) hrows) ?_
    exact List.forall_mem_cons.mpr ⟨fun _ heq => (nomatch heq), hnames⟩
  | @record d d' hd hrecord =>
    obtain ⟨entries⟩ := d
    obtain ⟨entries'⟩ := d'
    exact .insert htable hnone (.cons (.dict hd) hrows) (List.forall_mem_cons.mpr ⟨hrecord, hnames⟩)

/-- The calls are the same but for queries in them, which are related. They hold neither raw SQL
nor documents nor full outer joins, and the operators in them are shared. -/
inductive Call.Twins (R : Query → Query → Prop) : Call → Call → Prop where
  | clause {c c' : Clause} : c.Twins R c' → Twins R (.clause c) (.clause c')
  | select {sources sources' : List Source} {columns : List Column}
      {conditions conditions' : Option (Dict Value)} {options options' : SelectOptions} :
      List.Forall₂ (Source.Twins R) sources sources' → (∀ c ∈ columns, c.IsUnmarked) →
      (conditions.getD .empty).TwinLifted R (conditions'.getD .empty) →
      options.Twins R options' →
      Twins R (.select sources columns conditions options)
        (.select sources' columns conditions' options')
  | update {table : String} {sets sets' : Dict Value} {conditions conditions' : Option (Dict Value)} :
      Text.IsUnmarked table → sets.TwinAssignments R sets' →
      Option.Rel (Dict.TwinConditions R) conditions conditions' →
      Twins R (.update table sets conditions) (.update table sets' conditions')
  | delete {table : String} {conditions conditions' : Dict Value} : Text.IsUnmarked table →
      conditions.TwinConditions R conditions' →
      Twins R (.delete table conditions) (.delete table conditions')
  | insert {table : String} {head head' : InsertHead} {rows rows' : List Value} :
      Text.IsUnmarked table → head.Twins R head' → Value.TwinItems R rows rows' →
      (∀ row ∈ rows, row.HasUnmarkedNames) →
      Twins R (.insert table head rows) (.insert table head' rows')
  | union {queries queries' : List Query} : List.Forall₂ R queries queries' →
      Twins R (.union queries) (.union queries')
  | wrap {aliasName : Option String} : (∀ a, aliasName = some a → Text.IsUnmarked a) →
      Twins R (.wrap aliasName) (.wrap aliasName)
  | clear : Twins R .clear .clear

section

variable (hR : ∀ q q', R q q' → q.Mirrors q')
include hR

theorem plan_mirrors {p p' : Plan} (hp : TwinPlans R p p') {s s' : Statement}
    (hs : s.Mirrors s') :
    (Plan.run Builtin.generic.dialect p s).Mirrors (Plan.run Builtin.mysql.dialect p' s') := by
  induction hp generalizing s s' with
  | nil => exact ⟨hs, Iff.rfl⟩
  | cons hstep _ ih =>
    cases hstep with
    | error => exact ⟨hs, iff_of_false (fun h => nomatch h) (fun h => nomatch h)⟩
    | ok hclause =>
      rcases run_mirrors hR hclause hs with ⟨t, t', hrun, hrun', ht⟩ | ⟨e, e', hrun, hrun'⟩
      · rw [Plan.run_cons_ok hrun, Plan.run_cons_ok hrun']
        exact ih ht
      · rw [Plan.run_cons_error hrun, Plan.run_cons_error hrun']
        exact ⟨hs, iff_of_false (fun h => nomatch h) (fun h => nomatch h)⟩

omit hR in
theorem finish_mirrors {wrapping : Option Wrapping} (hw : ∀ w, wrapping = some w → w.IsUnmarked)
    {o o' : Outcome} (h : o.Mirrors o') :
    (Statement.finish wrapping o).Mirrors (Statement.finish wrapping o') := by
  obtain ⟨s, e⟩ := o
  obtain ⟨s', e'⟩ := o'
  obtain ⟨hs, herror⟩ := h
  cases e with
  | some e =>
    cases e' with
    | some e' => exact ⟨hs, herror⟩
    | none => exact absurd (herror.mpr rfl) (fun h => nomatch h)
  | none =>
    obtain rfl : e' = none := herror.mp rfl
    cases wrapping with
    | none => exact ⟨hs, herror⟩
    | some w => exact ⟨⟨hs.terms, hs.primary, rfl, hs.reference, hw w rfl⟩, Iff.rfl⟩

omit hR in
theorem empty_mirrors : Statement.empty.Mirrors .empty where
  terms := .nil
  primary := rfl
  wrapping := rfl
  reference := fun _ h => nomatch h
  aliasName := fun _ h => nomatch h

theorem chain_mirrors {queries queries' : List Query} (h : List.Forall₂ R queries queries')
    {s s' : Statement} (hs : s.Mirrors s') :
    (s.chain queries).Mirrors (s'.chain queries') := by
  have hchained : ∀ {qs qs' : List Query}, List.Forall₂ R qs qs' →
      List.Forall₂ Text.Mirrors (qs.flatMap Statement.chained) (qs'.flatMap Statement.chained) :=
    fun hqs => List.rel_flatMap hqs fun _ _ hq => chained_mirrors (hR _ _ hq)
  have hadds : ∀ {terms terms' : List String}, List.Forall₂ Text.Mirrors terms terms' →
      (s.push terms).Mirrors (s'.push terms') :=
    fun hterms => ⟨List.rel_append hs.terms hterms, hs.primary, hs.wrapping, hs.reference,
      hs.aliasName⟩
  cases h with
  | nil => exact hs
  | @cons q q' rest rest' hq hrest =>
    have hempty : s'.isEmpty = s.isEmpty := by
      have hterms := hs.terms
      unfold Statement.isEmpty
      generalize s.terms = terms, s'.terms = terms' at hterms
      cases hterms <;> rfl
    unfold Statement.chain
    dsimp only
    rw [hempty]
    by_cases hnone : s.isEmpty = true
    · rw [if_pos hnone, if_pos hnone]
      exact hadds (.cons (hR q q' hq).body (hchained hrest))
    · rw [if_neg hnone, if_neg hnone]
      exact hadds (hchained (.cons hq hrest))

/-- A call fails for both dialects or for neither, and what it leaves is built alike. -/
theorem call_mirrors {c c' : Call} (h : c.Twins R c') {s s' : Statement} (hs : s.Mirrors s') :
    (Call.run Builtin.generic.dialect s c).Mirrors (Call.run Builtin.mysql.dialect s' c') := by
  cases h with
  | clause hclause => exact plan_mirrors hR (.cons (.ok hclause) .nil) hs
  | select hsources hcolumns hconditions hoptions =>
    have hrun := plan_mirrors hR (select_twins hsources hcolumns hconditions hoptions) hs
    simp only [Call.run]
    rw [← hoptions.wrapping.1]
    exact finish_mirrors hoptions.wrapping.2 hrun
  | update htable hsets hconditions =>
    have hfilter := optional_twins (R := R) hconditions fun _ _ _ hd => .ok (.filter hd)
    exact plan_mirrors hR (.cons (.ok (.update htable)) (.cons (.ok (.set hsets)) hfilter)) hs
  | delete htable hconditions =>
    exact plan_mirrors hR (.cons (.ok (.delete htable)) (.cons (.ok (.filter hconditions)) .nil)) hs
  | insert htable hhead hrows hnames =>
    exact plan_mirrors hR (.cons (.ok (insertHead_twins htable hhead hrows hnames)) .nil) hs
  | union hqueries => exact ⟨chain_mirrors hR hqueries hs, Iff.rfl⟩
  | @wrap aliasName halias =>
    refine ⟨⟨hs.terms, hs.primary, rfl, hs.reference, ?_⟩, Iff.rfl⟩
    intro a ha
    have hofAlias : Wrapping.ofAlias aliasName = .named a := ha
    unfold Wrapping.ofAlias at hofAlias
    cases aliasName with
    | none => cases hofAlias
    | some given =>
      dsimp only at hofAlias
      by_cases hnone : given = ""
      · rw [if_pos hnone] at hofAlias
        cases hofAlias
      · rw [if_neg hnone] at hofAlias
        cases hofAlias
        exact halias _ rfl
  | clear => exact ⟨empty_mirrors, Iff.rfl⟩

end

end

end TerseSql
