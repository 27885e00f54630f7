import TerseSql.Proofs.Lifted
import TerseSql.Proofs.Run
import TerseSql.Proofs.Extension
import TerseSql.Proofs.Sorted.Key
import TerseSql.Proofs.Window.Sections

/-!
# Sorting by fields

Fields that are sorted by go by their paths, which are the keys of a dictionary. The order that is
written is that of the fields exactly if the grammar can spell each of them and no two of them have
one path. Then a selection with the order succeeds whenever it does without.
-/

namespace TerseSql

open Text

def FieldExpr.ascending (l : Lexicon) (e : FieldExpr) : String :=
  e.render l ++ " ASC"

def Field.ascending (l : Lexicon) (f : Field) : String :=
  f.render l ++ " ASC"

/-! ## Lists of sort keys -/

section

variable (b : Builtin)

theorem endsName_ascending (rest : String) : b.delimiters.EndsName (" ASC" ++ rest).toList := by
  have hhead : (" ASC" ++ rest).toList.head? = some ' ' := by simp
  unfold Delimiters.EndsName
  rw [hhead]
  cases b <;> decide

/-- A list of sort keys is written as a list of fields only if it has a key for each of them, which
the grammar can spell. -/
theorem spellable_of_glued {es : List FieldExpr} {fs : List Field} (hes : ∀ e ∈ es, e.IsSortable)
    (h : glued "," (es.map (·.ascending b.dialect.toLexicon)) =
      glued "," (fs.map (·.ascending b.dialect.toLexicon))) :
    es.length = fs.length ∧ ∀ f ∈ fs, f.IsSpellable := by
  induction es generalizing fs with
  | nil =>
    cases fs with
    | nil => exact ⟨rfl, List.forall_mem_nil _⟩
    | cons f fs =>
      have hchars := congrArg String.toList h
      simp [glued] at hchars
  | cons e es ih =>
    cases fs with
    | nil =>
      have hchars := congrArg String.toList h
      simp [glued] at hchars
    | cons f fs =>
      obtain ⟨he, hes⟩ := List.forall_mem_cons.mp hes
      -- A name ends where ASC begins, so the first of both lists end together and the rest agree.
      let left := " ASC" ++ glued "," (es.map (·.ascending b.dialect.toLexicon))
      let right := " ASC" ++ glued "," (fs.map (·.ascending b.dialect.toLexicon))
      have hchars : (e.render b.dialect.toLexicon).toList ++ left.toList =
          (f.render b.dialect.toLexicon).toList ++ right.toList := by
        have hchars := congrArg String.toList h
        simpa [glued, FieldExpr.ascending, Field.ascending, left, right] using hchars
      obtain ⟨-, hparts, hrest⟩ :=
        he.render_unique b (endsName_ascending b _) (endsName_ascending b _) hchars
      have hrest : glued "," (es.map (·.ascending b.dialect.toLexicon)) =
          glued "," (fs.map (·.ascending b.dialect.toLexicon)) := by
        apply String.toList_injective
        simpa [left, right] using hrest
      obtain ⟨hlength, hspellable⟩ := ih hes hrest
      have hf : f.IsSpellable := by
        rw [Field.IsSpellable, ← hparts]
        exact he.spellable
      rw [List.length_cons, List.length_cons, hlength]
      exact ⟨rfl, List.forall_mem_cons.mpr ⟨hf, hspellable⟩⟩

theorem spellable_of_join {es : List FieldExpr} {fs : List Field} (hfs : fs ≠ [])
    (hes : ∀ e ∈ es, e.IsSortable)
    (h : join "," (es.map (·.ascending b.dialect.toLexicon)) =
      join "," (fs.map (·.ascending b.dialect.toLexicon))) :
    es.length = fs.length ∧ ∀ f ∈ fs, f.IsSpellable := by
  apply spellable_of_glued b hes
  obtain ⟨f, fs, rfl⟩ := List.exists_cons_of_ne_nil hfs
  cases es with
  | nil =>
    have hchars := congrArg String.toList h
    simp [Text.join_cons, join, Field.ascending] at hchars
  | cons e es =>
    rw [List.map_cons, List.map_cons, Text.join_cons, Text.join_cons] at h
    simp only [List.map_cons, glued, String.append_assoc, h]

end

namespace Order

variable {l : Lexicon}

def ofFields (fs : List Field) : Dict Value :=
  .ofList (fs.map fun f => (.name f.path, .null))

structure AreKeys (fs : List Field) : Prop where
  spellable : ∀ f ∈ fs, f.IsSpellable
  distinct : (fs.map Field.path).Nodup

theorem exists_exprs {entries : List (Key × Value)} {texts : List String}
    (hentries : ∀ e ∈ entries, ∃ path, e = (.name path, .null))
    (h : entries.mapM (entry l) = .ok texts) :
    ∃ es : List FieldExpr, (∀ e ∈ es, e.IsSortable) ∧ es.length = entries.length ∧
      texts = es.map (·.ascending l) := by
  induction entries generalizing texts with
  | nil =>
    cases h
    exact ⟨[], List.forall_mem_nil _, rfl, rfl⟩
  | cons entry entries ih =>
    obtain ⟨⟨path, rfl⟩, hothers⟩ := List.forall_mem_cons.mp hentries
    rw [List.mapM_cons, Built.cons_eq_ok_iff] at h
    obtain ⟨text, rest, htext, hrest, rfl⟩ := h
    obtain ⟨t, ht, hwritten⟩ := Built.exists_of_bind htext
    cases hwritten
    obtain ⟨hasc, hsortable⟩ := OrderTerm.ofEntry_inv ht
    obtain ⟨es, hes, hlength, rfl⟩ := ih hothers hrest
    refine ⟨t.field :: es, List.forall_mem_cons.mpr ⟨hsortable, hes⟩, ?_, ?_⟩
    · rw [List.length_cons, List.length_cons, hlength]
    · rw [List.map_cons, OrderTerm.render, hasc, String.append_assoc]
      rfl

theorem entry_path {f : Field} (h : f.IsSpellable) :
    entry l (.name f.path, .null) = .ok (f.ascending l) := by
  obtain ⟨g, hg, hparts⟩ := OrderTerm.ofEntry_path h
  show (OrderTerm.ofEntry f.path .null >>= _) = _
  rw [hg]
  show Except.ok (g.render l ++ " " ++ "ASC") = _
  rw [Field.render_congr hparts, String.append_assoc]
  rfl

/-- Fields that are sorted by are written in their order, each as it is, exactly if each of them is
a key of its own. -/
theorem render_fields_iff (b : Builtin) {fs : List Field} (hfs : fs ≠ []) :
    render b.dialect.toLexicon (ofFields fs) =
        .ok (join "," (fs.map (·.ascending b.dialect.toLexicon))) ↔ AreKeys fs := by
  have hkeys : (fs.map fun f => ((.name f.path, .null) : Key × Value)).map Prod.fst =
      (fs.map Field.path).map Key.name := by
    rw [List.map_map, List.map_map]
    rfl
  constructor
  · intro h
    obtain ⟨texts, htexts, hjoin⟩ := Built.exists_of_bind h
    have hentries : ∀ e ∈ (ofFields fs).entries, ∃ path, e = (.name path, .null) := by
      refine Dict.forall_ofList fun e he => ?_
      obtain ⟨f, -, rfl⟩ := List.mem_map.mp he
      exact ⟨f.path, rfl⟩
    obtain ⟨es, hes, hlength, rfl⟩ := exists_exprs hentries htexts
    obtain ⟨hsame, hspellable⟩ := spellable_of_join b hfs hes (Except.ok.inj hjoin)
    -- As many keys are left as there are fields, so that no two of them were the same.
    have hcount : (ofFields fs).entries.length =
        (fs.map fun f => ((.name f.path, .null) : Key × Value)).length := by
      rw [← hlength, hsame, List.length_map]
    have hnodup := Dict.nodup_of_length_ofList hcount
    rw [hkeys] at hnodup
    exact ⟨hspellable, hnodup.of_map _⟩
  · rintro ⟨hspellable, hnodup⟩
    have hentries : (ofFields fs).entries = fs.map fun f => (.name f.path, .null) := by
      refine Dict.entries_ofList ?_
      rw [hkeys]
      exact hnodup.map fun _ _ heq => Key.name.inj heq
    have hall : fs.mapM (entry b.dialect.toLexicon ∘ fun f => (.name f.path, .null)) =
        .ok (fs.map (·.ascending b.dialect.toLexicon)) :=
      Built.mapM_of_forall fun f hf => entry_path (hspellable f hf)
    unfold render
    rw [hentries, List.mapM_map, hall]
    rfl

/-- A field in a schema and one in a table may have one path. -/
example : render Builtin.generic.dialect.toLexicon
    (ofFields [⟨some "s", none, "a"⟩, ⟨none, some "s", "a"⟩]) =
      .ok "\x22s\x22.\x22a\x22 ASC" := by
  rfl

end Order

/-! ## Clauses of fields -/

inductive Value.HoldsFields : List Field → Value → Prop where
  | alone (f : Field) : HoldsFields [f] (.field f)
  | listed {fs : List Field} : fs ≠ [] → HoldsFields fs (.list (fs.map .field))

namespace Value.HoldsFields

variable {fs : List Field} {v : Value} (h : v.HoldsFields fs)
include h

theorem ne_nil : fs ≠ [] := by
  cases h with
  | alone f => exact List.cons_ne_nil _ _
  | listed hne => exact hne

theorem isTruthy : v.isTruthy = true := by
  cases h with
  | alone f => rfl
  | listed hne =>
    obtain ⟨f, fs, rfl⟩ := List.exists_cons_of_ne_nil hne
    rfl

theorem columns_eq : Column.listOfValue v = .ok (fs.map .field) := by
  cases h with
  | alone f => rfl
  | listed _ =>
    have hall : (fs.map Value.field).mapM Column.listOfSingle =
        .ok (fs.map fun f => [Column.field f]) := by
      rw [List.mapM_map]
      exact Built.mapM_of_forall fun _ _ => rfl
    have hflat : (fs.map fun f => [Column.field f]).flatten = fs.map .field := by
      rw [← List.flatMap_def, List.map_eq_flatMap]
    show (fs.map Value.field).mapM Column.listOfSingle >>= _ = _
    rw [hall]
    exact congrArg Except.ok hflat

theorem ofOrder_eq : Clause.ofOrder v = .ok (.orderBy (Order.ofFields fs)) := by
  have hkeys : (fs.map Column.field).map (fun c => ((c.sortKey, .null) : Key × Value)) =
      fs.map fun f => (.name f.path, .null) := by
    rw [List.map_map]
    rfl
  have hcolumns := h.columns_eq
  rw [Order.ofFields, ← hkeys]
  cases h with
  | alone f => rfl
  | listed _ => simp only [Clause.ofOrder, hcolumns]

theorem ofGroup_eq : Clause.ofGroup v = .ok (.groupBy (fs.map .field)) := by
  unfold Clause.ofGroup
  rw [h.columns_eq]
  rfl

end Value.HoldsFields

namespace Clause

variable (d : Dialect)

theorem run_orderBy_iff {orders : Dict Value} {s : Statement} {text : String} :
    ((orderBy orders).add d).run s = .ok () (s.push ["ORDER BY", text]) ↔
      Order.render d.toLexicon orders = .ok text := by
  have hrun : ((orderBy orders).add d).run s = match Order.render d.toLexicon orders with
      | .ok found => .ok () (s.push ["ORDER BY", found])
      | .error e => .error e s := by
    show (Statement.orderBy d orders).run s = _
    unfold Statement.orderBy
    cases Order.render d.toLexicon orders <;> rfl
  rw [hrun]
  cases Order.render d.toLexicon orders with
  | error e => exact iff_of_false (fun h => nomatch h) fun h => nomatch h
  | ok found =>
    constructor
    · intro h
      simp [Statement.push] at h
      rw [h]
    · intro h
      rw [Except.ok.inj h]

theorem run_groupBy_fields (fs : List Field) (s : Statement) :
    ((groupBy (fs.map .field)).add d).run s =
      .ok () (s.push ["GROUP BY", Text.join "," (fs.map (·.render d.toLexicon))]) := by
  have hall : fs.mapM (Statement.grouped d ∘ .field) = .ok (fs.map (·.render d.toLexicon)) :=
    Built.mapM_of_forall fun _ _ => rfl
  have hlist : Statement.groupList d (fs.map .field) =
      .ok (Text.join "," (fs.map (·.render d.toLexicon))) := by
    unfold Statement.groupList
    rw [List.mapM_map, hall]
    rfl
  show (Statement.groupBy d _).run s = _
  unfold Statement.groupBy
  rw [hlist]
  rfl

end Clause

/-! ## Selections with an order -/

theorem Lifted.ofConditions_without_order {conditions : Dict Value} (h : conditions.Distinct) :
    ofConditions (conditions.without ["ORDER"]) =
      { ofConditions conditions with order := none } := by
  have horder := Dict.remove_without h [] "ORDER" (by decide)
  rw [Dict.without_nil] at horder
  have hnone : (conditions.without ["ORDER"]).remove "ORDER" =
      (none, conditions.without ["ORDER"]) := by
    have hmem : Key.name "ORDER" ∉ (conditions.without ["ORDER"]).entries.map Prod.fst := by
      simp [Dict.without]
    unfold Dict.remove
    rw [Dict.removeEntry_of_not_mem hmem]
  unfold ofConditions
  simp only [List.nil_append] at horder
  simp only [horder, hnone]
  rfl

namespace Plan

/-- An order is one more clause of the plan. -/
theorem exists_select_order (sources : List Source) (columns : List Column)
    (options : SelectOptions) {conditions : Dict Value} (h : conditions.Distinct) {v : Value}
    (hv : conditions.get? "ORDER" = some v) (htruthy : v.isTruthy = true) :
    ∃ opening later,
      select sources columns conditions options = opening ++ Clause.ofOrder v :: later ∧
      select sources columns (conditions.without ["ORDER"]) options = opening ++ later := by
  have horder : (Lifted.ofConditions conditions).order = some v := by
    rw [Lifted.ofConditions_eq h, hv]
    exact Option.filter_some_pos htruthy
  let lifted := Lifted.ofConditions conditions
  let into : Plan := (options.into.map fun table => .ok (.into table)).toList
  let filter : Plan := [.ok (.filter lifted.conditions)]
  let relation : Plan := .ok (.fromSources sources) :: (joins options.join ++ filter)
  let limit : Plan := (lifted.limit.map fun v => .ok (.limit v)).toList
  let others : Plan := (lifted.group.map Clause.ofGroup).toList ++
    (lifted.having.map Clause.ofHaving).toList ++ (lifted.exists_.map Clause.ofExists).toList
  refine ⟨.ok (.select columns options.distinct) :: (into ++ relation), limit ++ others, ?_, ?_⟩
  · simp [select, into, filter, relation, limit, others, lifted, horder]
  · simp [select, into, filter, relation, limit, others, lifted,
      Lifted.ofConditions_without_order h]

/-- Whether a plan fails depends on the statement through its primary table alone. -/
theorem error_congr {d : Dialect} (p : Plan) {s t : Statement} (h : s.primary = t.primary) :
    (run d p s).error = (run d p t).error := by
  refine (run_related (R := (·.primary = ·.primary)) (fun c s t h => ?_) p h).1
  cases c.effect d s.primary with
  | places w hplaces => exact .inl ⟨_, _, hplaces s, hplaces t, h⟩
  | adds _ hadds => exact .inl ⟨_, _, hadds s rfl, hadds t h.symm, rfl⟩
  | fails hfails => exact .inr ⟨_, hfails s rfl, hfails t h.symm⟩

end Plan

namespace Call

/-- A selection that is given fields to sort by has them in its ORDER BY, each as it is written and
in ascending order, exactly if each of them is a sort key of its own. Then it succeeds whenever it
does without them. A grouping by the fields has them as they are written, whatever they are. -/
theorem order_by_fields (b : Builtin) {fs : List Field} {v : Value} (hv : v.HoldsFields fs) :
    let body := Text.join "," (fs.map (·.ascending b.dialect.toLexicon))
    (∀ s sources columns conditions options, conditions.Distinct →
      conditions.get? "ORDER" = some v →
      let call := fun conditions =>
        run b.dialect s (.select sources columns (some conditions) options)
      (call (conditions.without ["ORDER"])).error = none →
      ∃ opening orders later m,
        Plan.select sources columns conditions options =
          opening ++ .ok (.orderBy orders) :: later ∧
        Plan.select sources columns (conditions.without ["ORDER"]) options = opening ++ later ∧
        Plan.run b.dialect opening s = ⟨m, none⟩ ∧
        (((Clause.orderBy orders).add b.dialect).run m = .ok () (m.push ["ORDER BY", body]) ↔
          Order.AreKeys fs) ∧
        (Order.AreKeys fs → (call conditions).error = none)) ∧
    ∃ columns, Clause.ofGroup v = .ok (.groupBy columns) ∧ ∀ s,
      ((Clause.groupBy columns).add b.dialect).run s =
        .ok () (s.push ["GROUP BY", Text.join "," (fs.map (·.render b.dialect.toLexicon))]) := by
  intro body
  refine ⟨?_, fs.map .field, hv.ofGroup_eq, Clause.run_groupBy_fields _ fs⟩
  intro s sources columns conditions options hdistinct horder call hcall
  obtain ⟨opening, later, hwith, hwithout⟩ :=
    Plan.exists_select_order sources columns options hdistinct horder hv.isTruthy
  rw [hv.ofOrder_eq] at hwith
  have hok : (Plan.run b.dialect (opening ++ later) s).error = none := by
    rw [← hwithout, ← Statement.finish_error options.wrapping]
    exact hcall
  have hrun : Plan.run b.dialect (opening ++ later) s =
      ⟨(Plan.run b.dialect (opening ++ later) s).statement, none⟩ := by
    rw [← hok]
  obtain ⟨m, hopening, hlater⟩ := Plan.exists_of_run_append hrun
  have horders : ((Clause.orderBy (Order.ofFields fs)).add b.dialect).run m =
      .ok () (m.push ["ORDER BY", body]) ↔ Order.AreKeys fs :=
    (Clause.run_orderBy_iff b.dialect).trans (Order.render_fields_iff b hv.ne_nil)
  refine ⟨opening, _, later, m, hwith, hwithout, hopening, horders, fun hkeys => ?_⟩
  have hcalled : call conditions = Statement.finish options.wrapping
      (Plan.run b.dialect (Plan.select sources columns conditions options) s) := rfl
  -- The clauses behind the order do as they would without it: it leaves the primary table.
  have hsame : (Plan.run b.dialect later (m.push ["ORDER BY", body])).error =
      (Plan.run b.dialect later m).error := Plan.error_congr later rfl
  rw [hcalled, Statement.finish_error, hwith, Plan.run_append_of_run hopening,
    Plan.run_cons_ok (horders.mpr hkeys), hsame, hlater]

/-- Two fields, one of them a star, beside a condition and a window. -/
theorem order_by_fields_starred :
    let fs : List Field := [⟨some "s", some "t", "a"⟩, ⟨none, some "t", "*"⟩]
    let v := Value.list (fs.map .field)
    let conditions : Dict Value :=
      .ofList [(.name "b", .int 1), (.name "ORDER", v), (.name "LIMIT", .int 5)]
    let call := fun conditions =>
      run Builtin.mssql.dialect .empty (.select [.table "s.t"] [] (some conditions) .none)
    v.HoldsFields fs ∧ conditions.Distinct ∧ conditions.get? "ORDER" = some v ∧
    (call (conditions.without ["ORDER"])).error = none ∧ Order.AreKeys fs ∧
    (call conditions).error = none ∧
    (call conditions).statement.sql Builtin.mssql.dialect.toLexicon =
      "SELECT TOP 5 * FROM [s].[t] WHERE [b] = 1 ORDER BY [s].[t].[a] ASC,[t].* ASC" := by
  intro fs v conditions call
  have hv : v.HoldsFields fs := .listed (List.cons_ne_nil _ _)
  have hdistinct : conditions.Distinct := Dict.distinct_iff.mpr ⟨_, rfl⟩
  have horder : conditions.get? "ORDER" = some v := rfl
  have hwithout : (call (conditions.without ["ORDER"])).error = none := by decide +kernel
  have hkeys : Order.AreKeys fs := by
    refine ⟨?_, by decide +kernel⟩
    simp only [List.forall_mem_cons, fs]
    refine ⟨?_, ?_, List.forall_mem_nil _⟩
    · exact .qualified (by decide) (.qualified (by decide) (.name (by decide)))
    · exact .qualified (by decide) .star
  obtain ⟨hselect, -⟩ := order_by_fields .mssql hv
  obtain ⟨_, _, _, _, -, -, -, -, hordered⟩ :=
    hselect .empty [.table "s.t"] [] conditions .none hdistinct horder hwithout
  refine ⟨hv, hdistinct, horder, hwithout, hkeys, hordered hkeys, ?_⟩
  decide +kernel

/-- A name with a space is no sort key: a selection that succeeds without the order fails at it and
is left without it, where a grouping by the field has its name. -/
theorem order_by_fields_spaced :
    let f : Field := ⟨none, none, "first name"⟩
    let conditions := fun clause => Dict.ofList [(Key.name clause, Value.field f)]
    let call := fun conditions =>
      run Builtin.generic.dialect .empty (.select [.table "t"] [.name "a"] (some conditions) .none)
    (Value.field f).HoldsFields [f] ∧ (conditions "ORDER").Distinct ∧
    (conditions "ORDER").get? "ORDER" = some (.field f) ∧
    (call ((conditions "ORDER").without ["ORDER"])).error = none ∧ ¬ Order.AreKeys [f] ∧
    (call (conditions "ORDER")).error = some (.field (.unrecognizedOrder "first name")) ∧
    (call (conditions "ORDER")).statement.sql Builtin.generic.dialect.toLexicon =
      "SELECT \x22a\x22 FROM \x22t\x22" ∧
    (call (conditions "GROUP")).error = none ∧
    (call (conditions "GROUP")).statement.sql Builtin.generic.dialect.toLexicon =
      "SELECT \x22a\x22 FROM \x22t\x22 GROUP BY \x22first name\x22" := by
  have hkeys : ¬ Order.AreKeys [⟨none, none, "first name"⟩] := by
    intro h
    have hordered := (Order.render_fields_iff .generic (List.cons_ne_nil _ _)).mpr h
    have hrefused : Order.render Builtin.generic.dialect.toLexicon
        (Order.ofFields [⟨none, none, "first name"⟩]) =
      .error (.field (.unrecognizedOrder "first name")) := rfl
    rw [hrefused] at hordered
    cases hordered
  refine ⟨.alone _, Dict.distinct_iff.mpr ⟨_, rfl⟩, rfl, ?_, hkeys, rfl, ?_, ?_, ?_⟩
  all_goals decide +kernel

end Call

end TerseSql
