import TerseSql.Proofs.Added
import TerseSql.Proofs.Comment.Line
import TerseSql.Proofs.Mirror.Source
import TerseSql.Proofs.Operator.Update

/-!
# Assignments and rows under two dialects

What rows are set to and which rows are inserted is written for MySQL as a mirror image of
what is written for the generic dialect. A document that is assigned is not: the double
quotes in it stay.
-/

namespace TerseSql

open Lexing Text

/-! ## Assignments -/

def IsSharedAssignment (key : String) : Prop :=
  ∀ t, AssignmentTerm.ofKey key = .ok t → ∀ op, t.operator = some op →
    Text.IsUnmarked op ∧ Registry.normalize op ≠ "json"

theorem assignmentField_unmarked {key : String} {t : AssignmentTerm}
    (h : AssignmentTerm.ofKey key = .ok t) : t.field.IsUnmarked := by
  obtain ⟨k, f, hk, hf, rfl⟩ := AssignmentTerm.ofKey_eq_ok_iff.mp h
  exact field_unmarked (isUnmarked_of_all (by decide) (pathText_of_assignment? hk)) hf

section

variable {R : Query → Query → Prop} (hR : ∀ q q', R q q' → q.Mirrors q')
include hR

theorem assignment_mirrors {op : Option String}
    (hop : ∀ t, op = some t → Text.IsUnmarked t ∧ Registry.normalize t ≠ "json")
    {field field' : String} (hfield : Mirrors field field') {v v' : Value} (hv : v.Twins R v') :
    Alike Mirrors (Builtin.generic.dialect.assignment op field v)
      (Builtin.mysql.dialect.assignment op field' v') := by
  have hliteral := literal_mirrors hR hv
  have hequals : Mirrors (field ++ "=") (field' ++ "=") := hfield.after (by decide)
  rw [Builtin.generic.assignment_eq, Builtin.mysql.assignment_eq]
  by_cases hequal : op.getD "=" = "="
  · rw [if_pos hequal, if_pos hequal]
    exact hliteral.bind fun _ _ hs => .ok (hequals.append hs)
  · cases op with
    | none => exact absurd rfl hequal
    | some token =>
      obtain ⟨htoken, hjson⟩ := hop token rfl
      rw [Option.getD_some] at hequal ⊢
      rw [if_neg hequal, if_neg hequal, if_neg hjson, if_neg hjson]
      exact hliteral.bind fun _ _ hs => .ok (((hequals.append hfield).after htoken).append hs)

theorem assignments_mirrors {sets sets' : Dict Value}
    (h : Value.TwinEntries R sets.entries sets'.entries)
    (hshared : ∀ e ∈ sets.entries, IsSharedAssignment e.1.text) :
    Alike Mirrors (Assignment.render Builtin.generic.dialect sets)
      (Assignment.render Builtin.mysql.dialect sets') := by
  have hentries := (List.forall₂_and_left _ _).mpr ⟨hshared, h.forall₂⟩
  unfold Assignment.render
  refine (Alike.mapM hentries fun e e' he => ?_).bind fun _ _ hss =>
    .ok (Mirrors.join (by decide) hss)
  obtain ⟨key, v⟩ := e
  obtain ⟨key', v'⟩ := e'
  obtain ⟨hkey, name, rfl, rfl, hv⟩ := he
  apply (Alike.self (AssignmentTerm.ofKey name)).bind
  rintro t _ ⟨rfl, ht⟩
  exact assignment_mirrors hR (hkey t ht) (field_mirrors (assignmentField_unmarked ht)) hv

end

/-! ## Rows -/

def ColumnsUnmarked (columns : Option (List Column)) : Prop :=
  ∀ given, columns = some given → ∀ c ∈ given, c.IsUnmarked

section

variable {R : Query → Query → Prop}

theorem sameKeys_twins {a a' b b' : Dict Value} (ha : Value.TwinEntries R a.entries a'.entries)
    (hb : Value.TwinEntries R b.entries b'.entries) :
    Statement.sameKeys a' b' = Statement.sameKeys a b := by
  unfold Statement.sameKeys Dict.keys
  rw [ha.keys, hb.keys]

theorem consistent_twins {first first' : Dict Value}
    (hfirst : Value.TwinEntries R first.entries first'.entries) {rows rows' : List Value}
    (hrows : Value.TwinItems R rows rows') :
    Statement.consistent first' rows' = Statement.consistent first rows := by
  unfold Statement.consistent
  induction rows generalizing rows' with
  | nil =>
    cases hrows
    rfl
  | cons row rest ih =>
    cases hrows with
    | cons hrow hrest =>
      rw [List.all_cons, List.all_cons, ih hrest]
      cases hrow with
      | dict hentries => exact congrArg (· && _) (sameKeys_twins hentries hfirst)
      | _ => rfl

theorem insertColumns_same {columns : Option (List Column)} (hcolumns : ColumnsUnmarked columns)
    {first first' : Value} (hfirst : first.Twins R first') (hnames : first.HasUnmarkedNames)
    {rest rest' : List Value} (hrest : Value.TwinItems R rest rest') :
    Alike (Same ColumnsUnmarked) (Statement.insertColumns columns first rest)
      (Statement.insertColumns columns first' rest') := by
  unfold Statement.insertColumns
  cases hgiven : columns.filter (!·.isEmpty) with
  | some given =>
    refine .ok ⟨rfl, ?_⟩
    intro _ heq
    cases heq
    exact hcolumns given (Option.filter_eq_some_iff.mp hgiven).1
  | none =>
    dsimp only
    cases hfirst with
    | @dict entries entries' hentries =>
      dsimp only
      rw [consistent_twins hentries hrest]
      by_cases hconsistent : Statement.consistent ⟨entries⟩ rest = true
      · rw [if_pos hconsistent, if_pos hconsistent]
        unfold Dict.keys
        rw [hentries.keys]
        refine .ok ⟨rfl, ?_⟩
        intro _ heq c hc
        cases heq
        obtain ⟨key, hkey, rfl⟩ := List.mem_map.mp hc
        obtain ⟨e, he, rfl⟩ := List.mem_map.mp hkey
        obtain ⟨name, hname⟩ := hentries.exists_name e he
        rw [hname]
        exact hnames ⟨entries⟩ rfl e he name hname
      · rw [if_neg hconsistent, if_neg hconsistent]
        exact .error
    | _ => exact .ok ⟨rfl, fun _ heq => nomatch heq⟩

theorem values_twins {entries entries' : List (Key × Value)}
    (h : Value.TwinEntries R entries entries') :
    Value.TwinItems R (Dict.values ⟨entries⟩) (Dict.values ⟨entries'⟩) := by
  induction entries generalizing entries' with
  | nil =>
    cases h
    exact .nil
  | cons e rest ih =>
    cases h with
    | cons hv hrest => exact .cons hv (ih hrest)

theorem found_twins {entries entries' : List (Key × Value)}
    (h : Value.TwinEntries R entries entries') (key : String) :
    Value.Twins R (((entries.find? fun e => e.1.text = key).map (·.2)).getD .null)
      (((entries'.find? fun e => e.1.text = key).map (·.2)).getD .null) := by
  induction entries generalizing entries' with
  | nil =>
    cases h
    exact .null
  | cons e rest ih =>
    cases h with
    | @cons name v v' _ _ hv hrest =>
      by_cases hname : (Key.name name).text = key
      · simp only [List.find?_cons, hname, decide_true]
        exact hv
      · simp only [List.find?_cons, hname, decide_false]
        exact ih hrest

theorem rowValues_twins (columns : Option (List Column)) {row row' : Value}
    (h : row.Twins R row') :
    Alike (Value.TwinItems R) (Statement.rowValues columns row)
      (Statement.rowValues columns row') := by
  cases h with
  | list hitems => exact .ok hitems
  | dict hentries =>
    cases columns with
    | none => exact .ok (values_twins hentries)
    | some columns =>
      refine .ok ?_
      induction columns with
      | nil => exact .nil
      | cons c rest ih => exact .cons (found_twins hentries c.recordKey) ih
  | _ => exact .error

section

variable (hR : ∀ q q', R q q' → q.Mirrors q')
include hR

theorem insertRow_mirrors (columns : Option (List Column)) {row row' : Value}
    (h : row.Twins R row') :
    Alike Mirrors (Statement.insertRow Builtin.generic.dialect columns row)
      (Statement.insertRow Builtin.mysql.dialect columns row') := by
  apply (rowValues_twins columns h).bind
  intro values values' hvalues
  apply (literals_mirrors hR hvalues).bind
  intro ss ss' hss
  exact .ok (((Mirrors.join (by decide) hss).before (by decide)).after (by decide))

omit hR in
theorem chained_mirrors {q q' : Query} (h : q.Mirrors q') :
    List.Forall₂ Mirrors (Statement.chained q) (Statement.chained q') := by
  unfold Statement.chained
  rw [h.wrapping]
  by_cases hset : q.wrapping.isSet = true
  · rw [if_pos hset, if_pos hset]
    exact .cons (mirrors_self (by decide)) (.cons h.body .nil)
  · rw [if_neg hset, if_neg hset]
    exact .cons (mirrors_self (by decide)) (.cons h.sql .nil)

theorem insertQuery_mirrors {row row' : Value} (h : row.Twins R row') :
    Alike (List.Forall₂ Mirrors) (Statement.insertQuery row) (Statement.insertQuery row') := by
  cases h with
  | query hq => exact .ok (chained_mirrors (hR _ _ hq))
  | _ => exact .error

theorem insertBody_mirrors (columns : Option (List Column)) {first first' : Value}
    (hfirst : first.Twins R first') {rest rest' : List Value}
    (hrest : Value.TwinItems R rest rest') :
    Alike (List.Forall₂ Mirrors) (Statement.insertBody Builtin.generic.dialect columns first rest)
      (Statement.insertBody Builtin.mysql.dialect columns first' rest') := by
  have hrows : ∀ {rows rows' : List Value}, Value.TwinItems R rows rows' →
      Alike (List.Forall₂ Mirrors)
        (do return ["VALUES", Text.join ","
          (← rows.mapM (Statement.insertRow Builtin.generic.dialect columns))])
        (do return ["VALUES", Text.join ","
          (← rows'.mapM (Statement.insertRow Builtin.mysql.dialect columns))]) := by
    intro rows rows' h
    apply (Alike.mapM h.forall₂ fun _ _ => insertRow_mirrors hR columns).bind
    intro ss ss' hss
    exact .ok (.cons (mirrors_self (by decide)) (.cons (Mirrors.join (by decide) hss) .nil))
  have hall := hrows (.cons hfirst hrest)
  cases hfirst with
  | query hq =>
    apply (Alike.mapM hrest.forall₂ fun _ _ => insertQuery_mirrors hR).bind
    intro sss sss' hsss
    exact .ok (.cons (hR _ _ hq).sql (List.rel_flatten hsss))
  | _ => exact hall

omit hR in
theorem insertColumn_mirrors {c : Column} (h : c.IsUnmarked) :
    Alike Mirrors (Statement.insertColumn Builtin.generic.dialect c)
      (Statement.insertColumn Builtin.mysql.dialect c) := by
  cases c with
  | name text =>
    apply (Alike.self (Table.ofText text)).bind
    rintro t _ ⟨rfl, ht⟩
    exact .ok (table_mirrors (table_unmarked h ht))
  | raw sql => exact absurd h id
  | field f => exact .ok (quote_mirrors (h f.name (by simp [Field.parts])))

omit hR in
theorem columnList_mirrors {columns : Option (List Column)} (h : ColumnsUnmarked columns) :
    Alike (List.Forall₂ Mirrors) (Statement.columnList Builtin.generic.dialect columns)
      (Statement.columnList Builtin.mysql.dialect columns) := by
  cases columns with
  | none => exact .ok .nil
  | some given =>
    apply (columns_mirrors (h given rfl) fun _ => insertColumn_mirrors).bind
    intro ss ss' hss
    have hnames : Mirrors (Text.join "," ss) (Text.join "," ss') := Mirrors.join (by decide) hss
    exact .ok (.cons ((hnames.before (by decide)).after (by decide)) .nil)

theorem insertTerms_mirrors {table : String} (htable : Text.IsUnmarked table)
    {columns : Option (List Column)} (hcolumns : ColumnsUnmarked columns)
    {rows rows' : List Value} (hrows : Value.TwinItems R rows rows')
    (hnames : ∀ row ∈ rows, row.HasUnmarkedNames) :
    Alike (List.Forall₂ Mirrors) (Statement.insertTerms Builtin.generic.dialect table columns rows)
      (Statement.insertTerms Builtin.mysql.dialect table columns rows') := by
  cases hrows with
  | nil => exact .error
  | cons hfirst hrest =>
    have hfirstNames := hnames _ List.mem_cons_self
    unfold Statement.insertTerms
    dsimp only
    apply (Alike.self (Table.ofText table)).bind
    rintro t _ ⟨rfl, ht⟩
    apply (insertColumns_same hcolumns hfirst hfirstNames hrest).bind
    rintro found _ ⟨rfl, hfound⟩
    apply (columnList_mirrors hfound).bind
    intro list list' hlist
    apply (insertBody_mirrors hR found hfirst hrest).bind
    intro body body' hbody
    have hinto : Mirrors "INSERT INTO" "INSERT INTO" := mirrors_self (by decide)
    exact .ok (.cons hinto (.cons (table_mirrors (table_unmarked htable ht))
      (List.rel_append hlist hbody)))

end

end

end TerseSql
