import TerseSql.Proofs.Blank.Assignment
import TerseSql.Proofs.Blank.Insertion
import TerseSql.Proofs.Extension
import TerseSql.Proofs.Filled.Condition
import TerseSql.Proofs.Operator.Update
import TerseSql.Proofs.Run
import TerseSql.Proofs.Shorthand.Term

/-!
# Clauses with their lists marked

FROM without sources, lists of values without members and predicates without conditions are
refused or add nothing. The other lists that clauses are given are written as they are, and
an empty one leaves its clause without a body. So a clause that is added has a member in each
of its lists exactly if its arguments do.
-/

namespace TerseSql

open Lexing Statement

namespace Value

def NamesFields : Value → Prop
  | list names => names ≠ []
  | dict pairs => pairs.entries ≠ []
  | _ => True

def Writes (v : Value) : Prop :=
  ∀ q, v = query q → q.body ≠ ""

def FillsRow (columns : Option (List Column)) : Value → Prop
  | query q => q.body ≠ ""
  | row => ∀ values, rowValues columns row = .ok values →
      values ≠ [] ∧ ∀ v ∈ values, v.Writes

def RowRawFree : Value → Prop
  | list items => ∀ v ∈ items, v.RawFree
  | dict record => ∀ e ∈ record.entries, (∀ r, e.1 ≠ .raw r) ∧ e.2.RawFree
  | _ => True

end Value

namespace Clause

def HasBody : Clause → Prop
  | select _ _ | fromSources _ | join _ | filter _ | having _ | orderBy _ | groupBy _ | set _
  | insert _ _ _ => True
  | _ => False

def RawFree : Clause → Prop
  | select columns _ | groupBy columns => ∀ c ∈ columns, ∀ r, c ≠ .raw r
  | fromSources sources => ∀ source ∈ sources, ∀ r, source ≠ .raw r
  | filter conditions | having conditions =>
    Condition.Tree.EveryOf (fun _ v => v.RawFree) (Condition.Tree.ofDict conditions)
  | set sets => ∀ e ∈ sets.entries, e.2.RawFree
  | insert _ rows columns =>
    (∀ cs, columns = some cs → ∀ c ∈ cs, ∀ r, c ≠ .raw r) ∧ ∀ row ∈ rows, row.RowRawFree
  | _ => True

/-- Every list among the arguments that is written has a member, and every query in it writes
something. -/
def Populated : Clause → Prop
  | fromSources sources => ∀ source ∈ sources, ∀ q, source = .query q → q.body ≠ ""
  | join joins => joins.entries ≠ [] ∧ ∀ e ∈ joins.entries, e.2.NamesFields
  | filter conditions | having conditions =>
    Condition.Tree.PopulatedAll (Condition.Tree.ofDict conditions)
  | orderBy orders => orders.entries ≠ []
  | groupBy columns => columns ≠ []
  | set sets => sets.entries ≠ [] ∧ ∀ e ∈ sets.entries, e.2.Writes
  | insert _ (first :: rest) columns => ∀ found, insertColumns columns first rest = .ok found →
      found ≠ some [] ∧ ∀ row ∈ first :: rest, row.FillsRow found
  | _ => True

end Clause

/-! ## Parts of clauses -/

def Source.part (d : Dialect) : Source → Built Part
  | table text => Part.ofText (do return (← AliasedTable.ofText text).render d.toLexicon)
  | query q => .ok q.part
  | raw r => .ok (.text r.sql)

def JoinTerm.part (l : Lexicon) (t : JoinTerm) : Built Part :=
  match l.join t.marker with
  | some keyword =>
    .ok (.list (keyword ++ " " ++ t.table.render l ++ " ON ") " AND " ""
      (t.on.map fun pair => .text (equality l pair)))
  | none => .error (.join (.unknownMarker t.marker l.name))

def Join.part (l : Lexicon) (primary : Option Primary) : Key × Value → Built Part
  | (.raw r, _) => .error (.join (.rawTable r))
  | (.name key, v) => do (← JoinTerm.ofEntry key v primary).part l

def Join.listPart (l : Lexicon) (primary : Option Primary) (joins : Dict Value) : Built Part := do
  return .list "" " " "" (← joins.entries.mapM (Join.part l primary))

def Order.listPart (l : Lexicon) (orders : Dict Value) : Built Part := do
  return .list "" "," "" (← orders.entries.mapM fun e => Part.ofText (entry l e))

def Dialect.assignmentPart (d : Dialect) (token : Option String) (field : String) (v : Value) :
    Built Part :=
  match token with
  | none => do return .around (field ++ "=") (← d.part v) ""
  | some token =>
    if token = "=" then do return .around (field ++ "=") (← d.part v) ""
    else
      match d.updateOperators.find? token with
      | some handler => Part.ofText (handler d.toRenderer field v)
      | none => do return .around (field ++ "=" ++ field ++ token) (← d.part v) ""

def Assignment.part (d : Dialect) : Key × Value → Built Part
  | (.raw r, v) => do return .around (r.sql ++ "=") (← d.part v) ""
  | (.name key, v) => do
    let t ← AssignmentTerm.ofKey key
    d.assignmentPart t.operator (t.field.render d.toLexicon) v

def Assignment.listPart (d : Dialect) (sets : Dict Value) : Built Part := do
  return .list "" "," "" (← sets.entries.mapM (Assignment.part d))

namespace Statement

def selectPart (d : Dialect) (columns : List Column) : Built Part := do
  let members ←
    if columns.isEmpty then pure [.text "*"]
    else columns.mapM fun c => Part.ofText (selected d c)
  return .list "" "," "" members

def sourcesPart (d : Dialect) (sources : List Source) : Built Part := do
  match ← sources.mapM (Source.part d) with
  | [] => .error (.table .noSource)
  | members => return .list "" "," "" members

def groupPart (d : Dialect) (columns : List Column) : Built Part := do
  return .list "" "," "" (← columns.mapM fun c => Part.ofText (grouped d c))

def rowPart (d : Dialect) (columns : Option (List Column)) (row : Value) : Built Part := do
  return .list "(" "," ")" (← (← rowValues columns row).mapM d.part)

def chainedParts (q : Query) : List Part :=
  if q.wrapping.isSet then [.text "UNION ALL", .text q.body] else [.text "UNION", q.part]

def insertQueryParts : Value → Built (List Part)
  | .query q => .ok (chainedParts q)
  | _ => .error (.insert .notAllQueries)

def columnListParts (d : Dialect) : Option (List Column) → Built (List Part)
  | some columns => do
    return [.list "(" "," ")" (← columns.mapM fun c => Part.ofText (insertColumn d c))]
  | none => .ok []

def insertBodyParts (d : Dialect) (columns : Option (List Column)) (first : Value)
    (rest : List Value) : Built (List Part) :=
  match first with
  | .query q => do return q.part :: (← rest.mapM insertQueryParts).flatten
  | _ => do
    return [.text "VALUES", .list "" "," "" (← (first :: rest).mapM (rowPart d columns))]

def insertParts (d : Dialect) (table : String) (columns : Option (List Column)) :
    List Value → Built (List Part)
  | [] => .error (.insert (.noRows table))
  | first :: rest => do
    let table ← Table.ofText table
    let columns ← insertColumns columns first rest
    let list ← columnListParts d columns
    let body ← insertBodyParts d columns first rest
    return .text "INSERT INTO" :: .text (table.render d.toLexicon) :: list ++ body

def predicateParts (b : Builtin) (keyword : String) (conditions : Dict Value) :
    Built (List Part) :=
  if conditions.isEmpty then .ok []
  else do
    let parts ← Condition.Tree.partsOf b (Condition.Tree.ofDict conditions)
    return [.text keyword, Condition.conjoinPart parts]

end Statement

/-- The parts that a clause adds, where the primary table before it is known. -/
def Clause.parts (b : Builtin) (primary : Option Primary) : Clause → Built (List Part)
  | select columns distinct => do
    return [.text (if distinct then "SELECT DISTINCT" else "SELECT"),
      ← selectPart b.dialect columns]
  | fromSources sources => do return [.text "FROM", ← sourcesPart b.dialect sources]
  | join joins => do return [← Join.listPart b.dialect.toLexicon primary joins]
  | filter conditions => predicateParts b "WHERE" conditions
  | having conditions => predicateParts b "HAVING" conditions
  | orderBy orders => do return [.text "ORDER BY", ← Order.listPart b.dialect.toLexicon orders]
  | groupBy columns => do return [.text "GROUP BY", ← groupPart b.dialect columns]
  | set sets => do return [.text "SET", ← Assignment.listPart b.dialect sets]
  | insert table rows columns => insertParts b.dialect table columns rows
  | _ => .ok []

/-- The parts are written as the terms, and they are filled if and only if `c` holds. -/
structure Part.Sketches (c : Prop) (ps : List Part) (terms : List String) : Prop where
  write : writeAll ps = terms
  filled : FilledAll ps ↔ c

section

variable {b : Builtin}

open TerseSql.Part

theorem sketches_nil : Sketches True [] [] := by
  refine ⟨by rw [writeAll], ?_⟩
  rw [FilledAll]

theorem Part.Sketches.congr {c c' : Prop} {ps : List Part} {ss : List String}
    (h : Sketches c ps ss) (hc : c ↔ c') : Sketches c' ps ss :=
  ⟨h.write, h.filled.trans hc⟩

theorem Part.Sketches.append {c c' : Prop} {ps qs : List Part} {ss ts : List String}
    (h : Sketches c ps ss) (h' : Sketches c' qs ts) : Sketches (c ∧ c') (ps ++ qs) (ss ++ ts) :=
  ⟨by rw [writeAll_append, h.write, h'.write], by rw [filledAll_append, h.filled, h'.filled]⟩

theorem sketches_keyword {c : Prop} {keyword s : String} {p : Part} (hkeyword : keyword ≠ "")
    (h : Outlines c p s) : Sketches c [.text keyword, p] [keyword, s] := by
  refine ⟨?_, ?_⟩
  · rw [writeAll, writeAll, writeAll, h.write, write]
  · rw [FilledAll, FilledAll, FilledAll, Filled, h.filled, and_true]
    exact and_iff_right hkeyword

/-! ## Literals outside of conditions -/

theorem writes_iff {v : Value} (h : ∀ items, v ≠ .list items) : v.Populated ↔ v.Writes := by
  cases v with
  | list items => exact absurd rfl (h items)
  | query q =>
    rw [Value.populated_query]
    exact ⟨fun hq p hp => Value.query.inj hp ▸ hq, fun hq => hq q rfl⟩
  | _ => exact iff_of_true (Value.populated_of_leaf rfl fun q hq => nomatch hq) fun q hq => nomatch hq

theorem literal_writes {v : Value} (hraw : v.RawFree) :
    Alike (Outlines v.Writes) (b.dialect.part v) (b.dialect.literal v) := by
  cases v with
  | list items =>
    show Alike _ (Part.ofText (b.dialect.literal (.list items))) _
    rw [literal_eq]
    exact .error
  | _ =>
    refine (literal_outlines hraw).imp fun p s hp => hp.congr (writes_iff fun items hitems => ?_)
    cases hitems

theorem around_writes {v : Value} (hraw : v.RawFree) (before : String) :
    Alike (Outlines v.Writes) (do return .around before (← b.dialect.part v) "")
      (do return before ++ (← b.dialect.literal v)) := by
  refine (literal_writes hraw).bind fun p s hp => .ok ?_
  have haround := hp.around before ""
  rwa [String.append_empty] at haround

/-! ## SELECT and FROM -/

theorem selected_ne_empty {c : Column} (hraw : ∀ r, c ≠ .raw r) {s : String}
    (h : selected b.dialect c = .ok s) : s ≠ "" := by
  unfold selected at h
  split at h
  · cases h
    decide
  · obtain ⟨e, _, h⟩ := Built.exists_of_bind h
    cases h
    exact ne_empty_of_foreign (hasForeign_fieldExpr b e)
  · next r => exact absurd rfl (hraw r)
  · next f =>
    cases h
    exact ne_empty_of_foreign (hasForeign_field b f)

theorem selectList_outlines {columns : List Column} (hraw : ∀ c ∈ columns, ∀ r, c ≠ .raw r) :
    Alike (Outlines True) (selectPart b.dialect columns) (selectList b.dialect columns) := by
  unfold selectPart selectList
  by_cases hempty : columns.isEmpty = true
  · rw [if_pos hempty, if_pos hempty]
    have hstar : OutlinesAll [()] (fun _ => True) [.text "*"] ["*"] :=
      (outlines_text (by decide)).cons (outlinesAll_nil _)
    refine .ok ((hstar.bare ",").congr ?_)
    simp only [ne_eq, List.cons_ne_nil, not_false_eq_true, implies_true, and_self]
  · rw [if_neg hempty, if_neg hempty]
    have hne : columns ≠ [] := by
      rintro rfl
      exact hempty rfl
    have hall := mapM_ofText_alike (g := selected b.dialect)
      fun c hc s hs => selected_ne_empty (hraw c hc) hs
    refine hall.bind fun ps ss hps => .ok ((hps.bare ",").congr ?_)
    simp only [ne_eq, hne, not_false_eq_true, implies_true, and_self]

theorem source_outlines {source : Source} (hraw : ∀ r, source ≠ .raw r) :
    Alike (fun p x => Outlines (∀ q, source = .query q → q.body ≠ "") p x.1)
      (source.part b.dialect) (Statement.source b.dialect source) := by
  cases source with
  | table text =>
    simp only [Source.part, Statement.source]
    cases AliasedTable.ofText text with
    | error e => exact .error
    | ok t =>
      have htext := outlines_text (ne_empty_of_foreign (hasForeign_aliasedTable b t))
      have hnone : ∀ q, Source.table text = .query q → q.body ≠ "" := by
        intro q hq
        cases hq
      exact .ok (htext.congr (iff_of_true trivial hnone))
  | query q =>
    refine .ok (q.part_outlines.congr ?_)
    exact ⟨fun hq p hp => Source.query.inj hp ▸ hq, fun hq => hq q rfl⟩
  | raw r => exact absurd rfl (hraw r)

theorem sourceList_outlines {sources : List Source}
    (hraw : ∀ source ∈ sources, ∀ r, source ≠ .raw r) :
    Alike (fun p x => Outlines (∀ source ∈ sources, ∀ q, source = .query q → q.body ≠ "") p x.1)
      (sourcesPart b.dialect sources) (sourceList b.dialect sources) := by
  unfold sourcesPart sourceList
  refine (mapM_alike_map Prod.fst fun source hsource => source_outlines (hraw source hsource)).bind
    fun ps xs hps => ?_
  have hlist := hps.bare ","
  rcases xs with _ | ⟨⟨first, primary⟩, rest⟩
  · have hnil : ps = [] := by
      have hwrite := hps.write
      cases ps with
      | nil => rfl
      | cons p ps => cases hwrite
    rw [hnil]
    exact .error
  · rcases ps with _ | ⟨p, ps⟩
    · have hwrite := hps.write
      cases hwrite
    · refine .ok (hlist.congr (and_iff_right ?_))
      rintro rfl
      have hlength := hps.length
      cases hlength

/-! ## Joins -/

theorem length_eq_of_mapM {α β : Type} {f : α → Built β} {l : List α} {xs : List β}
    (h : l.mapM f = .ok xs) : xs.length = l.length :=
  (Built.forall₂_of_mapM h).length_eq.symm

theorem onFields_ne_nil {joined : String} {primary : Option String} {v : Value}
    {on : List (Field × Field)} (h : JoinTerm.onFields joined primary v = .ok on) :
    on ≠ [] ↔ v.NamesFields := by
  cases v with
  | text name =>
    obtain ⟨pair, _, h⟩ := Built.exists_of_bind h
    cases h
    exact iff_of_true (List.cons_ne_nil _ _) trivial
  | list names =>
    rw [Value.NamesFields, ← List.length_pos_iff, ← List.length_pos_iff, length_eq_of_mapM h]
  | dict pairs =>
    rw [Value.NamesFields, ← List.length_pos_iff, ← List.length_pos_iff, length_eq_of_mapM h]
  | _ => cases h

theorem on_ne_nil {key : String} {v : Value} {primary : Option Primary} {t : JoinTerm}
    (h : JoinTerm.ofEntry key v primary = .ok t) : t.on ≠ [] ↔ v.NamesFields := by
  obtain ⟨k, table, reference, on, -, -, -, hfields, rfl⟩ := JoinTerm.ofEntry_eq_ok_iff.mp h
  exact onFields_ne_nil hfields

theorem equalities_outline (on : List (Field × Field)) :
    OutlinesAll on (fun _ => True)
      (on.map fun pair => .text (JoinTerm.equality b.dialect.toLexicon pair))
      (on.map (JoinTerm.equality b.dialect.toLexicon)) := by
  induction on with
  | nil => exact outlinesAll_nil _
  | cons pair on ih =>
    have hpair : JoinTerm.equality b.dialect.toLexicon pair ≠ "" := by
      unfold JoinTerm.equality
      exact append_ne_empty (Or.inl (append_ne_empty (Or.inr (by decide))))
    exact (outlines_text hpair).cons ih

theorem joinTerm_outlines (t : JoinTerm) :
    Alike (Outlines (t.on ≠ [])) (t.part b.dialect.toLexicon) (t.render b.dialect.toLexicon) := by
  unfold JoinTerm.part JoinTerm.render
  cases b.dialect.join t.marker with
  | none => exact .error
  | some keyword =>
    have hlist := (equalities_outline (b := b) t.on).list
      (keyword ++ " " ++ t.table.render b.dialect.toLexicon ++ " ON ") " AND " ""
    rw [String.append_empty] at hlist
    refine .ok (hlist.congr ?_)
    simp only [implies_true, and_true]

theorem join_outlines (primary : Option Primary) (e : Key × Value) :
    Alike (Outlines e.2.NamesFields) (Join.part b.dialect.toLexicon primary e)
      (Join.entry b.dialect.toLexicon primary e) := by
  obtain ⟨key, v⟩ := e
  cases key with
  | raw r => exact .error
  | name key =>
    simp only [Join.part, Join.entry]
    cases hentry : JoinTerm.ofEntry key v primary with
    | error e => exact .error
    | ok t => exact (joinTerm_outlines t).imp fun p s hp => hp.congr (on_ne_nil hentry)

theorem joins_outline (primary : Option Primary) (joins : Dict Value) :
    Alike (Outlines (joins.entries ≠ [] ∧ ∀ e ∈ joins.entries, e.2.NamesFields))
      (Join.listPart b.dialect.toLexicon primary joins)
      (Join.render b.dialect.toLexicon primary joins) := by
  have hall := mapM_alike fun e (_ : e ∈ joins.entries) => join_outlines (b := b) primary e
  exact hall.bind fun ps ss hps => .ok (hps.bare " ")

/-! ## Assignments -/

theorem assignment_outlines (token : Option String) (field : String) {v : Value}
    (hraw : v.RawFree) :
    Alike (Outlines v.Writes) (b.dialect.assignmentPart token field v)
      (b.dialect.assignment token field v) := by
  unfold Dialect.assignmentPart Dialect.assignment
  rw [b.assign_eq, b.defaultUpdate_eq]
  cases token with
  | none => exact around_writes hraw _
  | some token =>
    dsimp only
    by_cases heq : token = "="
    · rw [if_pos heq, if_pos heq]
      exact around_writes hraw _
    · rw [if_neg heq, if_neg heq]
      cases hfind : b.dialect.updateOperators.find? token with
      | some handler =>
        -- The only handler there is writes a document, and a query has none.
        obtain rfl := b.handler_of_find? hfind
        by_cases hquery : ∃ q, v = .query q
        · obtain ⟨q, rfl⟩ := hquery
          exact .error
        · have hwrites : v.Writes := fun q hq => absurd ⟨q, hq⟩ hquery
          refine (ofText_alike fun s hs => ?_).imp fun p s hp =>
            hp.congr (iff_of_true trivial hwrites)
          obtain ⟨document, _, hs⟩ := Built.exists_of_bind hs
          cases hs
          exact append_ne_empty (Or.inr (quoteText_ne_empty b _))
      | none => exact around_writes hraw _

theorem assignmentEntry_outlines {e : Key × Value} (hraw : e.2.RawFree) :
    Alike (Outlines e.2.Writes) (Assignment.part b.dialect e) (Assignment.entry b.dialect e) := by
  obtain ⟨key, v⟩ := e
  cases key with
  | raw r => exact around_writes hraw _
  | name key =>
    simp only [Assignment.part, Assignment.entry, AssignmentTerm.render]
    cases AssignmentTerm.ofKey key with
    | error e => exact .error
    | ok t => exact assignment_outlines _ _ hraw

theorem sets_outline {sets : Dict Value} (hraw : ∀ e ∈ sets.entries, e.2.RawFree) :
    Alike (Outlines (sets.entries ≠ [] ∧ ∀ e ∈ sets.entries, e.2.Writes))
      (Assignment.listPart b.dialect sets) (Assignment.render b.dialect sets) := by
  have hall := mapM_alike fun e he => assignmentEntry_outlines (b := b) (hraw e he)
  exact hall.bind fun ps ss hps => .ok (hps.bare ",")

/-! ## Orders and groupings -/

theorem orderEntry_ne_empty {e : Key × Value} {s : String}
    (h : Order.entry b.dialect.toLexicon e = .ok s) : s ≠ "" := by
  obtain ⟨key, v⟩ := e
  cases key with
  | raw r =>
    obtain ⟨direction, _, h⟩ := Built.exists_of_bind h
    cases h
    exact append_ne_empty (Or.inl (append_ne_empty (Or.inr (by decide))))
  | name key =>
    obtain ⟨t, _, h⟩ := Built.exists_of_bind h
    cases h
    exact append_ne_empty (Or.inl (append_ne_empty (Or.inr (by decide))))

theorem orders_outline (orders : Dict Value) :
    Alike (Outlines (orders.entries ≠ [])) (Order.listPart b.dialect.toLexicon orders)
      (Order.render b.dialect.toLexicon orders) := by
  have hall := mapM_ofText_alike (g := Order.entry b.dialect.toLexicon) (l := orders.entries)
    fun e _ s hs => orderEntry_ne_empty hs
  refine hall.bind fun ps ss hps => .ok ((hps.bare ",").congr ?_)
  simp only [implies_true, and_true]

theorem grouped_ne_empty {c : Column} (hraw : ∀ r, c ≠ .raw r) {s : String}
    (h : grouped b.dialect c = .ok s) : s ≠ "" := by
  cases c with
  | name path =>
    obtain ⟨f, _, h⟩ := Built.exists_of_bind h
    cases h
    exact ne_empty_of_foreign (hasForeign_field b f)
  | raw r => exact absurd rfl (hraw r)
  | field f =>
    cases h
    exact ne_empty_of_foreign (hasForeign_field b f)

theorem groupList_outlines {columns : List Column} (hraw : ∀ c ∈ columns, ∀ r, c ≠ .raw r) :
    Alike (Outlines (columns ≠ [])) (groupPart b.dialect columns)
      (groupList b.dialect columns) := by
  have hall := mapM_ofText_alike (g := grouped b.dialect)
    fun c hc s hs => grouped_ne_empty (hraw c hc) hs
  refine hall.bind fun ps ss hps => .ok ((hps.bare ",").congr ?_)
  simp only [implies_true, and_true]

/-! ## Insertions -/

theorem rawFree_rowValues {columns : Option (List Column)} {row : Value} (hrow : row.RowRawFree)
    {values : List Value} (h : rowValues columns row = .ok values) : ∀ v ∈ values, v.RawFree := by
  have hnull : Value.null.RawFree := fun r hr => nomatch List.mem_singleton.mp hr
  cases row with
  | list items =>
    cases h
    exact hrow
  | dict record =>
    cases columns with
    | none =>
      cases h
      intro v hv
      obtain ⟨e, he, rfl⟩ := List.mem_map.mp hv
      exact (hrow e he).2
    | some columns =>
      cases h
      intro v hv
      obtain ⟨c, _, rfl⟩ := List.mem_map.mp hv
      cases hfind : List.find? (fun e => decide (e.1.text = c.recordKey)) record.entries with
      | none => exact hnull
      | some e => exact (hrow e (List.mem_of_find?_eq_some hfind)).2
  | _ => cases h

theorem row_outlines (columns : Option (List Column)) {row : Value} (hrow : row.RowRawFree) :
    Alike (Outlines (row.FillsRow columns)) (rowPart b.dialect columns row)
      (insertRow b.dialect columns row) := by
  unfold rowPart insertRow
  cases hvalues : rowValues columns row with
  | error e => exact .error
  | ok values =>
    have hall := mapM_alike (f := b.dialect.part) (g := b.dialect.literal)
      fun v hv => literal_writes (rawFree_rowValues hrow hvalues v hv)
    refine hall.bind fun ps ss hps => .ok ((hps.list "(" "," ")").congr ?_)
    cases row with
    | query q => cases hvalues
    | _ =>
      constructor
      · intro h found hfound
        rw [hvalues] at hfound
        cases hfound
        exact h
      · intro h
        exact h values hvalues

theorem insertColumn_ne_empty {c : Column} (hraw : ∀ r, c ≠ .raw r) {s : String}
    (h : insertColumn b.dialect c = .ok s) : s ≠ "" := by
  cases c with
  | name text =>
    obtain ⟨t, _, h⟩ := Built.exists_of_bind h
    cases h
    exact ne_empty_of_foreign (hasForeign_table b t)
  | raw r => exact absurd rfl (hraw r)
  | field f =>
    cases h
    exact ne_empty_of_foreign (hasForeign_quote b f.name)

theorem columnList_sketches {columns : Option (List Column)}
    (hraw : ∀ cs, columns = some cs → ∀ c ∈ cs, ∀ r, c ≠ .raw r) :
    Alike (Sketches (columns ≠ some [])) (columnListParts b.dialect columns)
      (columnList b.dialect columns) := by
  cases columns with
  | none => exact .ok (sketches_nil.congr (iff_of_true trivial nofun))
  | some cs =>
    have hall := mapM_ofText_alike (g := insertColumn b.dialect)
      fun c hc s hs => insertColumn_ne_empty (hraw cs rfl c hc) hs
    refine hall.bind fun ps ss hps => .ok ?_
    have hlist := hps.list "(" "," ")"
    refine ⟨by rw [writeAll, writeAll, hlist.write], ?_⟩
    rw [FilledAll, FilledAll, hlist.filled, and_true]
    simp only [ne_eq, implies_true, and_true, Option.some.injEq]

theorem chained_sketches (q : Query) :
    Sketches (q.body ≠ "") (chainedParts q) (chained q) := by
  unfold chainedParts chained
  by_cases hset : q.wrapping.isSet = true
  · rw [if_pos hset, if_pos hset]
    exact sketches_keyword (by decide) ⟨by rw [write], by rw [Filled]⟩
  · rw [if_neg hset, if_neg hset]
    exact sketches_keyword (by decide) q.part_outlines

theorem insertQueries_sketches (columns : Option (List Column)) (rest : List Value) :
    Alike (fun pss sss => Sketches (∀ row ∈ rest, row.FillsRow columns) pss.flatten sss.flatten)
      (rest.mapM insertQueryParts) (rest.mapM insertQuery) := by
  induction rest with
  | nil =>
    have hnil : ∀ row ∈ ([] : List Value), row.FillsRow columns := fun row hrow => nomatch hrow
    exact .ok (sketches_nil.congr (iff_of_true trivial hnil))
  | cons row rest ih =>
    rw [List.mapM_cons, List.mapM_cons]
    cases row with
    | query q =>
      refine (Alike.ok (chained_sketches q)).bind fun ps ss hps => ?_
      refine ih.bind fun pss sss hpss => .ok ?_
      rw [List.flatten_cons, List.flatten_cons]
      refine (hps.append hpss).congr ?_
      rw [List.forall_mem_cons, Value.FillsRow]
    | _ => exact .error

theorem insertBody_sketches (columns : Option (List Column)) {first : Value} {rest : List Value}
    (hrows : ∀ row ∈ first :: rest, row.RowRawFree) :
    Alike (Sketches (∀ row ∈ first :: rest, row.FillsRow columns))
      (insertBodyParts b.dialect columns first rest) (insertBody b.dialect columns first rest) := by
  by_cases hquery : ∃ q, first = .query q
  · obtain ⟨q, rfl⟩ := hquery
    refine (insertQueries_sketches columns rest).bind fun pss sss hpss => .ok ?_
    refine ⟨by rw [writeAll, hpss.write, q.part_outlines.write], ?_⟩
    rw [FilledAll, hpss.filled, q.part_outlines.filled, List.forall_mem_cons, Value.FillsRow]
  · have hnot : ∀ q, first ≠ .query q := fun q hq => hquery ⟨q, hq⟩
    have hparts : insertBodyParts b.dialect columns first rest = (do
        return [.text "VALUES", .list "" "," ""
          (← (first :: rest).mapM (rowPart b.dialect columns))]) := by
      cases first with
      | query q => exact absurd rfl (hnot q)
      | _ => rfl
    rw [hparts, insertBody_of_not_query hnot]
    have hall := mapM_alike fun row hrow => row_outlines (b := b) columns (hrows row hrow)
    refine hall.bind fun ps ss hps => .ok ?_
    refine (sketches_keyword (by decide) (hps.bare ",")).congr (and_iff_right ?_)
    exact List.cons_ne_nil _ _

theorem insert_sketches (table : String) {rows : List Value} {columns : Option (List Column)}
    (hraw : (Clause.insert table rows columns).RawFree) :
    Alike (Sketches (Clause.insert table rows columns).Populated)
      (insertParts b.dialect table columns rows) (insertTerms b.dialect table columns rows) := by
  cases rows with
  | nil => exact .error
  | cons first rest =>
    have hkeys : ∀ record, first = .dict record → ∀ e ∈ record.entries, ∀ r, e.1 ≠ .raw r := by
      rintro record rfl e he
      exact (hraw.2 _ List.mem_cons_self e he).1
    rw [insertParts, insertTerms]
    cases Table.ofText table with
    | error e => exact .error
    | ok t =>
      show Alike _ (insertColumns columns first rest >>= _) (insertColumns columns first rest >>= _)
      cases hfound : insertColumns columns first rest with
      | error e => exact .error
      | ok found =>
        have hlist := columnList_sketches (b := b) (insertColumns_not_raw hfound hraw.1 hkeys)
        have hbody := insertBody_sketches (b := b) found hraw.2
        refine hlist.bind fun list list' hl => hbody.bind fun body body' hb => .ok ?_
        have htable := outlines_text (ne_empty_of_foreign (hasForeign_table b t))
        have hhead : Sketches True [.text "INSERT INTO", .text (t.render b.dialect.toLexicon)]
            ["INSERT INTO", t.render b.dialect.toLexicon] := sketches_keyword (by decide) htable
        refine ((hhead.append hl).append hb).congr ?_
        rw [Clause.Populated, true_and]
        constructor
        · intro h other hother
          rw [hfound] at hother
          cases hother
          exact h
        · intro h
          exact h found hfound

/-! ## Clauses -/

theorem predicate_sketches {keyword : String} (hkeyword : keyword ≠ "") {conditions : Dict Value}
    (hraw : Condition.Tree.EveryOf (fun _ v => v.RawFree) (Condition.Tree.ofDict conditions)) :
    Alike (Sketches (Condition.Tree.PopulatedAll (Condition.Tree.ofDict conditions)))
      (predicateParts b keyword conditions) (predicateTerms b.dialect keyword conditions) := by
  obtain ⟨entries⟩ := conditions
  unfold predicateParts predicateTerms
  cases entries with
  | nil =>
    refine .ok (sketches_nil.congr (iff_of_true trivial ?_))
    unfold Condition.Tree.ofDict Condition.Tree.ofEntries Condition.Tree.PopulatedAll
    trivial
  | cons e rest =>
    have hne : Condition.Tree.ofDict ⟨e :: rest⟩ ≠ [] := by
      unfold Condition.Tree.ofDict Condition.Tree.ofEntries
      exact List.cons_ne_nil _ _
    show Alike _ (do
        let parts ← Condition.Tree.partsOf b (Condition.Tree.ofDict ⟨e :: rest⟩)
        return [.text keyword, Condition.conjoinPart parts])
      (do return [keyword, ← Condition.render b.dialect ⟨e :: rest⟩])
    rw [Condition.Tree.render_eq]
    have htrees := Condition.Tree.trees_draw b _ hraw
    generalize Condition.Tree.partsOf b _ = x at htrees ⊢
    generalize Condition.Tree.renderAll b.dialect _ = y at htrees ⊢
    cases htrees with
    | ok h => exact .ok (sketches_keyword hkeyword (Condition.Tree.conjoin_outlines h hne))
    | error => exact .error

theorem alike_pair {α β γ : Type} {P : α → β → Prop} {x : Built α} {y : Built β} (h : Alike P x y)
    (c : γ) : Alike (fun a e => P a e.1) x (do return (← y, c)) := by
  cases h with
  | ok h => exact .ok h
  | error => exact .error

theorem Clause.parts_sketch {c : Clause} (hbody : c.HasBody) (hraw : c.RawFree)
    (primary : Option Primary) :
    Alike (fun ps e => Sketches c.Populated ps e.1) (c.parts b primary)
      (c.extension b.dialect primary) := by
  cases c with
  | select columns distinct =>
    refine (selectList_outlines hraw).bind fun p s hp => .ok (sketches_keyword ?_ hp)
    cases distinct <;> decide
  | fromSources sources =>
    have hkeyword : "FROM" ≠ "" := by decide
    exact (sourceList_outlines hraw).bind fun p e hp => .ok (sketches_keyword hkeyword hp)
  | join joins =>
    refine (joins_outline primary joins).bind fun p s hp => .ok ⟨?_, ?_⟩
    · rw [writeAll, writeAll, hp.write]
    · rw [FilledAll, FilledAll, and_true, hp.filled, Populated]
  | filter conditions => exact alike_pair (predicate_sketches (by decide) hraw) primary
  | having conditions => exact alike_pair (predicate_sketches (by decide) hraw) primary
  | orderBy orders =>
    have hkeyword : "ORDER BY" ≠ "" := by decide
    exact (orders_outline orders).bind fun p s hp => .ok (sketches_keyword hkeyword hp)
  | groupBy columns =>
    have hkeyword : "GROUP BY" ≠ "" := by decide
    exact (groupList_outlines hraw).bind fun p s hp => .ok (sketches_keyword hkeyword hp)
  | set sets =>
    have hkeyword : "SET" ≠ "" := by decide
    exact alike_pair ((sets_outline hraw).bind fun p s hp =>
      .ok (sketches_keyword hkeyword hp)) primary
  | insert table rows columns => exact alike_pair (insert_sketches table hraw) primary
  | _ => exact absurd hbody id

/-- A clause that is added has members in all of its lists exactly if its arguments have no
empty list and no query that writes nothing, and then none of its terms is empty. -/
theorem Clause.filled_iff_populated {c : Clause} (hbody : c.HasBody) (hraw : c.RawFree)
    {s t : Statement} (h : Call.run b.dialect s (.clause c) = ⟨t, none⟩) :
    ∃ parts, c.parts b s.primary = .ok parts ∧ t.terms = s.terms ++ Part.writeAll parts ∧
      ((∀ p ∈ parts, p.Filled) ↔ c.Populated) ∧
      (c.Populated → ∀ term ∈ Part.writeAll parts, term ≠ "") := by
  have hwindow : ¬c.IsWindow := by
    cases c with
    | limit v => exact absurd hbody id
    | _ => exact id
  obtain ⟨m, hrun, hend⟩ := Plan.exists_of_run_cons h
  obtain rfl : m = t := congrArg Outcome.statement hend
  rw [run_extension b.dialect hwindow] at hrun
  have hsketch := parts_sketch (b := b) hbody hraw s.primary
  generalize c.parts b s.primary = x at hsketch
  generalize c.extension b.dialect s.primary = y at hsketch hrun
  cases hsketch with
  | error => cases hrun
  | ok hps =>
    cases hrun
    refine ⟨_, rfl, ?_, ?_, fun hpopulated => ?_⟩
    · rw [hps.write]
    · rw [← filledAll_iff, hps.filled]
    · exact writeAll_ne_empty _ (hps.filled.mpr hpopulated)

def Clause.hollow : Clause :=
  filter ⟨[(.name "a", .int 1), (.name "OR", .dict ⟨[(.name "AND", .dict ⟨[]⟩)]⟩)]⟩

theorem Clause.filled_iff_populated_hollow :
    hollow.HasBody ∧ hollow.RawFree ∧
      Call.run Builtin.generic.dialect .empty (.clause hollow) =
        ⟨⟨["WHERE", "\x22a\x22 = 1 AND ()"], none, .unset⟩, none⟩ ∧
      ∃ parts, hollow.parts .generic none = .ok parts ∧
        Part.writeAll parts = ["WHERE", "\x22a\x22 = 1 AND ()"] ∧ ¬∀ p ∈ parts, p.Filled := by
  have hraw : hollow.RawFree :=
    ⟨fun r hr => (nomatch List.mem_singleton.mp hr), ⟨⟨trivial, trivial⟩, trivial⟩⟩
  have hrun : Call.run Builtin.generic.dialect .empty (.clause hollow) =
      ⟨⟨["WHERE", "\x22a\x22 = 1 AND ()"], none, .unset⟩, none⟩ := by
    rfl
  obtain ⟨parts, hparts, hwrite, hfilled, -⟩ := filled_iff_populated (c := hollow) trivial hraw hrun
  refine ⟨trivial, hraw, hrun, parts, hparts, hwrite.symm, fun hall => ?_⟩
  have hpopulated := hfilled.mp hall
  -- The group under OR has one member, and that is a group without members.
  have hmembers : ([] : List Condition.Tree) ≠ [] := hpopulated.2.1.2.1.1
  exact hmembers rfl

end

end TerseSql
