import TerseSql.Proofs.Added
import TerseSql.Proofs.Blank.Condition

/-!
# Rows without their texts

Rows and the same rows with blank values are inserted as related texts, and what stands
before them is the same for both.
-/

namespace TerseSql

open Lexing Statement

namespace Value

def rowTexts (columns : Option (List Column)) (row : Value) : List String :=
  match rowValues columns row with
  | .ok values => values.flatMap texts
  | .error _ => []

def rowsTexts (columns : Option (List Column)) : List Value → List String
  | [] => []
  | first :: rest =>
    match insertColumns columns first rest with
    | .ok columns => (first :: rest).flatMap (rowTexts columns)
    | .error _ => []

theorem rowValues_blank (columns : Option (List Column)) (row : Value) :
    Alike (fun vs vs' => vs' = vs.map blank) (rowValues columns row)
      (rowValues columns row.blank) := by
  cases row with
  | list items =>
    rw [blank_list]
    exact .ok rfl
  | dict record =>
    obtain ⟨entries⟩ := record
    rw [blank, blankEntries_eq]
    cases columns with
    | none => exact .ok (by simp [Dict.values])
    | some columns =>
      have hfound : ∀ found : Option (Key × Value),
          ((found.map fun e => (e.1, e.2.blank)).map (·.2)).getD null =
            ((found.map (·.2)).getD null).blank := by
        intro found
        cases found <;> rfl
      refine .ok ?_
      rw [List.map_map]
      refine List.map_congr_left fun c _ => ?_
      rw [Function.comp_apply, List.find?_map]
      exact hfound _
  | _ => exact .error

theorem keys_blank (entries : List (Key × Value)) :
    (Dict.keys ⟨blankEntries entries⟩ : List Key) = Dict.keys ⟨entries⟩ := by
  unfold Dict.keys
  rw [blankEntries_eq, List.map_map]
  rfl

/-- The columns of an insertion do not depend on the texts in its rows. -/
theorem insertColumns_blank (columns : Option (List Column)) (first : Value) (rest : List Value) :
    insertColumns columns first.blank (rest.map blank) = insertColumns columns first rest := by
  unfold insertColumns
  cases columns.filter (!·.isEmpty) with
  | some columns => rfl
  | none =>
    cases first with
    | dict record =>
      obtain ⟨entries⟩ := record
      have hconsistent : consistent ⟨blankEntries entries⟩ (rest.map blank) =
          consistent ⟨entries⟩ rest := by
        unfold consistent
        rw [List.all_map]
        congr 1
        funext v
        cases v with
        | dict record =>
          obtain ⟨es⟩ := record
          rw [Function.comp_apply, blank]
          dsimp only
          rw [sameKeys, sameKeys, keys_blank, keys_blank]
        | _ => rfl
      rw [blank]
      dsimp only
      rw [hconsistent, keys_blank]
    | _ => rfl

end Value

namespace Lexing

variable {b : Builtin} {comments : Bool} {R : TextRelation (b.rules comments)}

def TextRelation.CoversRow (R : TextRelation (b.rules comments)) : Value → Prop
  | .list items => ∀ item ∈ items, R.Covers item
  | .dict record => ∀ e ∈ record.entries, R.Covers e.2
  | _ => True

theorem covers_rowValues {columns : Option (List Column)} {row : Value} {values : List Value}
    (hrow : R.CoversRow row) (h : rowValues columns row = .ok values)
    (hnull : R.Covers .null) : ∀ v ∈ values, R.Covers v := by
  cases row with
  | list items =>
    cases h
    exact hrow
  | dict record =>
    cases columns with
    | none =>
      cases h
      intro v hv
      obtain ⟨e, he, rfl⟩ := List.mem_map.mp hv
      exact hrow e he
    | some columns =>
      cases h
      intro v hv
      obtain ⟨c, _, rfl⟩ := List.mem_map.mp hv
      cases hfind : List.find? (fun e => decide (e.1.text = c.recordKey)) record.entries with
      | none => exact hnull
      | some e => exact hrow e (List.mem_of_find?_eq_some hfind)
  | _ => cases h

/-- What an insertion writes besides texts: names of columns, and null for what is absent. -/
structure TextRelation.SuitsRows (R : TextRelation (b.rules comments)) : Prop extends R.Suits where
  name (s : String) : R.holds (b.dialect.quote s) (b.dialect.quote s) []
  null : R.Covers .null

section

variable (hsuits : R.SuitsRows)
include hsuits

theorem insertRow_alike {columns : Option (List Column)} {row : Value} (hrow : R.CoversRow row) :
    Alike (R.holds · · (row.rowTexts columns)) (insertRow b.dialect columns row)
      (insertRow b.dialect columns row.blank) := by
  have hopen : (b.rules comments).isSeparator "(" = true := isSeparator_of_steady (by decide)
  have hclose : (b.rules comments).isSeparator ")" = true := isSeparator_of_steady (by decide)
  have hcomma : (b.rules comments).isSeparator "," = true := isSeparator_of_steady (by decide)
  have hvalues := Value.rowValues_blank columns row
  unfold insertRow Value.rowTexts
  -- A row gives values in the one case exactly if it does in the other.
  cases hv : rowValues columns row with
  | error e =>
    rw [hv] at hvalues
    cases hblank : rowValues columns row.blank with
    | error e' => exact .error
    | ok values' =>
      rw [hblank] at hvalues
      cases hvalues
  | ok values =>
    rw [hv] at hvalues
    cases hblank : rowValues columns row.blank with
    | error e' =>
      rw [hblank] at hvalues
      cases hvalues
    | ok values' =>
      rw [hblank] at hvalues
      obtain ⟨rfl⟩ := hvalues
      have hcovers := covers_rowValues hrow hv hsuits.null
      have hall : Alike (R.HoldsAll · · (values.flatMap Value.texts))
          (values.mapM b.dialect.literal) ((values.map Value.blank).mapM b.dialect.literal) := by
        rw [List.mapM_map]
        exact TextRelation.mapM fun v hmem => literal_alike hsuits.toSuits (hcovers v hmem)
      refine hall.bind fun ss ss' hss => .ok ?_
      exact TextRelation.after (TextRelation.before hopen (TextRelation.join hcomma hss)) hclose

theorem table_holds (t : Table) :
    R.holds (t.render b.dialect.toLexicon) (t.render b.dialect.toLexicon) [] := by
  have hdot : (b.rules comments).isSeparator "." = true := isSeparator_of_steady (by decide)
  unfold Table.render
  cases t.schema with
  | some schema => exact R.joint (hsuits.name schema) hdot (hsuits.name t.name)
  | none => exact hsuits.name t.name

theorem columnList_alike {columns : Option (List Column)}
    (hraw : ∀ cs, columns = some cs → ∀ c ∈ cs, ∀ sql, c ≠ .raw sql) :
    Alike (R.HoldsAll · · []) (columnList b.dialect columns) (columnList b.dialect columns) := by
  have hopen : (b.rules comments).isSeparator "(" = true := isSeparator_of_steady (by decide)
  have hclose : (b.rules comments).isSeparator ")" = true := isSeparator_of_steady (by decide)
  have hcomma : (b.rules comments).isSeparator "," = true := isSeparator_of_steady (by decide)
  unfold columnList
  cases columns with
  | none => exact .ok .nil
  | some cs =>
    have hall : Alike (R.HoldsAll · · (cs.flatMap fun _ => [])) (cs.mapM (insertColumn b.dialect))
        (cs.mapM (insertColumn b.dialect)) := by
      refine TextRelation.mapM fun c hc => ?_
      cases c with
      | name text =>
        rw [insertColumn]
        cases Table.ofText text with
        | error e => exact .error
        | ok t => exact .ok (table_holds hsuits t)
      | raw sql => exact absurd rfl (hraw cs rfl _ hc sql)
      | field f => exact .ok (hsuits.name f.name)
    rw [List.flatMap_eq_nil_iff.mpr fun _ _ => rfl] at hall
    refine hall.bind fun ss ss' hss => .ok ?_
    exact .cons (TextRelation.after (TextRelation.before hopen (TextRelation.join hcomma hss)) hclose)
      .nil

omit hsuits in
/-- Columns are raw SQL only where they are given so, or the keys that they come from are. -/
theorem insertColumns_not_raw {columns : Option (List Column)} {first : Value} {rest : List Value}
    {found : Option (List Column)} (h : insertColumns columns first rest = .ok found)
    (hraw : ∀ cs, columns = some cs → ∀ c ∈ cs, ∀ sql, c ≠ .raw sql)
    (hkeys : ∀ record, first = .dict record → ∀ e ∈ record.entries, ∀ sql, e.1 ≠ .raw sql) :
    ∀ cs, found = some cs → ∀ c ∈ cs, ∀ sql, c ≠ .raw sql := by
  unfold insertColumns at h
  cases hgiven : columns.filter (!·.isEmpty) with
  | some given =>
    rw [hgiven] at h
    cases h
    intro cs hcs
    cases hcs
    exact hraw given (Option.filter_eq_some_iff.mp hgiven).1
  | none =>
    rw [hgiven] at h
    -- Where none are given, the keys of the first record are the columns.
    cases first with
    | dict record =>
      dsimp only at h
      by_cases hconsistent : consistent record rest = true
      · rw [if_pos hconsistent] at h
        cases h
        intro cs hcs
        cases hcs
        intro c hc sql hsql
        obtain ⟨key, hkey, rfl⟩ := List.mem_map.mp hc
        obtain ⟨e, he, rfl⟩ := List.mem_map.mp hkey
        cases hname : e.1 with
        | name s =>
          rw [hname] at hsql
          cases hsql
        | raw sql' => exact hkeys record rfl e he sql' hname
      · rw [if_neg hconsistent] at h
        cases h
    | _ =>
      cases h
      intro cs hcs
      cases hcs

theorem insertBody_alike (columns : Option (List Column)) {first : Value} {rest : List Value}
    (hfirst : ∀ q, first ≠ .query q) (hcovers : ∀ row ∈ first :: rest, R.CoversRow row) :
    Alike (R.HoldsAll · · ((first :: rest).flatMap (Value.rowTexts columns)))
      (insertBody b.dialect columns first rest)
      (insertBody b.dialect columns first.blank (rest.map Value.blank)) := by
  have hvalues : (b.rules comments).isSeparator "VALUES" = true := isSeparator_of_steady (by decide)
  have hcomma : (b.rules comments).isSeparator "," = true := isSeparator_of_steady (by decide)
  have hblank : ∀ q, first.blank ≠ .query q := by
    intro q hq
    cases first with
    | query q => exact hfirst q rfl
    | _ => simp [Value.blank] at hq
  have hall : Alike (R.HoldsAll · · ((first :: rest).flatMap (Value.rowTexts columns)))
      ((first :: rest).mapM (insertRow b.dialect columns))
      (((first :: rest).map Value.blank).mapM (insertRow b.dialect columns)) := by
    rw [List.mapM_map]
    exact TextRelation.mapM fun row hrow => insertRow_alike hsuits (hcovers row hrow)
  rw [insertBody_of_not_query hfirst, insertBody_of_not_query hblank, ← List.map_cons]
  refine hall.bind fun ss ss' hss => .ok ?_
  have hjoin := TextRelation.HoldsAll.cons (TextRelation.join hcomma hss) .nil
  rw [List.append_nil] at hjoin
  have hterms := TextRelation.HoldsAll.cons (TextRelation.separator (R := R) hvalues) hjoin
  exact hterms

omit hsuits in
theorem holdsAll_append {ss ss' ts ts' a as : List String} (hs : R.HoldsAll ss ss' a)
    (ht : R.HoldsAll ts ts' as) : R.HoldsAll (ss ++ ts) (ss' ++ ts') (a ++ as) := by
  induction hs with
  | nil => exact ht
  | cons hfirst _ ih =>
    rw [List.append_assoc]
    exact .cons hfirst ih

theorem insertTerms_alike (table : String) {columns : Option (List Column)} {rows : List Value}
    (hraw : ∀ cs, columns = some cs → ∀ c ∈ cs, ∀ sql, c ≠ .raw sql)
    (hkeys : ∀ record, .dict record ∈ rows → ∀ e ∈ record.entries, ∀ sql, e.1 ≠ .raw sql)
    (hquery : ∀ q, .query q ∉ rows) (hcovers : ∀ row ∈ rows, R.CoversRow row) :
    Alike (R.HoldsAll · · (Value.rowsTexts columns rows)) (insertTerms b.dialect table columns rows)
      (insertTerms b.dialect table columns (rows.map Value.blank)) := by
  have hinto : (b.rules comments).isSeparator "INSERT INTO" = true :=
    isSeparator_of_steady (by decide)
  cases rows with
  | nil => exact .error
  | cons first rest =>
    rw [List.map_cons, insertTerms, insertTerms, Value.insertColumns_blank, Value.rowsTexts]
    cases Table.ofText table with
    | error e => exact .error
    | ok t =>
      cases hfound : insertColumns columns first rest with
      | error e => exact .error
      | ok found =>
        have hlist := columnList_alike hsuits (insertColumns_not_raw hfound hraw
          fun record hrecord => hkeys record (hrecord ▸ List.mem_cons_self))
        have hbody := insertBody_alike hsuits found
          (fun q hq => hquery q (hq ▸ List.mem_cons_self)) hcovers
        have hboth : ∀ list list', R.HoldsAll list list' [] → ∀ body body',
            R.HoldsAll body body' ((first :: rest).flatMap (Value.rowTexts found)) →
            R.HoldsAll ("INSERT INTO" :: t.render b.dialect.toLexicon :: list ++ body)
              ("INSERT INTO" :: t.render b.dialect.toLexicon :: list' ++ body')
              ((first :: rest).flatMap (Value.rowTexts found)) := by
          intro list list' hl body body' hb
          have hhead := TextRelation.HoldsAll.cons (TextRelation.separator (R := R) hinto)
            (TextRelation.HoldsAll.cons (table_holds hsuits t) hl)
          have hterms := holdsAll_append hhead hb
          exact hterms
        exact hlist.bind fun list list' hl =>
          hbody.bind fun body body' hb => .ok (hboth list list' hl body body' hb)

end

end Lexing

end TerseSql
