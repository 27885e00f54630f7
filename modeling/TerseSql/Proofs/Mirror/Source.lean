import TerseSql.Clause.Join
import TerseSql.Proofs.Mirror.Value
import TerseSql.Statement.Clause

/-!
# Columns, sources and joins under two dialects

What is selected, from which sources and by which joins, is written for MySQL as a mirror
image of what is written for the generic dialect. MySQL has no full outer join.
-/

namespace TerseSql

open Lexing Text

def Same {α : Type} (P : α → Prop) (a b : α) : Prop :=
  a = b ∧ P a

theorem same_of_forall₂ {α : Type} {P : α → Prop} {l l' : List α}
    (h : List.Forall₂ (Same P) l l') : Same (fun l => ∀ a ∈ l, P a) l l' := by
  induction h with
  | nil => exact ⟨rfl, fun a ha => nomatch ha⟩
  | cons hab _ ih =>
    obtain ⟨rfl, ha⟩ := hab
    obtain ⟨rfl, hrest⟩ := ih
    exact ⟨rfl, List.forall_mem_cons.mpr ⟨ha, hrest⟩⟩

def Column.IsUnmarked : Column → Prop
  | name s => Text.IsUnmarked s
  | raw _ => False
  | field f => f.IsUnmarked

def Value.HasUnmarkedNames (v : Value) : Prop :=
  ∀ entries, v = .dict entries → ∀ e ∈ entries.entries, ∀ name, e.1 = .name name →
    Text.IsUnmarked name

/-! ## Columns -/

theorem selected_mirrors {c : Column} (h : c.IsUnmarked) :
    Alike Mirrors (Statement.selected Builtin.generic.dialect c)
      (Statement.selected Builtin.mysql.dialect c) := by
  unfold Statement.selected
  split
  · exact .ok (mirrors_self (by decide))
  · next text _ =>
    apply (Alike.self (FieldExpr.ofText text)).bind
    rintro e _ ⟨rfl, he⟩
    exact .ok (fieldExpr_mirrors (fieldExpr_unmarked_of_text he))
  · exact absurd h id
  · next f => exact .ok (field_mirrors h)

theorem columns_mirrors {f g : Column → Built String} {columns : List Column}
    (hcolumns : ∀ c ∈ columns, c.IsUnmarked)
    (h : ∀ c : Column, c.IsUnmarked → Alike Mirrors (f c) (g c)) :
    Alike (List.Forall₂ Mirrors) (columns.mapM f) (columns.mapM g) := by
  have hsame : List.Forall₂ (Same Column.IsUnmarked) columns columns :=
    List.forall₂_same.mpr fun c hc => ⟨rfl, hcolumns c hc⟩
  apply Alike.mapM hsame
  rintro c _ ⟨rfl, hc⟩
  exact h c hc

theorem selectList_mirrors {columns : List Column} (h : ∀ c ∈ columns, c.IsUnmarked) :
    Alike Mirrors (Statement.selectList Builtin.generic.dialect columns)
      (Statement.selectList Builtin.mysql.dialect columns) := by
  unfold Statement.selectList
  dsimp only
  by_cases hempty : columns.isEmpty = true
  · rw [if_pos hempty, if_pos hempty]
    exact .ok (mirrors_self (by decide))
  · rw [if_neg hempty, if_neg hempty]
    exact (columns_mirrors h fun _ => selected_mirrors).bind fun _ _ hss =>
      .ok (Mirrors.join (by decide) hss)

theorem grouped_mirrors {c : Column} (h : c.IsUnmarked) :
    Alike Mirrors (Statement.grouped Builtin.generic.dialect c)
      (Statement.grouped Builtin.mysql.dialect c) := by
  cases c with
  | name path =>
    apply (Alike.self (Field.ofPath path)).bind
    rintro f _ ⟨rfl, hf⟩
    exact .ok (field_mirrors (field_unmarked h hf))
  | raw sql => exact absurd h id
  | field f => exact .ok (field_mirrors h)

theorem groupList_mirrors {columns : List Column} (h : ∀ c ∈ columns, c.IsUnmarked) :
    Alike Mirrors (Statement.groupList Builtin.generic.dialect columns)
      (Statement.groupList Builtin.mysql.dialect columns) :=
  (columns_mirrors h fun _ => grouped_mirrors).bind fun _ _ hss =>
    .ok (Mirrors.join (by decide) hss)

/-! ## Sources -/

inductive Source.Twins (R : Query → Query → Prop) : Source → Source → Prop where
  | table (text : String) : Twins R (.table text) (.table text)
  | query {q q' : Query} : R q q' → Twins R (.query q) (.query q')

def MirrorsSource (x x' : String × Option Primary) : Prop :=
  Mirrors x.1 x'.1 ∧ Same Primary.IsUnmarked x.2 x'.2

section

variable {R : Query → Query → Prop} (hR : ∀ q q', R q q' → q.Mirrors q')
include hR

theorem source_mirrors {s s' : Source} (h : s.Twins R s') :
    Alike MirrorsSource (Statement.source Builtin.generic.dialect s)
      (Statement.source Builtin.mysql.dialect s') := by
  cases h with
  | table text =>
    apply (Alike.self (AliasedTable.ofText text)).bind
    rintro t _ ⟨rfl, ht⟩
    have htable := aliasedTable_unmarked_of_text ht
    refine .ok ⟨aliasedTable_mirrors htable, rfl, ?_⟩
    intro reference href
    cases href
    exact reference_unmarked htable
  | @query q q' hq =>
    have hmirrors := hR q q' hq
    refine .ok ⟨hmirrors.sql, ?_, ?_⟩
    · rw [hmirrors.wrapping]
    · intro reference href
      apply hmirrors.statement.aliasName
      show q.wrapping = .named reference
      cases hw : q.wrapping <;> simp_all

theorem sourceList_mirrors {sources sources' : List Source}
    (h : List.Forall₂ (Source.Twins R) sources sources') :
    Alike MirrorsSource (Statement.sourceList Builtin.generic.dialect sources)
      (Statement.sourceList Builtin.mysql.dialect sources') := by
  apply (Alike.mapM h fun _ _ => source_mirrors hR).bind
  intro found found' hfound
  cases hfound with
  | nil => exact .error
  | cons hfirst hrest =>
    refine .ok ⟨Mirrors.join (by decide) (.cons hfirst.1 ?_), hfirst.2⟩
    rw [List.forall₂_map_left_iff, List.forall₂_map_right_iff]
    exact hrest.imp fun _ _ hx => hx.1

end

/-! ## Joins -/

def IsSharedJoin (key : String) : Prop :=
  ∀ k, Grammar.join? key = some k →
    k.marker ≠ some "<>" ∧ ∀ aliasName, k.aliasName = some aliasName → Text.IsUnmarked aliasName

def IsUnmarkedPair (pair : Field × Field) : Prop :=
  pair.1.IsUnmarked ∧ pair.2.IsUnmarked

structure JoinTerm.IsShared (t : JoinTerm) : Prop where
  marker : t.marker ≠ "<>"
  table : t.table.IsUnmarked
  on : ∀ pair ∈ t.on, IsUnmarkedPair pair

def JoinTerm.ofPrimary (primary : Option String) (f : Field) : Built Field :=
  match primary with
  | some p => if f.table.isSome then .error (.join (.qualifiedRight f.name)) else return f.qualify p
  | none => return f

section

variable {R : Query → Query → Prop} {joined : String} (hjoined : Text.IsUnmarked joined)
  {primary : Option String} (hprimary : ∀ p, primary = some p → Text.IsUnmarked p)
include hjoined hprimary

theorem sameField_same {name : String} (hname : Text.IsUnmarked name) :
    Alike (Same IsUnmarkedPair) (JoinTerm.sameField joined primary name)
      (JoinTerm.sameField joined primary name) := by
  unfold JoinTerm.sameField
  apply (Alike.self (Field.ofPath name)).bind
  rintro f _ ⟨rfl, hf⟩
  have hfield := field_unmarked hname hf
  by_cases hqualified : f.table.isSome = true
  · rw [if_pos hqualified]
    exact .error
  · rw [if_neg hqualified]
    cases primary with
    | none => exact .error
    | some p =>
      exact .ok ⟨rfl, qualify_unmarked hfield hjoined, qualify_unmarked hfield (hprimary p rfl)⟩

theorem listedField_same {v v' : Value} (hv : v.Twins R v') :
    Alike (Same IsUnmarkedPair) (JoinTerm.listedField joined primary v)
      (JoinTerm.listedField joined primary v') := by
  cases hv with
  | text hs => exact sameField_same hjoined hprimary hs
  | _ => exact .error

omit hjoined hprimary in
theorem leftField_same {name : String} (hname : Text.IsUnmarked name) :
    Alike (Same Field.IsUnmarked) (JoinTerm.leftField (.name name))
      (JoinTerm.leftField (.name name)) := by
  unfold JoinTerm.leftField
  dsimp only
  apply (Alike.self (Field.ofPath name)).bind
  rintro f _ ⟨rfl, hf⟩
  by_cases hqualified : f.table.isSome = true
  · rw [if_pos hqualified]
    exact .error
  · rw [if_neg hqualified]
    exact .ok ⟨rfl, field_unmarked hname hf⟩

omit hjoined in
theorem ofPrimary_same {f : Field} (hf : f.IsUnmarked) :
    Alike (Same Field.IsUnmarked) (JoinTerm.ofPrimary primary f) (JoinTerm.ofPrimary primary f) := by
  unfold JoinTerm.ofPrimary
  cases primary with
  | none => exact .ok ⟨rfl, hf⟩
  | some p =>
    dsimp only
    by_cases hqualified : f.table.isSome = true
    · rw [if_pos hqualified]
      exact .error
    · rw [if_neg hqualified]
      exact .ok ⟨rfl, qualify_unmarked hf (hprimary p rfl)⟩

omit hjoined in
theorem rightField_same {v v' : Value} (hv : v.Twins R v') :
    Alike (Same Field.IsUnmarked) (JoinTerm.rightField primary v)
      (JoinTerm.rightField primary v') := by
  cases hv with
  | @text s hs =>
    show Alike _ (Field.ofPath s >>= JoinTerm.ofPrimary primary)
      (Field.ofPath s >>= JoinTerm.ofPrimary primary)
    apply (Alike.self (Field.ofPath s)).bind
    rintro f _ ⟨rfl, hf⟩
    exact ofPrimary_same hprimary (field_unmarked hs hf)
  | field hf => exact ofPrimary_same hprimary hf
  | _ => exact .error

theorem fieldPair_same {e e' : Key × Value} (he : Value.TwinEntry R e e')
    (hname : ∀ name, e.1 = .name name → Text.IsUnmarked name) :
    Alike (Same IsUnmarkedPair) (JoinTerm.fieldPair joined primary e)
      (JoinTerm.fieldPair joined primary e') := by
  obtain ⟨key, v⟩ := e
  obtain ⟨key', v'⟩ := e'
  obtain ⟨name, rfl, rfl, hv⟩ := he
  apply (leftField_same (hname name rfl)).bind
  rintro f _ ⟨rfl, hf⟩
  apply (rightField_same hprimary hv).bind
  rintro g _ ⟨rfl, hg⟩
  exact .ok ⟨rfl, qualify_unmarked hf hjoined, hg⟩

theorem onFields_same {v v' : Value} (hv : v.Twins R v') (hnames : v.HasUnmarkedNames) :
    Alike (Same fun on => ∀ pair ∈ on, IsUnmarkedPair pair) (JoinTerm.onFields joined primary v)
      (JoinTerm.onFields joined primary v') := by
  cases hv with
  | text hs =>
    apply (sameField_same hjoined hprimary hs).bind
    rintro pair _ ⟨rfl, hpair⟩
    exact .ok ⟨rfl, List.forall_mem_singleton.mpr hpair⟩
  | list hitems =>
    apply (Alike.mapM hitems.forall₂ fun _ _ => listedField_same hjoined hprimary).imp
    intro _ _
    exact same_of_forall₂
  | @dict entries entries' hentries =>
    have hpairs := (List.forall₂_and_left _ _).mpr ⟨hnames ⟨entries⟩ rfl, hentries.forall₂⟩
    apply (Alike.mapM hpairs fun _ _ he => fieldPair_same hjoined hprimary he.2 he.1).imp
    intro _ _
    exact same_of_forall₂
  | _ => exact .error

end

section

variable {R : Query → Query → Prop} {primary : Option Primary}
  (hprimary : Primary.IsUnmarked primary)
include hprimary

theorem reference?_same :
    Alike (Same fun p => ∀ reference, p = some reference → Text.IsUnmarked reference)
      (Primary.reference? primary) (Primary.reference? primary) := by
  cases primary with
  | none => exact .ok ⟨rfl, fun _ hp => nomatch hp⟩
  | some p =>
    cases p with
    | unaliased => exact .error
    | named reference =>
      refine .ok ⟨rfl, ?_⟩
      intro _ hp
      cases hp
      exact hprimary reference rfl

theorem joinTerm_same {key : String} (hkey : IsSharedJoin key) {v v' : Value} (hv : v.Twins R v')
    (hnames : v.HasUnmarkedNames) :
    Alike (Same JoinTerm.IsShared) (JoinTerm.ofEntry key v primary)
      (JoinTerm.ofEntry key v' primary) := by
  unfold JoinTerm.ofEntry
  cases hk : Grammar.join? key with
  | none => exact .error
  | some k =>
    obtain ⟨hmarker, halias⟩ := hkey k hk
    dsimp only
    apply (Alike.self (AliasedTable.make k.path k.aliasName)).bind
    rintro t _ ⟨rfl, ht⟩
    have htable := aliasedTable_unmarked (unmarked_of_join? hk) halias ht
    apply (reference?_same hprimary).bind
    rintro p _ ⟨rfl, hp⟩
    apply (onFields_same (reference_unmarked htable) hp hv hnames).bind
    rintro on _ ⟨rfl, hon⟩
    refine .ok ⟨rfl, ?_, htable, hon⟩
    cases hm : k.marker with
    | none => exact show "><" ≠ "<>" by decide
    | some marker =>
      rw [hm] at hmarker
      exact fun heq => hmarker (congrArg some heq)

omit hprimary in
theorem joinTerm_mirrors {t : JoinTerm} (h : t.IsShared) :
    Alike Mirrors (t.render Builtin.generic.dialect.toLexicon)
      (t.render Builtin.mysql.dialect.toLexicon) := by
  have hjoin : Builtin.mysql.dialect.join t.marker = Builtin.generic.dialect.join t.marker :=
    if_neg h.marker
  have hkeyword : ∀ keyword, standardJoin t.marker = some keyword → Text.IsUnmarked keyword := by
    intro keyword hk
    unfold standardJoin at hk
    split at hk <;> cases hk <;> decide
  unfold JoinTerm.render
  rw [hjoin]
  cases hk : Builtin.generic.dialect.join t.marker with
  | none => exact .error
  | some keyword =>
    have hon : List.Forall₂ Mirrors
        (t.on.map (JoinTerm.equality Builtin.generic.dialect.toLexicon))
        (t.on.map (JoinTerm.equality Builtin.mysql.dialect.toLexicon)) := by
      rw [List.forall₂_map_left_iff, List.forall₂_map_right_iff]
      refine List.forall₂_same.mpr fun pair hpair => ?_
      obtain ⟨hleft, hright⟩ := h.on pair hpair
      exact ((field_mirrors hleft).after (by decide)).append (field_mirrors hright)
    have hopen : Text.IsUnmarked (keyword ++ " ") :=
      isUnmarked_append.mpr ⟨hkeyword keyword hk, by decide⟩
    have htable := (aliasedTable_mirrors h.table).before hopen
    exact .ok ((htable.after (by decide)).append (Mirrors.join (by decide) hon))

theorem joins_mirrors {joins joins' : Dict Value}
    (h : Value.TwinEntries R joins.entries joins'.entries)
    (hshared : ∀ e ∈ joins.entries, IsSharedJoin e.1.text ∧ e.2.HasUnmarkedNames) :
    Alike Mirrors (Join.render Builtin.generic.dialect.toLexicon primary joins)
      (Join.render Builtin.mysql.dialect.toLexicon primary joins') := by
  have hentries := (List.forall₂_and_left _ _).mpr ⟨hshared, h.forall₂⟩
  unfold Join.render
  refine (Alike.mapM hentries fun e e' he => ?_).bind fun _ _ hss =>
    .ok (Mirrors.join (by decide) hss)
  obtain ⟨key, v⟩ := e
  obtain ⟨key', v'⟩ := e'
  obtain ⟨⟨hkey, hnames⟩, name, rfl, rfl, hv⟩ := he
  apply (joinTerm_same hprimary hkey hv hnames).bind
  rintro t _ ⟨rfl, ht⟩
  exact joinTerm_mirrors ht

end

end TerseSql
