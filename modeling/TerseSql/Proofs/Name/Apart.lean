import TerseSql.Proofs.Name.Qualified

/-!
# Terms told apart by what they are written as

Under a dialect at hand, tables that are written alike are the same table, under aliases too. Of
a field only its parts can be seen: one qualifier may be a schema without a table as well as a
table without a schema, and both kinds of fields can be built.
-/

namespace TerseSql

section

variable (b : Builtin)

theorem Delimiters.parts_eq_of_join {parts names : List String} (hparts : parts ≠ [])
    (hnames : names ≠ [])
    (h : Text.join "." (parts.map b.dialect.quote) = Text.join "." (names.map b.dialect.quote)) :
    parts = names := by
  have hread := reads_join b hnames
  rw [← h] at hread
  exact ((reads_join_iff b hparts).mp hread).symm

/-! ## Tables -/

theorem Table.parts_ne_nil (t : Table) : t.parts ≠ [] :=
  List.append_ne_nil_of_right_ne_nil _ (List.cons_ne_nil _ _)

theorem Table.reads_render (t : Table) :
    b.delimiters.Reads (t.render b.dialect.toLexicon).toList t.parts := by
  rw [render_eq_join]
  exact Delimiters.reads_join b t.parts_ne_nil

theorem Table.render_eq_iff (t t' : Table) :
    t.render b.dialect.toLexicon = t'.render b.dialect.toLexicon ↔ t = t' := by
  constructor
  · intro h
    rw [render_eq_join, render_eq_join] at h
    exact parts_injective (Delimiters.parts_eq_of_join b t.parts_ne_nil t'.parts_ne_nil h)
  · rintro rfl
    rfl

def AliasedTable.aliasText (l : Lexicon) : Option String → String
  | none => ""
  | some aliasName => " AS " ++ l.quote aliasName

theorem AliasedTable.render_eq_append (l : Lexicon) (t : AliasedTable) :
    t.render l = t.table.render l ++ aliasText l t.aliasName := by
  unfold render
  cases t.aliasName with
  | none => simp [aliasText]
  | some aliasName => simp [aliasText, String.append_assoc]

/-- A table is over before its alias. -/
theorem AliasedTable.endsName_aliasText :
    ∀ aliasName, b.delimiters.EndsName (aliasText b.dialect.toLexicon aliasName).toList
  | none => Delimiters.endsName_nil
  | some aliasName => by
    have hhead : (" AS " ++ b.dialect.quote aliasName).toList.head? = some ' ' := by
      rw [String.toList_append]
      rfl
    rw [aliasText, Delimiters.EndsName, hhead]
    cases b <;> exact ⟨by decide, by decide⟩

theorem AliasedTable.aliasText_injective :
    ∀ {aliasName aliasName' : Option String},
      aliasText b.dialect.toLexicon aliasName = aliasText b.dialect.toLexicon aliasName' →
      aliasName = aliasName'
  | none, none, _ => rfl
  | none, some _, h => absurd (congrArg String.toList h) (by simp [aliasText])
  | some _, none, h => absurd (congrArg String.toList h) (by simp [aliasText])
  | some aliasName, some aliasName', h => by
    have hlist := congrArg String.toList h
    rw [aliasText, aliasText, String.toList_append, String.toList_append,
      List.append_right_inj] at hlist
    have hquote : b.dialect.quote aliasName = b.dialect.quote aliasName' :=
      String.toList_injective hlist
    have hparts := Delimiters.parts_eq_of_join b (List.cons_ne_nil aliasName [])
      (List.cons_ne_nil aliasName' []) hquote
    rw [(List.cons.inj hparts).1]

theorem AliasedTable.render_eq_iff (t t' : AliasedTable) :
    t.render b.dialect.toLexicon = t'.render b.dialect.toLexicon ↔ t = t' := by
  constructor
  · intro h
    obtain ⟨table, aliasName⟩ := t
    obtain ⟨table', aliasName'⟩ := t'
    rw [render_eq_append, render_eq_append] at h
    have hlist := congrArg String.toList h
    rw [String.toList_append, String.toList_append] at hlist
    obtain ⟨hparts, htext⟩ := (table.reads_render b).unique_append (table'.reads_render b)
      (endsName_aliasText b aliasName) (endsName_aliasText b aliasName') hlist
    rw [Table.parts_injective hparts, aliasText_injective b (String.toList_injective htext)]
  · rintro rfl
    rfl

/-! ## Fields -/

theorem Field.render_eq_iff_parts (f f' : Field) :
    f.render b.dialect.toLexicon = f'.render b.dialect.toLexicon ↔ f.parts = f'.parts := by
  have hne : ∀ g : Field, g.parts ≠ [] :=
    fun g => List.append_ne_nil_of_right_ne_nil _ (List.cons_ne_nil _ _)
  constructor
  · exact Delimiters.parts_eq_of_join b (hne f) (hne f')
  · intro h
    unfold render
    rw [h]

end

/-- One qualifier in two places: as the schema of a field without a table, and as the table of a
field without a schema. -/
inductive Field.Displaced : Field → Field → Prop where
  | intro (qualifier name : String) :
    Displaced ⟨some qualifier, none, name⟩ ⟨none, some qualifier, name⟩

theorem Field.Displaced.parts_eq {f f' : Field} (h : f.Displaced f') : f.parts = f'.parts := by
  obtain ⟨qualifier, name⟩ := h
  rfl

theorem Field.parts_eq_iff (f f' : Field) :
    f.parts = f'.parts ↔ f = f' ∨ f.Displaced f' ∨ f'.Displaced f := by
  constructor
  · intro h
    obtain ⟨schema, table, name⟩ := f
    obtain ⟨schema', table', name'⟩ := f'
    -- The number of parts is the number of qualifiers, so only one of them can be in two places.
    cases schema <;> cases table <;> cases schema' <;> cases table' <;>
      simp only [parts, Option.toList_none, Option.toList_some, List.nil_append, List.cons_append,
        List.cons.injEq, and_true, reduceCtorEq, and_false] at h
    case none.none.none.none =>
      exact Or.inl (by rw [h])
    case none.some.none.some =>
      exact Or.inl (by rw [h.1, h.2])
    case none.some.some.none =>
      rw [h.1, h.2]
      exact Or.inr (Or.inr (.intro _ _))
    case some.none.none.some =>
      rw [h.1, h.2]
      exact Or.inr (Or.inl (.intro _ _))
    case some.none.some.none =>
      exact Or.inl (by rw [h.1, h.2])
    case some.some.some.some =>
      exact Or.inl (by rw [h.1, h.2.1, h.2.2])
  · rintro (rfl | h | h)
    · rfl
    · exact h.parts_eq
    · exact h.parts_eq.symm

/-- A path gives no schema without a table. -/
theorem Field.not_displaced_of_path {path : String} {f : Field} (h : ofPath path = .ok f)
    (f' : Field) : ¬f.Displaced f' := by
  rintro ⟨qualifier, name⟩
  have hfield := eq_of_unqualified h rfl
  cases hfield

/-- Under every dialect at hand, two tables, or two tables under aliases, are the same if they are
written alike. Two fields that are written alike are the same, or one has as its schema what the
other has as its table; both of these are built from a name without points and a qualifier
beside it. Of two fields that are read from paths alone, the texts decide. -/
theorem Builtin.terms_told_apart (b : Builtin) :
    (∀ t t' : Table, t.render b.dialect.toLexicon = t'.render b.dialect.toLexicon ↔ t = t') ∧
    (∀ t t' : AliasedTable,
      t.render b.dialect.toLexicon = t'.render b.dialect.toLexicon ↔ t = t') ∧
    (∀ f f' : Field, f.render b.dialect.toLexicon = f'.render b.dialect.toLexicon ↔
      f = f' ∨ f.Displaced f' ∨ f'.Displaced f) ∧
    (∀ name qualifier, '.' ∉ name.toList →
      Field.make name none (some qualifier) = .ok ⟨some qualifier, none, name⟩ ∧
      Field.make name (some qualifier) none = .ok ⟨none, some qualifier, name⟩) ∧
    ∀ path path' f f', Field.ofPath path = .ok f → Field.ofPath path' = .ok f' →
      (f.render b.dialect.toLexicon = f'.render b.dialect.toLexicon ↔ f = f') := by
  have hfields : ∀ f f' : Field, f.render b.dialect.toLexicon = f'.render b.dialect.toLexicon ↔
      f = f' ∨ f.Displaced f' ∨ f'.Displaced f :=
    fun f f' => (f.render_eq_iff_parts b f').trans (f.parts_eq_iff f')
  refine ⟨Table.render_eq_iff b, AliasedTable.render_eq_iff b, hfields, ?_, ?_⟩
  · intro name qualifier h
    exact ⟨Field.make_of_no_point h none (some qualifier),
      Field.make_of_no_point h (some qualifier) none⟩
  · intro path path' f f' hf hf'
    rw [hfields]
    constructor
    · rintro (heq | h | h)
      · exact heq
      · exact absurd h (Field.not_displaced_of_path hf f')
      · exact absurd h (Field.not_displaced_of_path hf' f)
    · exact Or.inl

/-- A name in a schema and a name in a table: different fields of one text. -/
theorem Builtin.terms_told_apart_displaced :
    let inSchema : Field := ⟨some "a]", none, "*"⟩
    let inTable : Field := ⟨none, some "a]", "*"⟩
    Field.make "*" none (some "a]") = .ok inSchema ∧
      Field.make "*" (some "a]") none = .ok inTable ∧
      Field.ofPath "a].*" = .ok inTable ∧ inSchema ≠ inTable ∧
      inSchema.render mssql.dialect.toLexicon = inTable.render mssql.dialect.toLexicon ∧
      inTable.render mssql.dialect.toLexicon = "[a]]].*" := by
  intro inSchema inTable
  obtain ⟨-, -, hfields, hmake, hpaths⟩ := terms_told_apart mssql
  obtain ⟨hschema, htable⟩ := hmake "*" "a]" (by decide)
  have hpath : Field.ofPath "a].*" = .ok inTable := rfl
  have hsame := (hpaths "a].*" "a].*" inTable inTable hpath hpath).mpr rfl
  exact ⟨hschema, htable, hpath, by decide,
    (hfields inSchema inTable).mpr (Or.inr (Or.inl (.intro "a]" "*"))), by decide⟩

end TerseSql
