import TerseSql.Proofs.Joined
import TerseSql.Proofs.Lifted

/-!
# Fields of one name

A join on fields that have one name on both sides lists the names, or pairs each of them with
itself, and a single name may stand alone. The three are read as the same join: a name with a
point in it is refused in each, and any other is the name of a field of both tables.
-/

namespace TerseSql

/-! ## Names without a point -/

theorem Field.ofPath_iff {name : String} {f : Field} :
    ofPath name = .ok f ∧ f.table = none ↔ '.' ∉ name.toList ∧ f = ⟨none, none, name⟩ := by
  constructor
  · rintro ⟨hf, htable⟩
    have heq := eq_of_unqualified hf htable
    subst heq
    have hparts := parts_make hf
    refine ⟨(isDotted_split name).no_point name ?_, rfl⟩
    have hsplit : Text.split '.' name = [name] := hparts.symm
    rw [hsplit]
    exact List.mem_singleton_self name
  · rintro ⟨hpoint, rfl⟩
    exact ⟨make_of_no_point hpoint none none, rfl⟩

namespace Built

variable {α β : Type}

/-- Steps that succeed on the members with a property, each with a value that is known. -/
theorem mapM_eq_ok_iff {f : α → Built β} {P : α → Prop} {g : α → β}
    (h : ∀ a b, f a = .ok b ↔ P a ∧ b = g a) {l : List α} {bs : List β} :
    l.mapM f = .ok bs ↔ (∀ a ∈ l, P a) ∧ bs = l.map g := by
  induction l generalizing bs with
  | nil =>
    constructor
    · intro hnil
      cases hnil
      exact ⟨List.forall_mem_nil _, rfl⟩
    · rintro ⟨-, rfl⟩
      rfl
  | cons a l ih =>
    rw [List.mapM_cons, cons_eq_ok_iff, List.forall_mem_cons, List.map_cons]
    constructor
    · rintro ⟨b, rest, hb, hrest, rfl⟩
      obtain ⟨ha, rfl⟩ := (h a b).mp hb
      obtain ⟨hl, rfl⟩ := ih.mp hrest
      exact ⟨⟨ha, hl⟩, rfl⟩
    · rintro ⟨⟨ha, hl⟩, rfl⟩
      exact ⟨g a, l.map g, (h a _).mpr ⟨ha, rfl⟩, ih.mpr ⟨hl, rfl⟩, rfl⟩

end Built

/-! ## Spellings -/

/-- A value that asks for fields of these names on both sides. -/
inductive Value.Shares : List String → Value → Prop where
  | listed (names : List String) : Shares names (.list (names.map .text))
  | paired {names : List String} : names.Nodup →
    Shares names (.dict (.ofList (names.map fun name => (.name name, .text name))))
  | alone (name : String) : Shares [name] (.text name)

namespace JoinTerm

variable {joined primary name : String} {pair : Field × Field}

/-- The fields of one name, that of the joined table first. -/
def namesakes (joined primary name : String) : Field × Field :=
  (⟨none, some joined, name⟩, ⟨none, some primary, name⟩)

theorem sameField_iff :
    sameField joined (some primary) name = .ok pair ↔
      '.' ∉ name.toList ∧ pair = namesakes joined primary name := by
  rw [sameField_eq_ok_iff]
  constructor
  · rintro ⟨f, p, hf, htable, hp, rfl⟩
    obtain ⟨hpoint, rfl⟩ := Field.ofPath_iff.mp ⟨hf, htable⟩
    cases hp
    exact ⟨hpoint, rfl⟩
  · rintro ⟨hpoint, rfl⟩
    obtain ⟨hf, htable⟩ := Field.ofPath_iff.mpr ⟨hpoint, rfl⟩
    exact ⟨_, primary, hf, htable, rfl, rfl⟩

theorem leftField_iff {f : Field} :
    leftField (.name name) = .ok f ↔ '.' ∉ name.toList ∧ f = ⟨none, none, name⟩ := by
  rw [← Field.ofPath_iff]
  constructor
  · intro h
    unfold leftField at h
    obtain ⟨g, hg, h⟩ := Built.exists_of_bind h
    by_cases hqualified : g.table.isSome = true
    · rw [if_pos hqualified] at h
      cases h
    · rw [if_neg hqualified] at h
      cases h
      exact ⟨hg, Option.not_isSome_iff_eq_none.mp hqualified⟩
  · rintro ⟨hf, htable⟩
    show (Field.ofPath name >>= _) = _
    rw [hf]
    exact if_neg (by simp [htable])

theorem rightField_of_no_point (h : '.' ∉ name.toList) :
    rightField (some primary) (.text name) = .ok ⟨none, some primary, name⟩ := by
  obtain ⟨hf, -⟩ := Field.ofPath_iff.mpr ⟨h, rfl⟩
  unfold rightField
  dsimp only
  rw [hf]
  rfl

/-- A name paired with itself is refused on the left if it has a point, and else it is taken for
both fields. -/
theorem fieldPair_iff :
    fieldPair joined (some primary) (.name name, .text name) = .ok pair ↔
      '.' ∉ name.toList ∧ pair = namesakes joined primary name := by
  constructor
  · intro h
    unfold fieldPair at h
    obtain ⟨left, hleft, h⟩ := Built.exists_of_bind h
    obtain ⟨hpoint, rfl⟩ := leftField_iff.mp hleft
    rw [rightField_of_no_point hpoint] at h
    cases h
    exact ⟨hpoint, rfl⟩
  · rintro ⟨hpoint, rfl⟩
    simp only [fieldPair, leftField_iff.mpr ⟨hpoint, rfl⟩, rightField_of_no_point hpoint]
    rfl

variable {v : Value} {names : List String}

theorem onFields_iff (h : v.Shares names) {on : List (Field × Field)} :
    onFields joined (some primary) v = .ok on ↔
      (∀ name ∈ names, '.' ∉ name.toList) ∧ on = names.map (namesakes joined primary) := by
  cases h with
  | listed _ =>
    show (names.map Value.text).mapM (listedField joined (some primary)) = _ ↔ _
    rw [List.mapM_map]
    exact Built.mapM_eq_ok_iff fun _ _ => sameField_iff
  | paired hnodup =>
    have hentries : (Dict.ofList (names.map fun name => (Key.name name, Value.text name))).entries =
        names.map fun name => (.name name, .text name) := by
      refine Dict.entries_ofList ?_
      rw [List.map_map]
      exact hnodup.map fun _ _ heq => Key.name.inj heq
    show (Dict.ofList _).entries.mapM _ = _ ↔ _
    rw [hentries, List.mapM_map]
    exact Built.mapM_eq_ok_iff fun _ _ => fieldPair_iff
  | alone name =>
    have hshared : (Value.text name).sharedNames = some [name] := rfl
    rw [onFields_shared hshared]
    exact Built.mapM_eq_ok_iff fun _ _ => sameField_iff

/-- The join of a table with another one on fields of these names, as its key asks for it. -/
structure IsOnNames (key reference : String) (names : List String) (t : JoinTerm) : Prop where
  key_eq : ∃ k, Grammar.join? key = some k ∧ k.marker.getD "><" = t.marker ∧
    AliasedTable.make k.path k.aliasName = .ok t.table
  no_point : ∀ name ∈ names, '.' ∉ name.toList
  on_eq : t.on = names.map (namesakes t.table.reference reference)

theorem ofEntry_iff (h : v.Shares names) {key reference : String} {t : JoinTerm} :
    ofEntry key v (some (.named reference)) = .ok t ↔ IsOnNames key reference names t := by
  rw [ofEntry_eq_ok_iff]
  constructor
  · rintro ⟨k, table, _, on, hkey, htable, hp, hon, rfl⟩
    cases hp
    obtain ⟨hpoint, rfl⟩ := (onFields_iff h).mp hon
    exact ⟨⟨k, hkey, rfl, htable⟩, hpoint, rfl⟩
  · rintro ⟨⟨k, hkey, hmarker, htable⟩, hpoint, hon⟩
    obtain ⟨marker, table, on⟩ := t
    subst hmarker
    exact ⟨k, table, _, on, hkey, htable, rfl, (onFields_iff h).mpr ⟨hpoint, hon⟩, rfl⟩

theorem read_congr {v w : Value} (hv : v.Shares names) (hw : w.Shares names)
    (key reference : String) :
    (ofEntry key v (some (.named reference))).toOption =
      (ofEntry key w (some (.named reference))).toOption := by
  refine Option.ext fun t => ?_
  rw [Built.toOption_eq_some_iff, Built.toOption_eq_some_iff, ofEntry_iff hv, ofEntry_iff hw]

end JoinTerm

namespace Join

variable {l : Lexicon} {v : Value} {names : List String} {key reference : String}

theorem entry_iff (h : v.Shares names) {text : String} :
    entry l (some (.named reference)) (.name key, v) = .ok text ↔
      ∃ t keyword, JoinTerm.IsOnNames key reference names t ∧ l.join t.marker = some keyword ∧
        text = keyword ++ " " ++ t.table.render l ++ " ON " ++
          Text.join " AND " (names.map fun name =>
            Field.render l ⟨none, some t.table.reference, name⟩ ++ "=" ++
              Field.render l ⟨none, some reference, name⟩) := by
  constructor
  · intro hwritten
    obtain ⟨t, hread, hwritten⟩ := Built.exists_of_bind hwritten
    have hshared := (JoinTerm.ofEntry_iff h).mp hread
    unfold JoinTerm.render at hwritten
    split at hwritten
    · next keyword hkeyword =>
      cases hwritten
      refine ⟨t, keyword, hshared, hkeyword, ?_⟩
      rw [hshared.on_eq, List.map_map]
      rfl
    · cases hwritten
  · rintro ⟨t, keyword, hshared, hkeyword, rfl⟩
    show (JoinTerm.ofEntry key v _ >>= _) = _
    rw [(JoinTerm.ofEntry_iff h).mpr hshared]
    show t.render l = _
    unfold JoinTerm.render
    rw [hkeyword, hshared.on_eq, List.map_map]
    rfl

theorem written_congr {w : Value} (hv : v.Shares names) (hw : w.Shares names) :
    (entry l (some (.named reference)) (.name key, v)).toOption =
      (entry l (some (.named reference)) (.name key, w)).toOption := by
  refine Option.ext fun text => ?_
  rw [Built.toOption_eq_some_iff, Built.toOption_eq_some_iff, entry_iff hv, entry_iff hw]

/-- A join on fields of one name is read and written alike whether the names are listed or each is
paired with itself, and a single name may stand alone. It is written if the key can be read, the
dialect has the join that it asks for and no name has a point in it. -/
theorem shared_names_agree (d : Dialect) (key reference : String) {names : List String}
    (hnames : names.Nodup) :
    let read := fun v => (JoinTerm.ofEntry key v (some (.named reference))).toOption
    let written := fun v => (entry d.toLexicon (some (.named reference)) (.name key, v)).toOption
    let listed := Value.list (names.map .text)
    let paired := Value.dict (.ofList (names.map fun name => (.name name, .text name)))
    (read listed = read paired ∧ written listed = written paired) ∧
      (∀ name, names = [name] →
        read (.text name) = read listed ∧ written (.text name) = written listed) ∧
      ∀ text, written listed = some text ↔
        ∃ t keyword, JoinTerm.IsOnNames key reference names t ∧ d.join t.marker = some keyword ∧
          text = keyword ++ " " ++ t.table.render d.toLexicon ++ " ON " ++
            Text.join " AND " (names.map fun name =>
              Field.render d.toLexicon ⟨none, some t.table.reference, name⟩ ++ "=" ++
                Field.render d.toLexicon ⟨none, some reference, name⟩) := by
  intro read written listed paired
  have hlisted : listed.Shares names := .listed names
  have hpaired : paired.Shares names := .paired hnames
  refine ⟨⟨JoinTerm.read_congr hlisted hpaired key reference, written_congr hlisted hpaired⟩,
    ?_, fun text => ?_⟩
  · rintro name rfl
    have halone : (Value.text name).Shares [name] := .alone name
    exact ⟨JoinTerm.read_congr halone hlisted key reference, written_congr halone hlisted⟩
  · exact Built.toOption_eq_some_iff.trans (entry_iff hlisted)

/-- Two names, one of them a star, and a marker and an alias in the key. -/
theorem shared_names_agree_star :
    ["id", "*"].Nodup ∧
      (entry Builtin.mssql.dialect.toLexicon (some (.named "p")) (.name "[>]app.users(u)",
        .dict (.ofList [(.name "id", .text "id"), (.name "*", .text "*")]))).toOption =
        some "LEFT JOIN [app].[users] AS [u] ON [u].[id]=[p].[id] AND [u].*=[p].*" := by
  have hnames : ["id", "*"].Nodup := by decide
  obtain ⟨⟨-, hpaired⟩, -⟩ :=
    shared_names_agree Builtin.mssql.dialect "[>]app.users(u)" "p" hnames
  exact ⟨hnames, hpaired.symm.trans rfl⟩

end Join

end TerseSql
