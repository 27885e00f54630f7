import TerseSql.Proofs.Extension
import TerseSql.Proofs.Name.Spelling
import TerseSql.Proofs.Shorthand.Term

/-!
# What joins refer to

Joins refer to the first source of the latest FROM that succeeded: to its alias, or to its name
if it is a table without one. No other clause changes what they refer to, and neither does a
FROM that fails.
-/

namespace TerseSql

/-! ## Shared names -/

/-- The names that a value lists as those of fields on both sides: a text, or a list of texts. -/
def Value.sharedNames : Value → Option (List String)
  | .text name => some [name]
  | .list items => items.mapM text?
  | _ => none

theorem Value.eq_map_of_texts {items : List Value} {names : List String}
    (h : items.mapM text? = some names) : items = names.map text := by
  induction items generalizing names with
  | nil =>
    cases h
    rfl
  | cons item items ih =>
    rw [List.mapM_cons] at h
    obtain ⟨name, hname, h⟩ := Option.bind_eq_some_iff.mp h
    obtain ⟨rest, hrest, h⟩ := Option.bind_eq_some_iff.mp h
    cases h
    cases item with
    | text s =>
      cases hname
      rw [List.map_cons, ← ih hrest]
    | _ => cases hname

namespace JoinTerm

variable {joined : String} {primary : Option String} {v : Value} {names : List String}

/-- A shared name is that of a field without a table, and needs a primary table. -/
theorem sameField_eq_ok_iff {name : String} {pair : Field × Field} :
    sameField joined primary name = .ok pair ↔
      ∃ f p, Field.ofPath name = .ok f ∧ f.table = none ∧ primary = some p ∧
        pair = (f.qualify joined, f.qualify p) := by
  unfold sameField
  constructor
  · intro h
    obtain ⟨f, hf, h⟩ := Built.exists_of_bind h
    by_cases hqualified : f.table.isSome = true
    · rw [if_pos hqualified] at h
      cases h
    · rw [if_neg hqualified] at h
      cases primary with
      | none => cases h
      | some p =>
        cases h
        exact ⟨f, p, hf, Option.not_isSome_iff_eq_none.mp hqualified, rfl, rfl⟩
  · rintro ⟨f, p, hf, htable, rfl, rfl⟩
    rw [hf]
    exact if_neg (by simp [htable])

theorem sameField_eq {name : String} {pair : Field × Field}
    (h : sameField joined primary name = .ok pair) :
    ∃ p, primary = some p ∧ pair = (⟨none, some joined, name⟩, ⟨none, some p, name⟩) := by
  obtain ⟨f, p, hf, htable, hp, rfl⟩ := sameField_eq_ok_iff.mp h
  refine ⟨p, hp, ?_⟩
  rw [Field.eq_of_unqualified hf htable]
  rfl

theorem onFields_shared (h : v.sharedNames = some names) :
    onFields joined primary v = names.mapM (sameField joined primary) := by
  cases v with
  | text name =>
    cases h
    rw [List.mapM_cons]
    cases hfield : sameField joined primary name with
    | error e => simp [onFields, hfield]
    | ok pair => simp [onFields, hfield]
  | list items =>
    show items.mapM (listedField joined primary) = _
    rw [Value.eq_map_of_texts h, List.mapM_map]
    rfl
  | _ => cases h

theorem onFields_eq {p : String} {pairs : List (Field × Field)} (hv : v.sharedNames = some names)
    (h : onFields joined (some p) v = .ok pairs) :
    pairs = names.map fun name => (⟨none, some joined, name⟩, ⟨none, some p, name⟩) := by
  rw [onFields_shared hv] at h
  have hpairs := Built.forall₂_of_mapM h
  have hmap : List.Forall₂ Eq (names.map fun name =>
      ((⟨none, some joined, name⟩, ⟨none, some p, name⟩) : Field × Field)) pairs := by
    refine List.forall₂_map_left_iff.mpr (hpairs.imp ?_)
    intro name pair hpair
    obtain ⟨_, hp, rfl⟩ := sameField_eq hpair
    cases hp
    rfl
  rw [List.forall₂_eq_eq_eq] at hmap
  exact hmap.symm

/-- Without a primary table, no names can be shared with it. -/
theorem names_eq_nil {pairs : List (Field × Field)} (hv : v.sharedNames = some names)
    (h : onFields joined none v = .ok pairs) : names = [] := by
  rw [onFields_shared hv] at h
  cases names with
  | nil => rfl
  | cons name rest =>
    obtain ⟨pair, hpair⟩ := Built.exists_of_mem_mapM h List.mem_cons_self
    obtain ⟨_, hp, _⟩ := sameField_eq hpair
    cases hp

/-- What is read from an entry: the table that its key spells, and fields to join it on. -/
theorem exists_of_entry {l : Lexicon} {primary : Option Primary} {e : Key × Value} {text : String}
    (h : Join.entry l primary e = .ok text) :
    ∃ key marker t reference on keyword, e.1 = .name key ∧
      Spelled key.toList marker t ∧ Primary.reference? primary = .ok reference ∧
      onFields t.reference reference e.2 = .ok on ∧
      l.join (marker.getD "><") = some keyword ∧
      text = keyword ++ " " ++ t.render l ++ " ON " ++ Text.join " AND " (on.map (equality l)) := by
  obtain ⟨key, v⟩ := e
  cases key with
  | raw r => cases h
  | name key =>
    obtain ⟨term, hterm, h⟩ := Built.exists_of_bind h
    obtain ⟨k, t, reference, on, hkey, ht, hreference, hon, rfl⟩ := ofEntry_eq_ok_iff.mp hterm
    unfold render at h
    dsimp only at h
    split at h
    · next keyword hkeyword =>
      cases h
      exact ⟨key, k.marker, t, reference, on, keyword, rfl, spelled_of_join? hkey ht,
        hreference, hon, hkeyword, rfl⟩
    · cases h

end JoinTerm

/-! ## The latest FROM -/

namespace Clause

def newSource : Clause × Outcome → Option Source
  | (.fromSources sources, o) => if o.error.isNone then sources.head? else none
  | _ => none

def latestSource (calls : List (Clause × Outcome)) : Option Source :=
  calls.reverse.findSome? newSource

theorem newSource_of_error {call : Clause × Outcome} (h : call.2.error ≠ none) :
    newSource call = none := by
  obtain ⟨c, o⟩ := call
  cases c with
  | fromSources sources => exact if_neg fun hok => h (Option.isNone_iff_eq_none.mp hok)
  | _ => rfl

theorem latestSource_cons (call : Clause × Outcome) (rest : List (Clause × Outcome)) :
    latestSource (call :: rest) = (latestSource rest).or (newSource call) := by
  unfold latestSource
  rw [List.reverse_cons, List.findSome?_append, List.findSome?_singleton]

end Clause

/-- What joins refer to once a source is the latest. -/
inductive Source.Refers : Option Source → Option Primary → Prop where
  | nothing : Refers none none
  | raw (r : Raw) : Refers (some (.raw r)) none
  | table {text : String} {t : AliasedTable} : t.Spelled text.toList →
    Refers (some (.table text)) (some (.named t.reference))
  | named {q : Query} {aliasName : String} : q.wrapping = .named aliasName →
    Refers (some (.query q)) (some (.named aliasName))
  | unaliased {q : Query} : (∀ aliasName, q.wrapping ≠ .named aliasName) →
    Refers (some (.query q)) (some .unaliased)

namespace Source

variable {d : Dialect}

theorem refers_source {source : Source} {text : String} {primary : Option Primary}
    (h : Statement.source d source = .ok (text, primary)) : Refers (some source) primary := by
  cases source with
  | table name =>
    unfold Statement.source at h
    obtain ⟨t, ht, h⟩ := Built.exists_of_bind h
    cases h
    exact .table (AliasedTable.spelled_of_text ht)
  | query q =>
    cases h
    cases hwrapping : q.wrapping with
    | named aliasName => exact .named hwrapping
    | _ => exact .unaliased fun aliasName => by rw [hwrapping]; exact fun h => nomatch h
  | raw r =>
    cases h
    exact .raw r

theorem refers_sourceList {sources : List Source} {list : String} {primary : Option Primary}
    (h : Statement.sourceList d sources = .ok (list, primary)) :
    ∃ first, sources.head? = some first ∧ Refers (some first) primary := by
  unfold Statement.sourceList at h
  obtain ⟨rendered, hrendered, h⟩ := Built.exists_of_bind h
  cases Built.forall₂_of_mapM hrendered with
  | nil => cases h
  | cons hfirst _ =>
    cases h
    exact ⟨_, rfl, refers_source hfirst⟩

end Source

namespace Clause

open Source

variable (d : Dialect)

/-- A call leaves joins to refer to the source of a FROM that succeeded, and otherwise to what
they referred to. -/
theorem refers_step {s : Statement} {latest : Option Source} (h : Refers latest s.primary)
    (c : Clause) :
    Refers ((newSource (c, Call.run d s (.clause c))).or latest)
      (Call.run d s (.clause c)).statement.primary := by
  by_cases hok : (Call.run d s (.clause c)).error = none
  · have hleaves := Call.leaves_of_success d hok
    cases c with
    | fromSources sources =>
      obtain ⟨terms, primary, hextension, hstatement⟩ :=
        Call.exists_extension hok fun hwindow => hwindow
      unfold extension at hextension
      obtain ⟨⟨list, found⟩, hlist, hextension⟩ := Built.exists_of_bind hextension
      cases hextension
      obtain ⟨first, hfirst, hrefers⟩ := refers_sourceList hlist
      have hnew : newSource (.fromSources sources, Call.run d s (.clause (.fromSources sources))) =
          some first := (if_pos (Option.isNone_iff_eq_none.mpr hok)).trans hfirst
      rw [hnew, hstatement]
      exact hrefers
    | limit v =>
      rw [hleaves.1]
      exact h
    | _ =>
      have hgrows : s.Grows _ := hleaves
      rw [hgrows.primary]
      exact h
  · rw [newSource_of_error hok, Call.statement_of_error d hok]
    exact h

theorem refers_final {s : Statement} {latest : Option Source} (h : Refers latest s.primary)
    (calls : List Clause) :
    Refers ((latestSource (trace d calls s)).or latest) (final d s calls).primary := by
  induction calls generalizing s latest with
  | nil => exact h
  | cons c rest ih =>
    have hrest := ih (refers_step d h c)
    rw [← Option.or_assoc, ← latestSource_cons] at hrest
    exact hrest

theorem trace_split {calls : List Clause} {s : Statement} {past future : List (Clause × Outcome)}
    {c : Clause} {o : Outcome} (h : trace d calls s = past ++ (c, o) :: future) :
    trace d (past.map Prod.fst) s = past ∧
      o = Call.run d (final d s (past.map Prod.fst)) (.clause c) := by
  induction past generalizing calls s with
  | nil =>
    cases calls with
    | nil => cases h
    | cons c' rest =>
      cases h
      exact ⟨rfl, rfl⟩
  | cons call past ih =>
    cases calls with
    | nil => cases h
    | cons c' rest =>
      obtain ⟨hcall, hrest⟩ := List.cons.inj h
      obtain ⟨htrace, ho⟩ := ih hrest
      subst hcall
      exact ⟨congrArg (_ :: ·) htrace, ho⟩

end Clause

/-! ## Joins -/

/-- A join as it is written. Where its value lists names of fields, each of them is that of a
field of the joined table on the left and of what is referred to on the right. -/
def Join.IsWritten (d : Dialect) (reference : String) (e : Key × Value) (text : String) : Prop :=
  ∀ names, e.2.sharedNames = some names → ∃ key marker t keyword, e.1 = .name key ∧
    (∀ other, JoinTerm.Spelled key.toList marker other ↔ other = t) ∧
    d.join (marker.getD "><") = some keyword ∧
    text = keyword ++ " " ++ t.render d.toLexicon ++ " ON " ++
      Text.join " AND " (names.map fun name =>
        Field.render d.toLexicon ⟨none, some t.reference, name⟩ ++ "=" ++
          Field.render d.toLexicon ⟨none, some reference, name⟩)

namespace Statement

variable {d : Dialect} {s : Statement} {joins : Dict Value}

theorem exists_joins (hok : (Call.run d s (.clause (.join joins))).error = none) :
    ∃ texts, joins.entries.mapM (Join.entry d.toLexicon s.primary) = .ok texts ∧
      (Call.run d s (.clause (.join joins))).statement = s.push [Text.join " " texts] := by
  obtain ⟨terms, primary, hextension, hstatement⟩ :=
    Call.exists_extension hok fun hwindow => hwindow
  unfold Clause.extension at hextension
  obtain ⟨text, htext, hextension⟩ := Built.exists_of_bind hextension
  cases hextension
  unfold Join.render at htext
  obtain ⟨texts, htexts, htext⟩ := Built.exists_of_bind htext
  cases htext
  exact ⟨texts, htexts, hstatement⟩

theorem joins_written {reference : String} (hprimary : s.primary = some (.named reference))
    (hok : (Call.run d s (.clause (.join joins))).error = none) :
    ∃ texts, (Call.run d s (.clause (.join joins))).statement = s.push [Text.join " " texts] ∧
      List.Forall₂ (Join.IsWritten d reference) joins.entries texts := by
  obtain ⟨texts, htexts, hstatement⟩ := exists_joins hok
  refine ⟨texts, hstatement, (Built.forall₂_of_mapM htexts).imp ?_⟩
  intro e text htext names hnames
  obtain ⟨key, marker, t, p, on, keyword, hkey, hspelled, hp, hon, hkeyword, rfl⟩ :=
    JoinTerm.exists_of_entry htext
  rw [hprimary] at hp
  cases hp
  rw [JoinTerm.onFields_eq hnames hon, List.map_map]
  refine ⟨key, marker, t, keyword, hkey, fun other => ⟨fun hother => ?_, ?_⟩, hkeyword, rfl⟩
  · exact hother.unique hspelled
  · rintro rfl
    exact hspelled

theorem joins_unaliased (hprimary : s.primary = some .unaliased) (hjoins : joins.entries ≠ []) :
    (Call.run d s (.clause (.join joins))).error ≠ none := by
  intro hok
  obtain ⟨texts, htexts, -⟩ := exists_joins hok
  obtain ⟨e, he⟩ := List.exists_mem_of_ne_nil _ hjoins
  obtain ⟨text, htext⟩ := Built.exists_of_mem_mapM htexts he
  obtain ⟨_, _, _, reference, _, _, _, _, hreference, _⟩ := JoinTerm.exists_of_entry htext
  rw [hprimary] at hreference
  cases hreference

theorem joins_without_primary (hprimary : s.primary = none) {e : Key × Value}
    (he : e ∈ joins.entries) {names : List String} (hnames : e.2.sharedNames = some names)
    (hne : names ≠ []) : (Call.run d s (.clause (.join joins))).error ≠ none := by
  intro hok
  obtain ⟨texts, htexts, -⟩ := exists_joins hok
  obtain ⟨text, htext⟩ := Built.exists_of_mem_mapM htexts he
  obtain ⟨_, _, t, reference, on, _, _, _, hreference, hon, _⟩ := JoinTerm.exists_of_entry htext
  rw [hprimary] at hreference
  cases hreference
  exact hne (JoinTerm.names_eq_nil hnames hon)

end Statement

/-- A join that succeeds refers to the first source of the latest FROM that succeeded before it,
by its alias or by the name of a table without one. Joins on a query without an alias fail, and
so do those of fields of shared names where the source is raw SQL or missing. -/
theorem Clause.joins_follow_latest (d : Dialect) {calls : List Clause}
    {past future : List (Clause × Outcome)} {joins : Dict Value} {o : Outcome}
    (htrace : trace d calls .empty = past ++ (.join joins, o) :: future)
    (hjoins : joins.entries ≠ []) :
    let before := final d .empty (past.map Prod.fst)
    let refersTo := fun reference => ∃ texts, o.statement = before.push [Text.join " " texts] ∧
      List.Forall₂ (Join.IsWritten d reference) joins.entries texts
    (∀ text, latestSource past = some (.table text) →
      ∃ t, (∀ other : AliasedTable, other.Spelled text.toList ↔ other = t) ∧
        (o.error = none → refersTo t.reference)) ∧
    (∀ q, latestSource past = some (.query q) →
      (∀ aliasName, q.wrapping = .named aliasName → o.error = none → refersTo aliasName) ∧
      ((∀ aliasName, q.wrapping ≠ .named aliasName) → o.error ≠ none)) ∧
    (latestSource past = none ∨ (∃ r, latestSource past = some (.raw r)) →
      ∀ e ∈ joins.entries, ∀ names, e.2.sharedNames = some names → names ≠ [] →
        o.error ≠ none) := by
  obtain ⟨hpast, rfl⟩ := trace_split d htrace
  have hrefers := refers_final d (s := Statement.empty) .nothing (past.map Prod.fst)
  rw [hpast, Option.or_none] at hrefers
  generalize final d .empty (past.map Prod.fst) = s at hrefers
  generalize latestSource past = latest at hrefers
  generalize hprimary : s.primary = primary at hrefers
  refine ⟨?_, ?_, ?_⟩
  · rintro text rfl
    cases hrefers with
    | @table _ t ht =>
      refine ⟨t, fun other => ⟨fun hother => hother.unique ht, ?_⟩, Statement.joins_written hprimary⟩
      rintro rfl
      exact ht
  · rintro q rfl
    cases hrefers with
    | @named _ found hfound =>
      refine ⟨fun aliasName halias => ?_, fun hnone => absurd hfound (hnone found)⟩
      rw [hfound] at halias
      cases halias
      exact Statement.joins_written hprimary
    | unaliased hnone =>
      refine ⟨fun aliasName halias => absurd halias (hnone aliasName), fun _ => ?_⟩
      exact Statement.joins_unaliased hprimary hjoins
  · intro hlatest e he names hnames hne
    have hnone : primary = none := by
      cases hrefers with
      | nothing => rfl
      | raw r => rfl
      | _ => simp at hlatest
    rw [hnone] at hprimary
    exact Statement.joins_without_primary hprimary he hnames hne

/-- A FROM that fails comes between the one that a join refers to and the join. -/
theorem Clause.joins_follow_latest_after_failure :
    let d := Builtin.generic.dialect
    let sources : List Clause := [.fromSources [.table "users"],
      .fromSources [.table "app.people(p)", .table "teams"], .fromSources []]
    let joins : Dict Value :=
      .ofList [(.name "[>]orders(o)", .list [.text "id", .text "org"])]
    let before := final d .empty sources
    let o := Call.run d before (.clause (.join joins))
    o.error = none ∧
      (o.statement = before.push ["LEFT JOIN \x22orders\x22 AS \x22o\x22 ON " ++
        "\x22o\x22.\x22id\x22=\x22p\x22.\x22id\x22 AND \x22o\x22.\x22org\x22=\x22p\x22.\x22org\x22"]) ∧
      ∃ texts, o.statement = before.push [Text.join " " texts] ∧
        List.Forall₂ (Join.IsWritten d "p") joins.entries texts := by
  intro d sources joins before o
  have htrace : trace d (sources ++ [.join joins]) .empty =
      trace d sources .empty ++ [(.join joins, o)] := rfl
  obtain ⟨htable, -⟩ := joins_follow_latest d htrace fun hnil => nomatch hnil
  obtain ⟨t, ht, hrefer⟩ := htable "app.people(p)" rfl
  have hread : AliasedTable.ofText "app.people(p)" = .ok ⟨⟨some "app", "people"⟩, some "p"⟩ := rfl
  rw [← (ht _).mp (AliasedTable.spelled_of_text hread)] at hrefer
  exact ⟨rfl, rfl, hrefer rfl⟩

end TerseSql
