import TerseSql.Proofs.Added
import TerseSql.Proofs.Atomic
import TerseSql.Proofs.Result

/-!
# Rows of an insertion

An insertion that succeeds adds a tuple for each of its rows. A record that follows another one
has the keys of the first, and its values are looked up by the texts of these.
-/

namespace TerseSql

namespace Statement

/-! ## Keys of records -/

theorem sameKeys_iff {a b : Dict Value} :
    sameKeys a b = true ↔ ∀ k, k ∈ a.keys ↔ k ∈ b.keys := by
  unfold sameKeys
  simp only [Bool.and_eq_true, List.all_eq_true, List.contains_iff_mem]
  exact ⟨fun h k => ⟨h.1 k, h.2 k⟩, fun h => ⟨fun k => (h k).mp, fun k => (h k).mpr⟩⟩

theorem consistent_iff {first : Dict Value} {rows : List Value} :
    consistent first rows = true ↔
      ∀ record, .dict record ∈ rows → ∀ k, k ∈ record.keys ↔ k ∈ first.keys := by
  unfold consistent
  rw [List.all_eq_true]
  constructor
  · intro h record hrecord
    exact sameKeys_iff.mp (h (.dict record) hrecord)
  · intro h row hrow
    cases row with
    | dict record => exact sameKeys_iff.mpr (h record hrow)
    | _ => rfl

/-- No list of columns is given; an empty one is none. -/
def Unlisted (columns : Option (List Column)) : Prop :=
  ∀ given, columns = some given → given = []

theorem insertColumns_unlisted {columns : Option (List Column)} (h : Unlisted columns)
    (first : Value) (rest : List Value) :
    insertColumns columns first rest = insertColumns none first rest := by
  have hnone : columns.filter (!·.isEmpty) = none := by
    cases columns with
    | none => rfl
    | some given =>
      rw [h given rfl]
      rfl
  unfold insertColumns
  rw [hnone]
  rfl

/-- The columns of an insertion without a list are the keys of a record that comes first, and
every other record has these keys. -/
theorem insertColumns_record {first : Dict Value} {rest : List Value}
    {found : Option (List Column)} (h : insertColumns none (.dict first) rest = .ok found) :
    found = some (first.keys.map .ofKey) ∧
      ∀ record, .dict record ∈ .dict first :: rest → ∀ k, k ∈ record.keys ↔ k ∈ first.keys := by
  unfold insertColumns at h
  dsimp only [Option.filter] at h
  by_cases hconsistent : consistent first rest = true
  · rw [if_pos hconsistent] at h
    cases h
    refine ⟨rfl, fun record hrecord k => ?_⟩
    rcases List.mem_cons.mp hrecord with heq | hrest
    · cases heq
      exact Iff.rfl
    · exact consistent_iff.mp hconsistent record hrest k
  · rw [if_neg hconsistent] at h
    cases h

theorem insertColumns_positional {first : Value} (h : ∀ record, first ≠ .dict record)
    (rest : List Value) : insertColumns none first rest = .ok none := by
  unfold insertColumns
  cases first with
  | dict record => exact absurd rfl (h record)
  | _ => rfl

/-! ## Tuples -/

def IsTuple (d : Dialect) (values : List Value) (tuple : String) : Prop :=
  ∃ literals, List.Forall₂ (fun v s => d.literal v = .ok s) values literals ∧
    tuple = "(" ++ Text.join "," literals ++ ")"

variable {d : Dialect} {s : Statement} {table : String} {columns : Option (List Column)}
  {first : Value} {rest : List Value}

theorem exists_values {row : Value} {tuple : String} (h : insertRow d columns row = .ok tuple) :
    ∃ values, rowValues columns row = .ok values ∧ IsTuple d values tuple := by
  unfold insertRow at h
  obtain ⟨values, hvalues, h⟩ := Built.exists_of_bind h
  obtain ⟨literals, hliterals, h⟩ := Built.exists_of_bind h
  cases h
  exact ⟨values, hvalues, literals, Built.forall₂_of_mapM hliterals, rfl⟩

theorem exists_insertBody {terms : List String}
    (h : insertTerms d table columns (first :: rest) = .ok terms) :
    ∃ t found list body, Table.ofText table = .ok t ∧
      insertColumns columns first rest = .ok found ∧ columnList d found = .ok list ∧
      insertBody d found first rest = .ok body ∧
      terms = "INSERT INTO" :: t.render d.toLexicon :: list ++ body := by
  unfold insertTerms at h
  obtain ⟨t, ht, h⟩ := Built.exists_of_bind h
  obtain ⟨found, hfound, h⟩ := Built.exists_of_bind h
  obtain ⟨list, hlist, h⟩ := Built.exists_of_bind h
  obtain ⟨body, hbody, h⟩ := Built.exists_of_bind h
  cases h
  exact ⟨t, found, list, body, ht, hfound, hlist, hbody, rfl⟩

/-- An insertion of rows is a head and a tuple for each row. -/
theorem exists_tuples {terms : List String}
    (h : insertTerms d table columns (first :: rest) = .ok terms)
    (hfirst : ∀ q, first ≠ .query q) :
    ∃ t found list tuples, Table.ofText table = .ok t ∧
      insertColumns columns first rest = .ok found ∧ columnList d found = .ok list ∧
      List.Forall₂ (fun row tuple => insertRow d found row = .ok tuple) (first :: rest) tuples ∧
      terms = "INSERT INTO" :: t.render d.toLexicon :: list ++ ["VALUES", Text.join "," tuples] := by
  obtain ⟨t, found, list, body, ht, hfound, hlist, hbody, rfl⟩ := exists_insertBody h
  rw [insertBody_of_not_query hfirst] at hbody
  obtain ⟨tuples, htuples, hbody⟩ := Built.exists_of_bind hbody
  cases hbody
  exact ⟨t, found, list, tuples, ht, hfound, hlist, Built.forall₂_of_mapM htuples, rfl⟩

/-- Where a query comes first, every row is one. -/
theorem not_record_of_query {q : Query} {terms : List String}
    (h : insertTerms d table columns (.query q :: rest) = .ok terms) (record : Dict Value) :
    .dict record ∉ Value.query q :: rest := by
  obtain ⟨_, _, _, body, -, -, -, hbody, -⟩ := exists_insertBody h
  unfold insertBody at hbody
  obtain ⟨chains, hchains, -⟩ := Built.exists_of_bind hbody
  intro hrecord
  rcases List.mem_cons.mp hrecord with heq | hrest
  · cases heq
  · obtain ⟨chain, hchain⟩ := Built.exists_of_mem_mapM hchains hrest
    cases hchain

theorem run_insert_congr {rows rows' : List Value}
    (h : insertTerms d table columns rows = insertTerms d table columns rows') :
    Call.run d s (.clause (.insert table rows columns)) =
      Call.run d s (.clause (.insert table rows' columns)) := by
  have hrun : ((Clause.insert table rows columns).add d).run s =
      ((Clause.insert table rows' columns).add d).run s := by
    refine (adds_insert d table rows columns s).trans ?_
    rw [h]
    exact (adds_insert d table rows' columns s).symm
  rw [Call.run_clause, Call.run_clause, hrun]

/-- An insertion that succeeds adds its terms. -/
theorem exists_insertTerms {rows : List Value}
    (h : (Call.run d s (.clause (.insert table rows columns))).error = none) :
    ∃ terms, insertTerms d table columns rows = .ok terms ∧
      (Call.run d s (.clause (.insert table rows columns))).statement = s.push terms := by
  have hadds : ((Clause.insert table rows columns).add d).Adds (insertTerms d table columns rows) :=
    adds_insert d table rows columns
  obtain ⟨terms, hterms, hrun⟩ := Plan.exists_terms hadds h
  exact ⟨terms, hterms, congrArg Outcome.statement hrun⟩

/-! ## Entries that are listed -/

/-- The entries of a record whose values its tuple lists: those found by the keys of the first
row, if that is a record, and else all of them in their order. -/
def listed (first : Value) (record : Dict Value) : List (Key × Value) :=
  match first with
  | .dict f => f.keys.filterMap fun k => record.entries.find? fun e => e.1.text = k.text
  | _ => record.entries

theorem recordKey_ofKey (k : Key) : (Column.ofKey k).recordKey = k.text := by
  cases k <;> rfl

theorem exists_found {record : Dict Value} {k : Key} (h : k ∈ record.keys) :
    ∃ e, record.entries.find? (fun e => e.1.text = k.text) = some e := by
  obtain ⟨e, he, rfl⟩ := List.mem_map.mp h
  exact Option.isSome_iff_exists.mp (List.find?_isSome.mpr ⟨e, he, decide_eq_true rfl⟩)

theorem values_listed {record : Dict Value} {keys : List Key} (h : ∀ k ∈ keys, k ∈ record.keys) :
    ((keys.map Column.ofKey).map fun c =>
        ((record.entries.find? fun e => e.1.text = c.recordKey).map (·.2)).getD .null) =
      (keys.filterMap fun k => record.entries.find? fun e => e.1.text = k.text).map (·.2) := by
  induction keys with
  | nil => rfl
  | cons k keys ih =>
    obtain ⟨hk, hkeys⟩ := List.forall_mem_cons.mp h
    obtain ⟨e, he⟩ := exists_found hk
    rw [List.map_cons, List.map_cons, ih hkeys, recordKey_ofKey, List.filterMap_cons, he]
    rfl

/-- Without a list of columns, the values of a record in its tuple are those of the entries
that are listed. -/
theorem rowValues_listed {found : Option (List Column)}
    (h : insertColumns none first rest = .ok found) {record : Dict Value}
    (hrecord : .dict record ∈ first :: rest) :
    rowValues found (.dict record) = .ok ((listed first record).map (·.2)) := by
  by_cases hfirst : ∃ f, first = .dict f
  · obtain ⟨f, rfl⟩ := hfirst
    obtain ⟨rfl, hkeys⟩ := insertColumns_record h
    exact congrArg Except.ok (values_listed fun k hk => (hkeys record hrecord k).mpr hk)
  · have hfirst : ∀ f, first ≠ .dict f := fun f hf => hfirst ⟨f, hf⟩
    rw [insertColumns_positional hfirst] at h
    cases h
    cases first with
    | dict f => exact absurd rfl (hfirst f)
    | _ => rfl

/-- Where no other key has its text, a key is found by its text. -/
theorem find?_text {k : Key} {entries : List (Key × Value)}
    (h : ∀ other ∈ entries.map Prod.fst, other.text = k.text → other = k) :
    entries.find? (fun e => e.1.text = k.text) = (entries.lookup k).map fun v => (k, v) := by
  induction entries with
  | nil => rfl
  | cons e entries ih =>
    obtain ⟨other, v⟩ := e
    rw [List.map_cons, List.forall_mem_cons] at h
    rw [List.find?_cons, List.lookup_cons]
    by_cases hk : k = other
    · subst hk
      simp
    · have htext : other.text ≠ k.text := fun heq => hk (h.1 heq).symm
      rw [beq_false_of_ne hk]
      simp only [htext, decide_false]
      exact ih h.2

/-- Under keys of different texts, a record of these keys has all of them listed, each with its
own value. -/
theorem listed_of_texts {f record : Dict Value}
    (htexts : ∀ k ∈ f.keys, ∀ other ∈ f.keys, other.text = k.text → other = k)
    (hkeys : ∀ k, k ∈ record.keys ↔ k ∈ f.keys) :
    List.Forall₂ (fun k e => e.1 = k ∧ record.entries.lookup k = some e.2) f.keys
      (listed (.dict f) record) := by
  have hall : ∀ keys : List Key, (∀ k ∈ keys, k ∈ f.keys) →
      List.Forall₂ (fun k e => e.1 = k ∧ record.entries.lookup k = some e.2) keys
        (keys.filterMap fun k => record.entries.find? fun e => e.1.text = k.text) := by
    intro keys
    induction keys with
    | nil => exact fun _ => .nil
    | cons k keys ih =>
      intro h
      obtain ⟨hk, hrest⟩ := List.forall_mem_cons.mp h
      obtain ⟨e, he⟩ := exists_found ((hkeys k).mpr hk)
      have hlookup := he
      rw [find?_text fun other hother => htexts k hk other ((hkeys other).mp hother)] at hlookup
      obtain ⟨v, hv, rfl⟩ := Option.map_eq_some_iff.mp hlookup
      rw [List.filterMap_cons, he]
      exact .cons ⟨rfl, hv⟩ (ih hrest)
  exact hall f.keys fun k hk => hk

end Statement

end TerseSql
