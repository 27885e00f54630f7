import TerseSql.Proofs.Dict.Keys
import TerseSql.Proofs.Insertion.Row

/-!
# Columns from a record

A record that comes first gives the columns. Every record among the rows then lists its values
in the order of these columns, in whatever order it holds them itself.
-/

namespace TerseSql

namespace Statement

/-- The same row, except that the entries of a record may stand in another order. -/
inductive Shuffled : Value → Value → Prop where
  | same (row : Value) : Shuffled row row
  | record {a b : Dict Value} : a.Distinct → a.entries.Perm b.entries →
    Shuffled (.dict a) (.dict b)

theorem sameKeys_of_perm {a b : Dict Value} (h : a.entries.Perm b.entries) (first : Dict Value) :
    sameKeys a first = sameKeys b first := by
  have hkeys : ∀ k, k ∈ a.keys ↔ k ∈ b.keys := fun k => (h.map Prod.fst).mem_iff
  rw [Bool.eq_iff_iff, sameKeys_iff, sameKeys_iff]
  simp only [hkeys]

theorem consistent_shuffled {first : Dict Value} {rows others : List Value}
    (h : List.Forall₂ Shuffled rows others) : consistent first rows = consistent first others := by
  unfold consistent
  induction h with
  | nil => rfl
  | cons hrow _ ih =>
    rw [List.all_cons, List.all_cons, ih]
    cases hrow with
    | same row => rfl
    | record _ hperm => exact congrArg (· && _) (sameKeys_of_perm hperm first)

variable {d : Dialect} {first : Dict Value}

/-! ## Columns -/

inductive Heads (d : Dialect) : Key → String → Prop where
  | name {text : String} {t : Table} : Table.ofText text = .ok t →
    Heads d (.name text) (t.render d.toLexicon)
  | raw (sql : Raw) : Heads d (.raw sql) sql.sql

theorem heads_of_insertColumn {k : Key} {name : String}
    (h : insertColumn d (.ofKey k) = .ok name) : Heads d k name := by
  cases k with
  | name text =>
    obtain ⟨t, ht, h⟩ := Built.exists_of_bind h
    cases h
    exact .name ht
  | raw sql =>
    cases h
    exact .raw sql

theorem exists_heads {keys : List Key} {list : List String}
    (h : columnList d (some (keys.map .ofKey)) = .ok list) :
    ∃ names, List.Forall₂ (Heads d) keys names ∧ list = ["(" ++ Text.join "," names ++ ")"] := by
  unfold columnList at h
  obtain ⟨names, hnames, h⟩ := Built.exists_of_bind h
  cases h
  have hall := Built.forall₂_of_mapM hnames
  rw [List.forall₂_map_left_iff] at hall
  exact ⟨names, hall.imp fun _ _ => heads_of_insertColumn, rfl⟩

/-! ## Tuples -/

/-- A row is written under keys: a record as its values under them, a list as its items. -/
inductive Tupled (d : Dialect) (keys : List Key) : Value → String → Prop where
  | record {record : Dict Value} {values : List Value} {tuple : String} :
    List.Forall₂ (fun k v => record.entries.lookup k = some v) keys values →
    IsTuple d values tuple → Tupled d keys (.dict record) tuple
  | list {items : List Value} {tuple : String} :
    IsTuple d items tuple → Tupled d keys (.list items) tuple

theorem tupled_of_insertRow {rest : List Value} {found : Option (List Column)}
    (htexts : ∀ k ∈ first.keys, ∀ other ∈ first.keys, other.text = k.text → other = k)
    (hfound : insertColumns none (.dict first) rest = .ok found) {row : Value} {tuple : String}
    (hrow : row ∈ .dict first :: rest) (h : insertRow d found row = .ok tuple) :
    Tupled d first.keys row tuple := by
  obtain ⟨values, hvalues, htuple⟩ := exists_values h
  cases row with
  | list items =>
    cases hvalues
    exact .list htuple
  | dict record =>
    rw [rowValues_listed hfound hrow] at hvalues
    cases hvalues
    have hkeys := (insertColumns_record hfound).2 record hrow
    refine .record ?_ htuple
    rw [List.forall₂_map_right_iff]
    exact (listed_of_texts htexts hkeys).imp fun _ _ he => he.2
  | _ => cases hvalues

theorem rowValues_shuffled {row other : Value} (h : Shuffled row other)
    (htexts : ∀ k ∈ first.keys, ∀ other ∈ first.keys, other.text = k.text → other = k)
    (hkeys : ∀ record, row = .dict record → ∀ k, k ∈ record.keys ↔ k ∈ first.keys) :
    rowValues (some (first.keys.map .ofKey)) row =
      rowValues (some (first.keys.map .ofKey)) other := by
  cases h with
  | same row => rfl
  | @record a b hdistinct hperm =>
    have hb : ∀ k, k ∈ b.keys ↔ k ∈ first.keys :=
      fun k => (hperm.map Prod.fst).mem_iff.symm.trans (hkeys a rfl k)
    refine congrArg Except.ok (List.map_congr_left fun c hc => ?_)
    obtain ⟨k, hk, rfl⟩ := List.mem_map.mp hc
    have hlookup := hdistinct.lookup_of_perm hperm k
    rw [recordKey_ofKey, find?_text fun other hother => htexts k hk other ((hkeys a rfl other).mp hother),
      find?_text fun other hother => htexts k hk other ((hb other).mp hother), hlookup]

theorem insertBody_shuffled {rest others : List Value} (h : List.Forall₂ Shuffled rest others)
    (htexts : ∀ k ∈ first.keys, ∀ other ∈ first.keys, other.text = k.text → other = k)
    (hkeys : ∀ record, .dict record ∈ rest → ∀ k, k ∈ record.keys ↔ k ∈ first.keys) :
    insertBody d (some (first.keys.map .ofKey)) (.dict first) others =
      insertBody d (some (first.keys.map .ofKey)) (.dict first) rest := by
  have hquery : ∀ q, Value.dict first ≠ .query q := fun q hq => nomatch hq
  have hrows : others.mapM (insertRow d (some (first.keys.map .ofKey))) =
      rest.mapM (insertRow d (some (first.keys.map .ofKey))) := by
    induction h with
    | nil => rfl
    | @cons row other rest others hrow _ ih =>
      have hfirst := rowValues_shuffled hrow htexts fun record hrecord =>
        hkeys record (hrecord ▸ List.mem_cons_self)
      have hrest := ih fun record hrecord => hkeys record (List.mem_cons_of_mem _ hrecord)
      rw [List.mapM_cons, List.mapM_cons, hrest, insertRow, insertRow, hfirst]
  rw [insertBody_of_not_query hquery, insertBody_of_not_query hquery, List.mapM_cons,
    List.mapM_cons, hrows]

theorem insertTerms_shuffled {table : String} {columns : Option (List Column)}
    (hcolumns : Unlisted columns)
    (htexts : ∀ k ∈ first.keys, ∀ other ∈ first.keys, other.text = k.text → other = k)
    {rest others : List Value} (h : List.Forall₂ Shuffled rest others) :
    insertTerms d table columns (.dict first :: others) =
      insertTerms d table columns (.dict first :: rest) := by
  -- Which columns are listed depends on the first record, and whether the others share its keys.
  have hsame : insertColumns none (.dict first) others = insertColumns none (.dict first) rest := by
    unfold insertColumns
    dsimp only [Option.filter]
    rw [consistent_shuffled h]
  unfold insertTerms
  dsimp only
  rw [insertColumns_unlisted hcolumns, insertColumns_unlisted hcolumns, hsame]
  refine bind_congr fun t => ?_
  cases hfound : insertColumns none (.dict first) rest with
  | error e => rfl
  | ok found =>
    obtain ⟨rfl, hkeys⟩ := insertColumns_record hfound
    have hbody := insertBody_shuffled (d := d) h htexts fun record hrecord =>
      hkeys record (List.mem_cons_of_mem _ hrecord)
    have hrest : ∀ list : List String,
        (do
          let body ← insertBody d (some (first.keys.map .ofKey)) (.dict first) others
          return "INSERT INTO" :: t.render d.toLexicon :: list ++ body) =
        (do
          let body ← insertBody d (some (first.keys.map .ofKey)) (.dict first) rest
          return "INSERT INTO" :: t.render d.toLexicon :: list ++ body) := by
      intro list
      rw [hbody]
    exact bind_congr (x := columnList d (some (first.keys.map .ofKey))) hrest

end Statement

/-- Where a record comes first and its keys have different texts, an insertion without a list
of columns fails if a record has other keys. If it succeeds, it lists these keys as columns,
and a tuple for each row, in which a record has the literals of its values under these keys.
So the order of the entries in the records that follow does not matter. -/
theorem Clause.records_aligned (d : Dialect) (s : Statement) (table : String)
    {columns : Option (List Column)} (hcolumns : Statement.Unlisted columns) {first : Dict Value}
    (htexts : (first.keys.map Key.text).Nodup) (rest : List Value) :
    let outcome := fun rest => Call.run d s (.clause (.insert table (.dict first :: rest) columns))
    ((∃ record, .dict record ∈ rest ∧ ∃ k, ¬(k ∈ record.keys ↔ k ∈ first.keys)) →
      (outcome rest).error ≠ none) ∧
    ((outcome rest).error = none → ∃ t names tuples, Table.ofText table = .ok t ∧
      List.Forall₂ (Statement.Heads d) first.keys names ∧
      List.Forall₂ (Statement.Tupled d first.keys) (.dict first :: rest) tuples ∧
      (outcome rest).statement = s.push ["INSERT INTO", t.render d.toLexicon,
        "(" ++ Text.join "," names ++ ")", "VALUES", Text.join "," tuples]) ∧
    ∀ others, List.Forall₂ Statement.Shuffled rest others → outcome others = outcome rest := by
  have hinjective : ∀ k ∈ first.keys, ∀ other ∈ first.keys, other.text = k.text → other = k :=
    fun k hk other hother htext => List.inj_on_of_nodup_map htexts hother hk htext
  dsimp only
  refine ⟨?_, ?_, ?_⟩
  · rintro ⟨record, hrecord, k, hk⟩ hok
    obtain ⟨terms, hterms, -⟩ := Statement.exists_insertTerms hok
    obtain ⟨t, found, list, tuples, -, hfound, -⟩ :=
      Statement.exists_tuples hterms fun q hq => nomatch hq
    rw [Statement.insertColumns_unlisted hcolumns] at hfound
    exact hk ((Statement.insertColumns_record hfound).2 record (List.mem_cons_of_mem _ hrecord) k)
  · intro hok
    obtain ⟨terms, hterms, hstatement⟩ := Statement.exists_insertTerms hok
    obtain ⟨t, found, list, tuples, ht, hfound, hlist, htuples, rfl⟩ :=
      Statement.exists_tuples hterms fun q hq => nomatch hq
    rw [Statement.insertColumns_unlisted hcolumns] at hfound
    rw [(Statement.insertColumns_record hfound).1] at hlist
    obtain ⟨names, hnames, rfl⟩ := Statement.exists_heads hlist
    have hall := (List.forall₂_and_left _ _).mpr ⟨fun row hrow => hrow, htuples⟩
    refine ⟨t, names, tuples, ht, hnames, hall.imp fun row tuple h => ?_, hstatement⟩
    exact Statement.tupled_of_insertRow hinjective hfound h.1 h.2
  · intro others hothers
    exact Statement.run_insert_congr (Statement.insertTerms_shuffled hcolumns hinjective hothers)

/-- A name and a raw column, a positional row, a record in the other order, and one that lacks
a key. -/
theorem Clause.records_aligned_shuffled :
    let first : Dict Value := .ofList [(.name "a", .int 1), (.raw ⟨"n"⟩, .int 2)]
    let second : Dict Value := .ofList [(.raw ⟨"n"⟩, .int 6), (.name "a", .int 5)]
    let straight : Dict Value := .ofList [(.name "a", .int 5), (.raw ⟨"n"⟩, .int 6)]
    let short : Dict Value := .ofList [(.name "a", .int 7)]
    let outcome := fun rest =>
      Call.run Builtin.mysql.dialect .empty (.clause (.insert "t" (.dict first :: rest) none))
    outcome [.list [.int 3, .int 4], .dict straight] =
        outcome [.list [.int 3, .int 4], .dict second] ∧
      (outcome [.list [.int 3, .int 4], .dict second]).statement.terms =
        ["INSERT INTO", "`t`", "(`a`,n)", "VALUES", "(1,2),(3,4),(5,6)"] ∧
      (outcome [.dict short]).error ≠ none := by
  intro first second straight short outcome
  have htexts : (first.keys.map Key.text).Nodup := by decide
  have hnone : Statement.Unlisted none := fun given hgiven => nomatch hgiven
  have hdistinct : second.Distinct := Dict.distinct_iff.mpr ⟨_, rfl⟩
  have haligned := fun rest =>
    records_aligned Builtin.mysql.dialect .empty "t" hnone htexts rest
  refine ⟨?_, rfl, ?_⟩
  · refine (haligned [.list [.int 3, .int 4], .dict second]).2.2 _ ?_
    exact .cons (.same _) (.cons (.record hdistinct (List.Perm.swap _ _ [])) .nil)
  · refine (haligned [.dict short]).1 ⟨short, List.mem_singleton_self _, .raw ⟨"n"⟩, ?_⟩
    decide

end TerseSql
