import TerseSql.Proofs.Chain.Link
import TerseSql.Proofs.Insertion.Row

/-!
# Insertions of queries

Queries that are inserted are a chain: behind its head, the insertion is the statement that a union
of the queries starts. Queries among rows of values are refused, wherever they stand.
-/

namespace TerseSql

namespace Statement

variable {d : Dialect} {table : String} {columns : Option (List Column)} {q : Query}

theorem mapM_insertQuery (queries : List Query) :
    (queries.map Value.query).mapM insertQuery = .ok (queries.map chained) := by
  rw [List.mapM_map]
  exact Built.mapM_of_forall fun _ _ => rfl

theorem insertColumns_query (rest : List Value) :
    insertColumns columns (.query q) rest = .ok (columns.filter (!·.isEmpty)) := by
  unfold insertColumns
  cases columns.filter (!·.isEmpty) <;> rfl

theorem insertTerms_queries_iff (h : q.wrapping = .unset) {queries : List Query}
    {terms : List String} :
    insertTerms d table columns ((q :: queries).map .query) = .ok terms ↔
      ∃ t list, Table.ofText table = .ok t ∧
        columnList d (columns.filter (!·.isEmpty)) = .ok list ∧
        terms = ("INSERT INTO" :: t.render d.toLexicon :: list) ++
          (chain (q :: queries) .empty).terms := by
  have hsql : q.sql = q.body := sql_of_unset h
  have hbody : ∀ found, insertBody d found (.query q) (queries.map .query) =
      .ok (chain (q :: queries) .empty).terms := by
    intro found
    simp only [insertBody, mapM_insertQuery, hsql]
    rfl
  simp only [List.map_cons, insertTerms, insertColumns_query]
  constructor
  · intro hterms
    obtain ⟨t, ht, hterms⟩ := Built.exists_of_bind hterms
    obtain ⟨found, hfound, hterms⟩ := Built.exists_of_bind hterms
    obtain ⟨list, hlist, hterms⟩ := Built.exists_of_bind hterms
    cases hfound
    rw [hbody] at hterms
    cases hterms
    exact ⟨t, list, ht, hlist, rfl⟩
  · rintro ⟨t, list, ht, hlist, rfl⟩
    simp only [ht, bind, Except.bind, hlist, hbody]
    rfl

theorem sql_insert_queries (h : q.wrapping = .unset) {queries : List Query} {sql : String} :
    let outcome := Call.run d .empty (.clause (.insert table ((q :: queries).map .query) columns))
    (outcome.error = none ∧ outcome.statement.sql d.toLexicon = sql) ↔
      ∃ t list, Table.ofText table = .ok t ∧
        columnList d (columns.filter (!·.isEmpty)) = .ok list ∧
        sql = Text.join " " ("INSERT INTO" :: t.render d.toLexicon :: list) ++ " " ++
          (chain (q :: queries) .empty).sql d.toLexicon := by
  intro outcome
  have hsql : ∀ head, head ≠ [] → Text.join " " (head ++ (chain (q :: queries) .empty).terms) =
      Text.join " " head ++ " " ++ (chain (q :: queries) .empty).sql d.toLexicon := by
    intro head hhead
    rw [Text.join_append " " hhead]
    show _ ++ Text.glued " " (q.body :: queries.flatMap chained) =
      _ ++ " " ++ Text.join " " (q.body :: queries.flatMap chained)
    rw [Text.glued, Text.join_cons, String.append_assoc, String.append_assoc]
  constructor
  · rintro ⟨hok, rfl⟩
    obtain ⟨terms, hterms, hstatement⟩ := exists_insertTerms hok
    obtain ⟨t, list, ht, hlist, rfl⟩ := (insertTerms_queries_iff h).mp hterms
    refine ⟨t, list, ht, hlist, ?_⟩
    rw [← hsql _ (List.cons_ne_nil _ _), hstatement]
    rfl
  · rintro ⟨t, list, ht, hlist, rfl⟩
    have hterms : insertTerms d table columns ((q :: queries).map .query) = .ok _ :=
      (insertTerms_queries_iff h).mpr ⟨t, list, ht, hlist, rfl⟩
    have hadds : ((Clause.insert table ((q :: queries).map .query) columns).add d).Adds
        (insertTerms d table columns ((q :: queries).map .query)) :=
      adds_insert d table ((q :: queries).map .query) columns
    have hrun := Plan.run_cons_of_adds_ok hadds hterms [] .empty
    show (Plan.run d _ .empty).error = none ∧ (Plan.run d _ .empty).statement.sql _ = _
    rw [hrun]
    exact ⟨rfl, hsql _ (List.cons_ne_nil _ _)⟩

/-! ## Queries among rows -/

theorem insertTerms_mixed {rows : List Value} (hquery : ∃ q, .query q ∈ rows)
    (hrow : ∃ row ∈ rows, ∀ q, row ≠ .query q) (terms : List String) :
    insertTerms d table columns rows ≠ .ok terms := by
  intro hterms
  obtain ⟨q, hq⟩ := hquery
  obtain ⟨row, hmem, hother⟩ := hrow
  cases rows with
  | nil => cases hq
  | cons first rest =>
    obtain ⟨_, _, _, body, -, -, -, hbody, -⟩ := exists_insertBody hterms
    by_cases hfirst : ∃ q, first = .query q
    · -- A query that comes first wants queries only.
      obtain ⟨p, rfl⟩ := hfirst
      obtain ⟨chains, hchains, -⟩ := Built.exists_of_bind hbody
      have hrest : row ∈ rest := (List.mem_cons.mp hmem).resolve_left (hother p)
      obtain ⟨chain, hchain⟩ := Built.exists_of_mem_mapM hchains hrest
      cases row with
      | query p => exact hother p rfl
      | _ => cases hchain
    · -- Otherwise, every row is to have a tuple, and a query has none.
      have hfirst : ∀ q, first ≠ .query q := fun q hq => hfirst ⟨q, hq⟩
      rw [insertBody_of_not_query hfirst] at hbody
      obtain ⟨tuples, htuples, -⟩ := Built.exists_of_bind hbody
      obtain ⟨tuple, htuple⟩ := Built.exists_of_mem_mapM htuples hq
      cases htuple

end Statement

/-- Queries are inserted as a union chains them. The insertion succeeds if its table and its columns
can be read, and its text is its head and behind it the text of the union. Queries and other rows
are never inserted together: that fails and leaves the statement as it was. -/
theorem Clause.insert_chains (d : Dialect) (table : String) (columns : Option (List Column)) :
    (∀ q queries sql, q.wrapping = .unset →
      let outcome := Call.run d .empty (.clause (.insert table ((q :: queries).map .query) columns))
      ((outcome.error = none ∧ outcome.statement.sql d.toLexicon = sql) ↔
        ∃ t list, Table.ofText table = .ok t ∧
          Statement.columnList d (columns.filter (!·.isEmpty)) = .ok list ∧
          sql = Text.join " " ("INSERT INTO" :: t.render d.toLexicon :: list) ++ " " ++
            (Call.run d .empty (.union (q :: queries))).statement.sql d.toLexicon)) ∧
    ∀ s rows, (∃ q, .query q ∈ rows) → (∃ row ∈ rows, ∀ q, row ≠ .query q) →
      let outcome := Call.run d s (.clause (.insert table rows columns))
      outcome.error ≠ none ∧ outcome.statement = s := by
  refine ⟨fun q queries sql hunset => Statement.sql_insert_queries hunset,
    fun s rows hquery hrow => ?_⟩
  have hfails : (Call.run d s (.clause (.insert table rows columns))).error ≠ none := by
    intro hok
    obtain ⟨terms, hterms, -⟩ := Statement.exists_insertTerms hok
    exact Statement.insertTerms_mixed hquery hrow terms hterms
  exact ⟨hfails, Call.statement_of_error d hfails⟩

/-- A marked query follows two others that are not, and then a record stands between two queries. -/
theorem Clause.insert_chains_marked :
    let query := fun name wrapping =>
      Query.mk Builtin.oracle.dialect.toLexicon ⟨["SELECT", "*", "FROM", name], none, wrapping⟩
    let first := query "a" .unset
    let queries := [query "b" .unset, query "c" (.named "x")]
    let rows := [.query first, .dict (.ofList [(.name "n", .int 1)]), .query first]
    let columns := some [.name "n", .raw ⟨"m"⟩]
    let run := fun s rows =>
      Call.run Builtin.oracle.dialect s (.clause (.insert "s.t" rows columns))
    first.wrapping = .unset ∧
      (run .empty ((first :: queries).map .query)).error = none ∧
      (run .empty ((first :: queries).map .query)).statement.sql Builtin.oracle.dialect.toLexicon =
        "INSERT INTO \x22s\x22.\x22t\x22 (\x22n\x22,m) SELECT * FROM a UNION SELECT * FROM b " ++
          "UNION ALL SELECT * FROM c" ∧
      (∃ q, .query q ∈ rows) ∧ (∃ row ∈ rows, ∀ q, row ≠ .query q) ∧
      (run ⟨["WITH"], none, .bare⟩ rows).error ≠ none ∧
      (run ⟨["WITH"], none, .bare⟩ rows).statement = ⟨["WITH"], none, .bare⟩ := by
  intro query first queries rows columns run
  obtain ⟨hchain, hmixed⟩ := insert_chains Builtin.oracle.dialect "s.t" columns
  have hquery : ∃ q, .query q ∈ rows := ⟨first, List.mem_cons_self⟩
  have hrow : ∃ row ∈ rows, ∀ q, row ≠ .query q :=
    ⟨.dict (.ofList [(.name "n", .int 1)]), by simp [rows], fun q hq => nomatch hq⟩
  obtain ⟨hok, hsql⟩ := (hchain first queries _ rfl).mpr
    ⟨⟨some "s", "t"⟩, ["(\x22n\x22,m)"], rfl, rfl, rfl⟩
  exact ⟨rfl, hok, hsql, hquery, hrow, hmixed _ rows hquery hrow⟩

end TerseSql
