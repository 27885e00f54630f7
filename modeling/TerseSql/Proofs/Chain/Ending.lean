import TerseSql.Proofs.Blank.Assignment
import TerseSql.Proofs.Extension
import TerseSql.Proofs.Insertion.Row
import TerseSql.Proofs.Mirror.Run
import TerseSql.Proofs.Operator.Update
import TerseSql.Proofs.Remnant
import TerseSql.Proofs.Window.Around

/-!
# What statements end in

A statement ends in a WHERE without a predicate only if raw SQL or a query is one: everything else
that a clause adds has a predicate behind its WHERE, or ends in a text that is no keyword.
-/

namespace TerseSql

open Statement Condition Text

/-! ## Clauses and calls -/

/-- No raw SQL and no query in the clause is a keyword that a statement could end in. A raw
condition that is the only one may lose its parentheses. -/
def Clause.IsKeywordFree : Clause → Prop
  | fromSources sources =>
    (∀ r, .raw r ∈ sources → r.sql ∉ keywords) ∧ ∀ q, .query q ∈ sources → q.body ∉ keywords
  | filter conditions | having conditions =>
    ∀ r, Tree.loneOf? (Tree.ofDict conditions) = some r → Shielded r.sql
  | existence q | union q _ => q.body ∉ keywords
  | insert _ rows _ => ∀ q, .query q ∈ rows → q.body ∉ keywords
  | select columns _ | groupBy columns => ∀ r, .raw r ∈ columns → r.sql ∉ keywords
  | _ => True

def Call.IsKeywordFree : Call → Prop
  | clause c => c.IsKeywordFree
  | union queries => ∀ q ∈ queries, q.body ∉ keywords
  | call => ∀ p ∈ call.plan?, ∀ c, .ok c ∈ p → c.IsKeywordFree

/-! ## Queries -/

theorem Query.sql_not_keyword {q : Query} (h : q.body ∉ keywords) : q.sql ∉ keywords := by
  have hopen : ∀ k ∈ keywords, '(' ∉ k.toList := by decide
  unfold Query.sql Statement.sql
  cases q.statement.wrapping with
  | unset => exact h
  | bare => exact parens_not_keyword _
  | named aliasName =>
    intro hmem
    exact hopen _ hmem (by simp)

theorem ne_where_of_plain {t : String} (h : t ∉ keywords) : "WHERE" ≠ t := by
  rintro rfl
  exact h (by decide)

theorem where_not_mem_chained {q : Query} (h : q.body ∉ keywords) : "WHERE" ∉ chained q := by
  have hbody := ne_where_of_plain h
  have hsql := ne_where_of_plain (q.sql_not_keyword h)
  unfold chained
  by_cases hset : q.wrapping.isSet = true
  · simpa [hset] using hbody
  · simpa [hset] using hsql

theorem where_not_mem_flatMap {queries : List Query} (h : ∀ q ∈ queries, q.body ∉ keywords) :
    "WHERE" ∉ queries.flatMap chained := by
  intro hmem
  obtain ⟨q, hq, hchained⟩ := List.mem_flatMap.mp hmem
  exact where_not_mem_chained (h q hq) hchained

/-! ## Endings -/

theorem EndsInWhere.not_pair {k t : String} (h : t ∉ keywords) : ¬EndsInWhere [k, t] := by
  rw [cons_cons_iff, singleton_iff]
  exact (ne_where_of_plain h).symm

theorem not_endsInWhere_chain {queries : List Query} (h : ∀ q ∈ queries, q.body ∉ keywords)
    {s : Statement} (hs : ¬EndsInWhere s.terms) : ¬EndsInWhere (s.chain queries).terms := by
  cases queries with
  | nil => exact hs
  | cons q queries =>
    have hrest := where_not_mem_flatMap fun q hq => h q (List.mem_cons_of_mem _ hq)
    have hall := where_not_mem_flatMap h
    have hfirst := ne_where_of_plain (h q List.mem_cons_self)
    unfold chain
    dsimp only
    by_cases hempty : s.isEmpty = true
    · rw [if_pos hempty]
      refine EndsInWhere.not_append hs fun hends => ?_
      exact (List.mem_cons.mp hends.mem).elim hfirst hrest
    · rw [if_neg hempty]
      exact EndsInWhere.not_append hs fun hends => hall hends.mem

/-! ## What clauses add -/

section

variable (b : Builtin)

theorem predicateTerms_ending (keyword : String) {conditions : Dict Value}
    (h : ∀ r, Tree.loneOf? (Tree.ofDict conditions) = some r → Shielded r.sql) :
    Gives (¬EndsInWhere ·) (predicateTerms b.dialect keyword conditions) := by
  unfold predicateTerms
  by_cases hempty : conditions.isEmpty = true
  · rw [if_pos hempty]
    exact Gives.pure (by simp)
  · rw [if_neg hempty]
    exact Gives.bind (Tree.predicate_not_keyword b h) fun _ htext =>
      Gives.pure (EndsInWhere.not_pair htext)

theorem tableTerms_ending (keyword table : String) :
    Gives (¬EndsInWhere ·) (tableTerms b.dialect keyword table) :=
  Gives.after _ fun t =>
    Gives.pure (EndsInWhere.not_pair (not_keyword_of_foreign (hasForeign_table b t)))

theorem foreign_assignment (token : Option String) (field : String) (v : Value) :
    Gives (hasForeign · = true) (b.dialect.assignment token field v) := by
  have hequals : hasForeign "=" = true := by decide
  rw [b.assignment_eq]
  split
  · exact Gives.after _ fun _ => Gives.pure (by simp [hequals])
  · split
    · exact Gives.after _ fun _ => Gives.pure (by simp [hequals])
    · exact Gives.after _ fun _ => Gives.pure (by simp [hequals])

theorem assignments_not_keyword (sets : Dict Value) :
    Gives (· ∉ keywords) (Assignment.render b.dialect sets) := by
  have hequals : hasForeign "=" = true := by decide
  have hentry : ∀ e ∈ sets.entries, Gives (· ∉ keywords) (Assignment.entry b.dialect e) := by
    rintro ⟨key, v⟩ -
    cases key with
    | raw r =>
      refine Gives.after _ fun _ => Gives.pure ?_
      exact not_keyword_of_foreign (by simp [hequals])
    | name key =>
      refine Gives.after _ fun t s hs => ?_
      exact not_keyword_of_foreign (foreign_assignment b _ _ _ s hs)
  have hcomma : hasForeign "," = true := by decide
  exact Gives.bind (Gives.mapM hentry) fun _ hss => Gives.pure (join_not_keyword hcomma hss)

theorem insertBody_ending {columns : Option (List Column)} {first : Value} {rest : List Value}
    (h : ∀ q, .query q ∈ first :: rest → q.body ∉ keywords) :
    Gives (fun body => body ≠ [] ∧ "WHERE" ∉ body) (insertBody b.dialect columns first rest) := by
  by_cases hquery : ∃ q, first = .query q
  · -- A chain of queries.
    obtain ⟨q, rfl⟩ := hquery
    have hfirst := ne_where_of_plain (q.sql_not_keyword (h q List.mem_cons_self))
    have hlink : ∀ row ∈ rest, Gives ("WHERE" ∉ ·) (insertQuery row) := by
      intro row hrow link hlink
      cases row with
      | query p =>
        cases hlink
        exact where_not_mem_chained (h p (List.mem_cons_of_mem _ hrow))
      | _ => cases hlink
    refine Gives.bind (Gives.mapM hlink) fun links hlinks => ?_
    refine Gives.pure ⟨List.cons_ne_nil _ _, ?_⟩
    rw [List.mem_cons, not_or, List.mem_flatten]
    refine ⟨hfirst, ?_⟩
    rintro ⟨link, hmem, hwhere⟩
    exact hlinks link hmem hwhere
  · -- VALUES and a list of tuples.
    have hfirst : ∀ q, first ≠ .query q := fun q hq => hquery ⟨q, hq⟩
    rw [insertBody_of_not_query hfirst]
    have hrow : ∀ row ∈ first :: rest,
        Gives (· ∉ keywords) (insertRow b.dialect columns row) := by
      intro row _
      exact Gives.after _ fun _ => Gives.after _ fun _ => Gives.pure (parens_not_keyword _)
    have hcomma : hasForeign "," = true := by decide
    refine Gives.bind (Gives.mapM hrow) fun rows hrows => Gives.pure ⟨List.cons_ne_nil _ _, ?_⟩
    simpa using ne_where_of_plain (join_not_keyword hcomma hrows)

theorem insertTerms_ending {table : String} {columns : Option (List Column)} {rows : List Value}
    (h : ∀ q, .query q ∈ rows → q.body ∉ keywords) :
    Gives (¬EndsInWhere ·) (insertTerms b.dialect table columns rows) := by
  intro terms hterms
  cases rows with
  | nil => cases hterms
  | cons first rest =>
    obtain ⟨_, _, _, body, -, -, -, hbody, rfl⟩ := exists_insertBody hterms
    obtain ⟨hne, hbody⟩ := insertBody_ending b h body hbody
    cases body with
    | nil => exact absurd rfl hne
    | cons t body =>
      rw [EndsInWhere.append_cons_iff]
      exact fun hends => hbody hends.mem

end

/-- What a clause adds ends in a WHERE only if something in it is a keyword. -/
theorem Clause.extension_ending (b : Builtin) (primary : Option Primary) {c : Clause}
    (h : c.IsKeywordFree) :
    Gives (fun found => ¬EndsInWhere found.1) (c.extension b.dialect primary) := by
  have hpair : ∀ k t found, t ∉ keywords →
      Gives (fun found => ¬EndsInWhere found.1)
        (pure ([k, t], found) : Built (List String × Option Primary)) :=
    fun k t found ht => Gives.pure (EndsInWhere.not_pair ht)
  cases c with
  | select columns distinct =>
    exact Gives.bind (selectList_not_keyword b h) fun list hlist => hpair _ _ _ hlist
  | fromSources sources =>
    have hqueries := fun q hq => Query.sql_not_keyword (h.2 q hq)
    exact Gives.bind (sourceList_not_keyword b h.1 hqueries) fun found hfound => hpair _ _ _ hfound
  | into table =>
    exact Gives.bind (tableTerms_ending b _ table) fun terms hterms => Gives.pure hterms
  | update table =>
    exact Gives.bind (tableTerms_ending b _ table) fun terms hterms => Gives.pure hterms
  | delete table =>
    exact Gives.bind (tableTerms_ending b _ table) fun terms hterms => Gives.pure hterms
  | join joins =>
    refine Gives.bind (joins_not_keyword b primary joins) fun text htext => Gives.pure ?_
    exact fun hends => ne_where_of_plain htext (EndsInWhere.singleton_iff.mp hends).symm
  | filter conditions =>
    exact Gives.bind (predicateTerms_ending b _ h) fun terms hterms => Gives.pure hterms
  | having conditions =>
    exact Gives.bind (predicateTerms_ending b _ h) fun terms hterms => Gives.pure hterms
  | orderBy orders =>
    exact Gives.bind (order_not_keyword b orders) fun text htext => hpair _ _ _ htext
  | limit v => exact Gives.pure (by simp)
  | groupBy columns =>
    exact Gives.bind (groupList_not_keyword b h) fun text htext => hpair _ _ _ htext
  | existence q => exact hpair _ _ _ (q.sql_not_keyword h)
  | union q all =>
    refine Gives.pure ?_
    dsimp only
    rw [EndsInWhere.append_cons_iff, EndsInWhere.singleton_iff]
    exact (ne_where_of_plain (q.sql_not_keyword h)).symm
  | insert table rows columns =>
    exact Gives.bind (insertTerms_ending b h) fun terms hterms => Gives.pure hterms
  | set sets =>
    refine Gives.bind (P := (¬EndsInWhere ·)) ?_ fun terms hterms => Gives.pure hterms
    exact Gives.bind (assignments_not_keyword b sets) fun text htext =>
      Gives.pure (EndsInWhere.not_pair htext)

/-! ## Runs -/

section

variable {b : Builtin}

theorem Clause.run_ending {c : Clause} (h : c.IsKeywordFree) {s t : Statement}
    (hs : ¬EndsInWhere s.terms) (hrun : (c.add b.dialect).run s = .ok () t) :
    ¬EndsInWhere t.terms := by
  cases c.effect b.dialect s.primary with
  | places w hplaces =>
    rw [hplaces] at hrun
    cases hrun
    exact (w.isPlaced b).not_endsInWhere hs
  | adds hextension hadds =>
    rw [hadds s rfl] at hrun
    cases hrun
    exact EndsInWhere.not_append hs (extension_ending b s.primary h _ hextension)
  | fails hfails =>
    rw [hfails s rfl] at hrun
    cases hrun

theorem Plan.run_ending {p : Plan} (h : ∀ c, .ok c ∈ p → c.IsKeywordFree) {s : Statement}
    (hs : ¬EndsInWhere s.terms) : ¬EndsInWhere (run b.dialect p s).statement.terms :=
  run_keeps (P := (¬EndsInWhere ·.terms)) (fun c hc _ _ => Clause.run_ending (h c hc)) hs

theorem Call.run_ending {call : Call} (h : call.IsKeywordFree) {s : Statement}
    (hs : ¬EndsInWhere s.terms) : ¬EndsInWhere (run b.dialect s call).statement.terms := by
  cases call with
  | clause c =>
    refine Plan.run_ending (fun c' hc' => ?_) hs
    cases List.mem_singleton.mp hc'
    exact h
  | select sources columns conditions options =>
    rw [run, finish_terms]
    exact Plan.run_ending (h _ rfl) hs
  | update table sets conditions => exact Plan.run_ending (h _ rfl) hs
  | delete table conditions => exact Plan.run_ending (h _ rfl) hs
  | insert table head rows => exact Plan.run_ending (h _ rfl) hs
  | union queries => exact not_endsInWhere_chain h hs
  | wrap aliasName => exact hs
  | clear => simp [run, Statement.empty]

/-- A statement that was built without keywords in raw SQL and queries has a predicate behind each
WHERE. -/
theorem Call.final_ending {calls : List Call} (h : ∀ c ∈ calls, c.IsKeywordFree) {s : Statement}
    (hs : ¬EndsInWhere s.terms) : ¬EndsInWhere (final b.dialect s calls).terms := by
  induction calls generalizing s with
  | nil => exact hs
  | cons c calls ih =>
    obtain ⟨hc, hcalls⟩ := List.forall_mem_cons.mp h
    exact ih hcalls (run_ending hc hs)

end

end TerseSql
