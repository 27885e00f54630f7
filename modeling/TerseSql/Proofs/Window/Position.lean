import TerseSql.Proofs.Window.Fragment
import TerseSql.Proofs.Window.Selection

/-!
# When a window is asked for

A window that goes into WHERE or after SELECT is put in the same place whether it is asked for
before the clauses that follow WHERE, between them or after them.
-/

namespace TerseSql

open Statement

/-! ## Runs that leave out what fails -/

namespace Clause

variable {d : Dialect} {s t : Statement}

theorem final_append (a b : List Clause) : final d s (a ++ b) = final d (final d s a) b :=
  List.foldl_append

theorem final_of_run {cs : List Clause} (h : Plan.run d (cs.map .ok) s = ⟨t, none⟩) :
    final d s cs = t := by
  induction cs generalizing s with
  | nil => cases h; rfl
  | cons c cs ih =>
    obtain ⟨m, hc, hcs⟩ := Plan.exists_of_run_cons h
    show final d (Call.run d s (.clause c)).statement cs = t
    rw [Call.run_clause, hc]
    exact ih hcs

theorem final_limit_error {v : Value} {e : BuildError} (h : Window.ofValue v = .error e)
    (before after : List Clause) :
    final d s (before ++ .limit v :: after) = final d s (before ++ after) := by
  have hfails : (Call.run d (final d s before) (.clause (.limit v))).error ≠ none := by
    rw [Call.run_clause, run_limit_error d _ h]
    exact fun hnone => nomatch hnone
  rw [final_append, final_append]
  show final d (Call.run d (final d s before) (.clause (.limit v))).statement after = _
  rw [Call.statement_of_error d hfails]

end Clause

/-! ## Windows between clauses -/

/-- A window commutes with clauses that come later if its place does not depend on their
terms. -/
theorem Plan.run_limit_between {d : Dialect} {s t : Statement} {tail : List Clause}
    (htail : ∀ c ∈ tail, c.isTrailing = true) (hrun : run d (tail.map .ok) s = ⟨t, none⟩)
    {v : Value} {w : Window} (hw : Window.ofValue v = .ok w) {p : Pagination}
    (hp : w.fragment d.toLexicon = p)
    (hplace : ∀ before tss, (∀ c ∈ before, c ∈ tail) →
      List.Forall₂ (fun c ts => c.tailTerms d = .ok ts) before tss →
      place p (s.terms ++ tss.flatten) = place p s.terms ++ tss.flatten) :
    ∃ ts u, t.terms = s.terms ++ ts ∧ u.terms = place p s.terms ++ ts ∧
      ∀ before after, tail = before ++ after →
        run d ((before ++ .limit v :: after).map .ok) s = ⟨u, none⟩ := by
  obtain ⟨tss, -, hall⟩ := run_trailing htail hrun
  have ht : t = s.push tss.flatten := congrArg Outcome.statement (hrun.symm.trans (hall s))
  refine ⟨tss.flatten, { s with terms := place p s.terms ++ tss.flatten },
    congrArg Statement.terms ht, rfl, fun before after hsplit => ?_⟩
  subst hsplit
  rw [List.map_append] at hrun
  obtain ⟨m, hbefore, hafter⟩ := exists_of_run_append hrun
  obtain ⟨bss, hbss, hrunBefore⟩ :=
    run_trailing (fun c hc => htail c (List.mem_append_left _ hc)) hbefore
  obtain ⟨ass, -, hrunAfter⟩ :=
    run_trailing (fun c hc => htail c (List.mem_append_right _ hc)) hafter
  -- The clauses after the window add what they add without it.
  have hterms : tss.flatten = bss.flatten ++ ass.flatten := by
    have hpushed := hall s
    rw [List.map_append, run_append_of_run (hrunBefore s), hrunAfter] at hpushed
    have happend := congrArg (fun o => o.statement.terms) hpushed
    simpa [push] using happend.symm
  rw [List.map_append, run_append_of_run (hrunBefore s), List.map_cons,
    run_cons_ok (Clause.run_limit d _ hw), hrunAfter, hp, hterms]
  show Outcome.mk { s with terms := place p (s.terms ++ bss.flatten) ++ ass.flatten } none = _
  rw [hplace before bss (fun c hc => List.mem_append_left _ hc) hbss, List.append_assoc]

/-! ## A term after the first -/

theorem sql_of_unset {l : Lexicon} {s : Statement} (h : s.wrapping = .unset) :
    s.sql l = s.body := by
  rw [sql, h]

theorem place_second {f t : String} {ts : List String} :
    place ⟨f, .index 1⟩ (t :: ts) = t :: f :: ts := by
  simp [place, insertAt]

namespace Selection

variable (o : Selection) {tail : List Clause} (htail : ∀ c ∈ tail, c.isTrailing = true)
include htail

theorem run_oracle {s : Statement} (hplain : ∀ c ∈ o.clauses ++ tail, c.IsPlain)
    (hrun : Plan.run Builtin.oracle.dialect ((o.clauses ++ tail).map .ok) .empty = ⟨s, none⟩)
    {v : Value} {w : Window} (hw : Window.ofValue v = .ok w) :
    ∃ t, ∀ before after, tail = before ++ after → Plan.run Builtin.oracle.dialect
      ((o.clauses ++ before ++ .limit v :: after).map .ok) .empty = ⟨t, none⟩ := by
  rw [List.map_append] at hrun
  obtain ⟨m, hopen, hrest⟩ := Plan.exists_of_run_append hrun
  obtain ⟨x, hx, -⟩ := run_clauses (fun c hc => hplain c (List.mem_append_left _ hc)) hopen
  obtain ⟨ts, t, -, -, hall⟩ := Plan.run_limit_between htail hrest hw rfl <| by
    intro before tss hbefore htss
    have hts := isTail_flatten
      (fun c hc => hplain c (List.mem_append_right _ (hbefore c hc))) htss
    have hcommute := (x.append _ hts).place_terms (Pagination.rowNumbers w.count w.offset)
    rw [x.conjoin_append, Sections.terms_append, Sections.terms_append, ← x.place_terms] at hcommute
    rw [hx]
    exact hcommute
  refine ⟨t, fun before after hsplit => ?_⟩
  rw [List.append_assoc, List.map_append, Plan.run_append_of_run hopen]
  exact hall before after hsplit

theorem run_mssql {s : Statement}
    (hrun : Plan.run Builtin.mssql.dialect ((o.clauses ++ tail).map .ok) .empty = ⟨s, none⟩)
    {v : Value} {w : Window} (hw : Window.ofValue v = .ok w) (hnone : w.offset = none) :
    ∃ t rest, s.sql Builtin.mssql.dialect.toLexicon = o.keyword ++ rest ∧
      t.sql Builtin.mssql.dialect.toLexicon =
        o.keyword ++ " " ++ ("TOP " ++ toString w.count.toNat) ++ rest ∧
      ∀ before after, tail = before ++ after → Plan.run Builtin.mssql.dialect
        ((o.clauses ++ before ++ .limit v :: after).map .ok) .empty = ⟨t, none⟩ := by
  have hunset : s.wrapping = .unset := Plan.run_wrapping hrun
  rw [List.map_append] at hrun
  obtain ⟨m, hopen, hrest⟩ := Plan.exists_of_run_append hrun
  obtain ⟨terms, hm⟩ := run_keyword hopen
  have hfragment := Window.fragment_top hnone
  obtain ⟨ts, t, hs, ht, hall⟩ := Plan.run_limit_between htail hrest hw hfragment <| by
    intro _ tss _ _
    rw [hm, List.cons_append, place_second, place_second]
    rfl
  have hrun' : ∀ before after, tail = before ++ after → Plan.run Builtin.mssql.dialect
      ((o.clauses ++ before ++ .limit v :: after).map .ok) .empty = ⟨t, none⟩ := by
    intro before after hsplit
    rw [List.append_assoc, List.map_append, Plan.run_append_of_run hopen]
    exact hall before after hsplit
  have hunset' : t.wrapping = .unset := Plan.run_wrapping (hrun' [] tail rfl)
  rw [hm] at hs ht
  rw [place_second] at ht
  refine ⟨t, Text.glued " " (terms ++ ts), ?_, ?_, hrun'⟩
  · rw [sql_of_unset hunset, body, hs, List.cons_append, Text.join_cons]
  · rw [sql_of_unset hunset', body, ht, List.cons_append, Text.join_cons, List.cons_append,
      Text.glued, ← String.append_assoc, ← String.append_assoc]
    rfl

/-- It does not matter when a window is asked for among the clauses that follow WHERE. Where it
goes into WHERE it is put in the same place, if no raw text and no query in FROM is a keyword and
no raw condition of HAVING is one in parentheses, and a value that is no window leaves no trace.
Where it goes after SELECT it is put there. -/
theorem limit_anywhere (v : Value) :
    (∀ s, (∀ c ∈ o.clauses ++ tail, c.IsPlain) →
      Plan.run Builtin.oracle.dialect ((o.clauses ++ tail).map .ok) .empty = ⟨s, none⟩ →
      ∃ t, ∀ before after, tail = before ++ after →
        Clause.final Builtin.oracle.dialect .empty (o.clauses ++ before ++ .limit v :: after) = t ∧
        ∀ w, Window.ofValue v = .ok w → Plan.run Builtin.oracle.dialect
          ((o.clauses ++ before ++ .limit v :: after).map .ok) .empty = ⟨t, none⟩) ∧
    ∀ s w, Plan.run Builtin.mssql.dialect ((o.clauses ++ tail).map .ok) .empty = ⟨s, none⟩ →
      Window.ofValue v = .ok w → w.offset = none →
      ∃ t rest, s.sql Builtin.mssql.dialect.toLexicon = o.keyword ++ rest ∧
        t.sql Builtin.mssql.dialect.toLexicon =
          o.keyword ++ " " ++ ("TOP " ++ toString w.count.toNat) ++ rest ∧
        ∀ before after, tail = before ++ after → Plan.run Builtin.mssql.dialect
          ((o.clauses ++ before ++ .limit v :: after).map .ok) .empty = ⟨t, none⟩ := by
  refine ⟨fun s hplain hrun => ?_, fun s w hrun hw hnone => run_mssql o htail hrun hw hnone⟩
  cases hw : Window.ofValue v with
  | ok w =>
    obtain ⟨t, hall⟩ := run_oracle o htail hplain hrun hw
    refine ⟨t, fun before after hsplit => ?_⟩
    have hrun' := hall before after hsplit
    exact ⟨Clause.final_of_run hrun', fun _ _ => hrun'⟩
  | error e =>
    refine ⟨s, fun before after hsplit => ⟨?_, fun _ h => nomatch h⟩⟩
    rw [Clause.final_limit_error hw, List.append_assoc, ← hsplit]
    exact Clause.final_of_run hrun

end Selection

/-! ## Selections that order their rows -/

namespace Selection

def names : Selection where
  columns := [.name "a"]
  distinct := true
  sources := [.table "t"]
  joins := none
  conditions := some ⟨[(.name "b[~]", .list [.text "x", .text "y"])]⟩

def orderedGroups : List Clause :=
  [.orderBy ⟨[(.name "a", .null)]⟩, .having ⟨[(.name "c[>]", .int 1)]⟩]

theorem limit_anywhere_names :
    (∀ c ∈ orderedGroups, c.isTrailing = true) ∧
    (∀ c ∈ names.clauses ++ orderedGroups, c.IsPlain) ∧
    (∃ t, ∀ before after, orderedGroups = before ++ after →
      Plan.run Builtin.oracle.dialect
        ((names.clauses ++ before ++ .limit (.int 5) :: after).map .ok) .empty = ⟨t, none⟩) ∧
    ∃ t rest, t.sql Builtin.mssql.dialect.toLexicon =
        names.keyword ++ " " ++ ("TOP " ++ toString (5 : UInt64).toNat) ++ rest ∧
      ∀ before after, orderedGroups = before ++ after → Plan.run Builtin.mssql.dialect
        ((names.clauses ++ before ++ .limit (.int 5) :: after).map .ok) .empty = ⟨t, none⟩ := by
  have htail : ∀ c ∈ orderedGroups, c.isTrailing = true := by
    simp [orderedGroups, Clause.isTrailing]
  have hplain : ∀ c ∈ names.clauses ++ orderedGroups, c.IsPlain := by
    have hclauses : names.clauses ++ orderedGroups =
        [.select [.name "a"] true, .fromSources [.table "t"],
          .filter ⟨[(.name "b[~]", .list [.text "x", .text "y"])]⟩,
          .orderBy ⟨[(.name "a", .null)]⟩, .having ⟨[(.name "c[>]", .int 1)]⟩] := rfl
    rw [hclauses]
    simp only [List.forall_mem_cons]
    refine ⟨?_, ?_, trivial, trivial, ?_, fun c hc => nomatch hc⟩
    · simp [Clause.IsPlain]
    · simp [Clause.IsPlain]
    · intro r hr
      cases hr
  obtain ⟨hwhere, hselect⟩ := limit_anywhere names htail (.int 5)
  obtain ⟨t, hall⟩ := hwhere _ hplain rfl
  obtain ⟨u, rest, _, hu, hrun⟩ := hselect _ (.make 5 none) rfl rfl rfl
  exact ⟨htail, hplain, ⟨t, fun before after hsplit => (hall before after hsplit).2 _ rfl⟩,
    u, rest, hu, hrun⟩

/-- A raw condition in parentheses is a keyword once the root has lost them, and so may be a
query in FROM: then a window that is asked for later is put elsewhere. -/
theorem limit_anywhere_of_keywords :
    ("(WHERE)" ∉ keywords ∧
      ∃ s t, Plan.run Builtin.oracle.dialect ([.select [.name "a"] false,
        .fromSources [.table "t"], .limit (.int 5),
        .having ⟨[(.raw ⟨"(WHERE)"⟩, .null)]⟩].map .ok) .empty = ⟨s, none⟩ ∧
      Plan.run Builtin.oracle.dialect ([.select [.name "a"] false, .fromSources [.table "t"],
        .having ⟨[(.raw ⟨"(WHERE)"⟩, .null)]⟩, .limit (.int 5)].map .ok) .empty = ⟨t, none⟩ ∧
      s.sql Builtin.oracle.dialect.toLexicon =
        "SELECT \x22a\x22 FROM \x22t\x22 WHERE ROWNUM <= 5 HAVING WHERE" ∧
      t.sql Builtin.oracle.dialect.toLexicon =
        "SELECT \x22a\x22 FROM \x22t\x22 HAVING WHERE AND (ROWNUM <= 5)") ∧
    ∃ d : Dialect, ∃ q : Query, q = ⟨d.toLexicon, Clause.final d .empty [.limit (.int 1)]⟩ ∧
      ∃ s t, Plan.run Builtin.oracle.dialect ([.select [.name "a"] false,
        .fromSources [.query q], .limit (.int 5),
        .orderBy ⟨[(.name "a", .null)]⟩].map .ok) .empty = ⟨s, none⟩ ∧
      Plan.run Builtin.oracle.dialect ([.select [.name "a"] false, .fromSources [.query q],
        .orderBy ⟨[(.name "a", .null)]⟩, .limit (.int 5)].map .ok) .empty = ⟨t, none⟩ ∧
      s.sql Builtin.oracle.dialect.toLexicon =
        "SELECT \x22a\x22 FROM UNION WHERE ROWNUM <= 5 ORDER BY \x22a\x22 ASC" ∧
      t.sql Builtin.oracle.dialect.toLexicon =
        "SELECT \x22a\x22 FROM UNION ORDER BY \x22a\x22 ASC WHERE ROWNUM <= 5" := by
  refine ⟨⟨by decide, _, _, rfl, rfl, rfl, rfl⟩, ?_⟩
  exact ⟨{ Builtin.genericDialect with paginate := fun _ _ => ⟨"UNION", .append⟩ }, _, rfl, _, _,
    rfl, rfl, rfl, rfl⟩

end Selection

end TerseSql
