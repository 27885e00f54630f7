import TerseSql.Proofs.Chain.Ending
import TerseSql.Proofs.Chain.Link

/-!
# Two spellings of a link

A query that is wrapped is added to a chain by `UNION ALL`, which is one term, or by a clause of its
own, with two terms for it. Statements that differ in this only have one text, and they keep it
through every run: what looks for terms takes both for the start of a link, and neither for WHERE.
-/

namespace TerseSql

open Statement Text

/-! ## Chains in parts -/

namespace Statement

variable {s : Statement}

theorem push_push (ts us : List String) : (s.push ts).push us = s.push (ts ++ us) := by
  unfold push
  rw [List.append_assoc]

theorem isEmpty_push {t : String} {ts : List String} : (s.push (t :: ts)).isEmpty = false := by
  simp [isEmpty, push]

theorem chain_append (xs ys : List Query) (s : Statement) :
    s.chain (xs ++ ys) = (s.chain xs).chain ys := by
  cases hempty : s.isEmpty with
  | false =>
    have hlonger : (s.push (xs.flatMap chained)).isEmpty = false := by
      unfold isEmpty at hempty ⊢
      simp_all [push]
    rw [chain_of_started hempty, chain_of_started hempty, chain_of_started hlonger, push_push,
      List.flatMap_append]
  | true =>
    cases xs with
    | nil => rfl
    | cons x xs =>
      rw [List.cons_append, chain_of_empty hempty, chain_of_empty hempty,
        chain_of_started isEmpty_push, push_push, List.flatMap_append, List.cons_append]

end Statement

/-! ## Respelled statements -/

/-- The same terms, or one `UNION ALL` of the first is two terms of the second. It is not what the
terms start with, and it would not be taken for a predicate. -/
inductive Respelled : List String → List String → Prop where
  | same (ts : List String) : Respelled ts ts
  | split {before : List String} (after : List String) : before ≠ [] → ¬EndsInWhere before →
      Respelled (before ++ (["UNION ALL"] ++ after)) (before ++ (["UNION", "ALL"] ++ after))

namespace Respelled

variable {ts us : List String}

theorem append (h : Respelled ts us) (added : List String) :
    Respelled (ts ++ added) (us ++ added) := by
  cases h with
  | same ts => exact .same _
  | split after hne hends =>
    simp only [List.append_assoc]
    exact .split (after ++ added) hne hends

theorem join_eq (h : Respelled ts us) : join " " ts = join " " us := by
  cases h with
  | same ts => rfl
  | split after hne _ =>
    have hall : glued " " ["UNION ALL"] = glued " " ["UNION", "ALL"] := by decide
    rw [join_append " " hne, join_append " " hne, glued_append, glued_append, hall]

theorem isEmpty_eq (h : Respelled ts us) : ts.isEmpty = us.isEmpty := by
  cases h with
  | same ts => rfl
  | split after hne _ =>
    obtain ⟨t, before, rfl⟩ := List.exists_cons_of_ne_nil hne
    rfl

theorem place {p : Pagination} (hp : p.IsPlaced) (h : Respelled ts us) :
    Respelled (place p ts) (place p us) := by
  cases h with
  | same ts => exact .same _
  | split after hne hends =>
    -- The window goes to one place, whatever the terms of the link, if none of them is WHERE.
    obtain ⟨before', after', hne', hends', hplace⟩ := hp.exists_around hne hends after
    have hone := hplace "UNION ALL" [] (by decide) (by decide)
    have htwo := hplace "UNION" ["ALL"] (by decide) (by decide)
    rw [hone, htwo]
    exact .split after' hne' hends'

end Respelled

namespace Statement

structure Respelled (s t : Statement) : Prop where
  terms : TerseSql.Respelled s.terms t.terms
  primary : s.primary = t.primary
  wrapping : s.wrapping = t.wrapping

namespace Respelled

variable {s t : Statement} (h : s.Respelled t)
include h

theorem sql (l : Lexicon) : s.sql l = t.sql l := by
  unfold Statement.sql body
  rw [h.wrapping, h.terms.join_eq]

theorem push (added : List String) : (s.push added).Respelled (t.push added) where
  terms := h.terms.append added
  primary := h.primary
  wrapping := h.wrapping

theorem chain (queries : List Query) : (s.chain queries).Respelled (t.chain queries) := by
  have hsame : s.isEmpty = t.isEmpty := h.terms.isEmpty_eq
  cases queries with
  | nil => exact h
  | cons q queries =>
    cases hempty : s.isEmpty with
    | true =>
      rw [chain_of_empty hempty, chain_of_empty (hsame ▸ hempty)]
      exact h.push _
    | false =>
      rw [chain_of_started hempty, chain_of_started (hsame ▸ hempty)]
      exact h.push _

end Respelled

end Statement

structure Outcome.Respelled (o o' : Outcome) : Prop where
  error : o.error = o'.error
  statement : o.statement.Respelled o'.statement

/-! ## Runs -/

section

variable {b : Builtin} {s t : Statement}

/-- A clause fails on both statements, or it keeps them respelled. -/
theorem Clause.run_respelled (c : Clause) (h : s.Respelled t) :
    (∃ s' t', (c.add b.dialect).run s = .ok () s' ∧ (c.add b.dialect).run t = .ok () t' ∧
      s'.Respelled t') ∨
    ∃ e, (c.add b.dialect).run s = .error e s ∧ (c.add b.dialect).run t = .error e t := by
  cases c.effect b.dialect s.primary with
  | places w hplaces =>
    refine .inl ⟨_, _, hplaces s, hplaces t, ?_⟩
    exact ⟨h.terms.place (w.isPlaced b), h.primary, h.wrapping⟩
  | adds _ hadds =>
    exact .inl ⟨_, _, hadds s rfl, hadds t h.primary.symm, ⟨h.terms.append _, rfl, h.wrapping⟩⟩
  | fails hfails => exact .inr ⟨_, hfails s rfl, hfails t h.primary.symm⟩

theorem Plan.run_respelled (p : Plan) (h : s.Respelled t) :
    (run b.dialect p s).Respelled (run b.dialect p t) := by
  obtain ⟨herror, hstatement⟩ := run_related (fun c _ _ h => c.run_respelled (b := b) h) p h
  exact ⟨herror, hstatement⟩

theorem finish_respelled (wrapping : Option Wrapping) {o o' : Outcome} (h : o.Respelled o') :
    (finish wrapping o).Respelled (finish wrapping o') := by
  obtain ⟨s, e⟩ := o
  obtain ⟨s', e'⟩ := o'
  obtain ⟨herror, hs⟩ := h
  obtain rfl : e = e' := herror
  cases e with
  | some e => cases wrapping <;> exact ⟨rfl, hs⟩
  | none =>
    cases wrapping with
    | none => exact ⟨rfl, hs⟩
    | some w => exact ⟨rfl, hs.terms, hs.primary, rfl⟩

theorem Call.run_respelled (call : Call) (h : s.Respelled t) :
    (run b.dialect s call).Respelled (run b.dialect t call) := by
  cases call with
  | clause c => exact Plan.run_respelled _ h
  | select sources columns conditions options => exact finish_respelled _ (Plan.run_respelled _ h)
  | update table sets conditions => exact Plan.run_respelled _ h
  | delete table conditions => exact Plan.run_respelled _ h
  | insert table head rows => exact Plan.run_respelled _ h
  | union queries => exact ⟨rfl, h.chain queries⟩
  | wrap aliasName => exact ⟨rfl, h.terms, h.primary, rfl⟩
  | clear => exact ⟨rfl, .same _, rfl, rfl⟩

theorem Call.trace_respelled (calls : List Call) (h : s.Respelled t) :
    List.Forall₂ Outcome.Respelled (trace b.dialect calls s) (trace b.dialect calls t) := by
  induction calls generalizing s t with
  | nil => exact .nil
  | cons c calls ih =>
    have hrun := c.run_respelled (b := b) h
    exact .cons hrun (ih hrun.statement)

end

/-! ## Links -/

def Query.unwrapped (q : Query) : Query :=
  { q with statement := { q.statement with wrapping := .unset } }

def Outcome.Agrees (l : Lexicon) (o o' : Outcome) : Prop :=
  o.error = o'.error ∧ o.statement.sql l = o'.statement.sql l

theorem Outcome.Respelled.agrees {o o' : Outcome} (h : o.Respelled o') (l : Lexicon) :
    o.Agrees l o' :=
  ⟨h.error, h.statement.sql l⟩

namespace Call

theorem union_respelled (b : Builtin) {s : Statement} (hs : s.terms ≠ [])
    (hends : ¬EndsInWhere s.terms) (q : Query) :
    (run b.dialect s (.union [q])).Respelled
      (run b.dialect s (.clause (.union q.unwrapped q.wrapping.isSet))) := by
  have hstarted : s.isEmpty = false := by simpa [isEmpty] using hs
  have hchain : run b.dialect s (.union [q]) = ⟨s.push (chained q), none⟩ := by
    rw [run, chain_of_started hstarted, List.flatMap_singleton]
  rw [hchain]
  refine ⟨rfl, ?_, rfl, rfl⟩
  show TerseSql.Respelled (s.terms ++ chained q)
    (s.terms ++ ("UNION" :: (if q.wrapping.isSet then ["ALL"] else []) ++ [q.body]))
  unfold chained
  by_cases hset : q.wrapping.isSet = true
  · rw [if_pos hset, if_pos hset]
    exact .split [q.body] hs hends
  · rw [if_neg hset, if_neg hset, q.sql_of_not_set hset]
    exact .same _

/-- A chain is added in parts as it is added at once, and a query is added to a statement by a union
as by a clause of its own: the text is the same, and so are the text and the error after every
further call. The statement must not end in a WHERE, which the union would be the predicate of. It
does not if no raw SQL and no query in it is a keyword. -/
theorem union_spellings_agree (b : Builtin) :
    (∀ d s xs ys, run d s (.union (xs ++ ys)) =
      run d (run d s (.union xs)).statement (.union ys)) ∧
    (∀ s q, s.terms ≠ [] → ¬EndsInWhere s.terms →
      let linked := run b.dialect s (.union [q])
      let spelled := run b.dialect s (.clause (.union q.unwrapped q.wrapping.isSet))
      linked.error = none ∧ linked.Agrees b.dialect.toLexicon spelled ∧
      ∀ calls, List.Forall₂ (Outcome.Agrees b.dialect.toLexicon)
        (trace b.dialect calls linked.statement) (trace b.dialect calls spelled.statement)) ∧
    ∀ calls, (∀ c ∈ calls, c.IsKeywordFree) →
      ¬EndsInWhere (final b.dialect .empty calls).terms := by
  refine ⟨fun d s xs ys => ?_, fun s q hs hends => ?_, fun calls h => ?_⟩
  · rw [run, chain_append]
    rfl
  · have hunion := union_respelled b hs hends q
    refine ⟨rfl, hunion.agrees _, fun calls => ?_⟩
    exact (trace_respelled calls hunion.statement).imp fun _ _ h => h.agrees _
  · exact final_ending h (by simp [Statement.empty])

/-! ## Windows behind a link -/

def selectFrom (source : Source) : List Call :=
  [.clause (.select [.name "a"] false), .clause (.fromSources [source])]

def wrappedQuery : Query :=
  query Builtin.oracle.dialect (selectFrom (.table "u") ++ [.wrap (some "x")])

def spelledLink : Call :=
  .clause (.union wrappedQuery.unwrapped wrappedQuery.wrapping.isSet)

/-- A call fails behind the link, and a window goes before it. -/
theorem union_spellings_agree_window :
    let calls := selectFrom (.table "t") ++ [.clause (.filter ⟨[(.name "b", .int 1)]⟩)]
    let s := final Builtin.oracle.dialect .empty calls
    let linked := (run Builtin.oracle.dialect s (.union [wrappedQuery])).statement
    let spelled := (run Builtin.oracle.dialect s spelledLink).statement
    let rest := [.clause (.fromSources []), .clause (.limit (.int 5))]
    (∀ c ∈ calls, c.IsKeywordFree) ∧ s.terms ≠ [] ∧ ¬EndsInWhere s.terms ∧
    List.Forall₂ (Outcome.Agrees Builtin.oracle.dialect.toLexicon)
      (trace Builtin.oracle.dialect rest linked) (trace Builtin.oracle.dialect rest spelled) ∧
    (final Builtin.oracle.dialect linked rest).sql Builtin.oracle.dialect.toLexicon =
      "SELECT \x22a\x22 FROM \x22t\x22 WHERE \x22b\x22 = 1 AND (ROWNUM <= 5) " ++
        "UNION ALL SELECT \x22a\x22 FROM \x22u\x22" := by
  intro calls s linked spelled rest
  obtain ⟨-, hagree, hending⟩ := union_spellings_agree .oracle
  have hfree : ∀ c ∈ calls, c.IsKeywordFree := by
    have hcalls : calls = [.clause (.select [.name "a"] false),
        .clause (.fromSources [.table "t"]), .clause (.filter ⟨[(.name "b", .int 1)]⟩)] := rfl
    rw [hcalls]
    simp only [List.forall_mem_cons]
    refine ⟨?_, ?_, ?_, fun c hc => nomatch hc⟩
    · simp [IsKeywordFree, Clause.IsKeywordFree]
    · simp [IsKeywordFree, Clause.IsKeywordFree]
    · intro r hr
      cases hr
  have hs : s.terms ≠ [] := List.cons_ne_nil _ _
  have hends := hending calls hfree
  obtain ⟨-, -, htrace⟩ := hagree s wrappedQuery hs hends
  exact ⟨hfree, hs, hends, htrace rest, rfl⟩

/-- A raw condition in parentheses is a WHERE once the root has lost them, and a query in FROM may
be one: then a window is put elsewhere in one spelling than in the other. -/
theorem union_spellings_differ_of_keywords :
    let text := fun s calls =>
      (final Builtin.oracle.dialect s calls).sql Builtin.oracle.dialect.toLexicon
    let window : Call := .clause (.limit (.int 5))
    ("(WHERE)" ∉ keywords ∧ ∃ s,
      s = final Builtin.oracle.dialect .empty
        (selectFrom (.table "t") ++ [.clause (.having ⟨[(.raw ⟨"(WHERE)"⟩, .null)]⟩)]) ∧
      s.isEmpty = false ∧
      text s [.union [wrappedQuery], window] =
        "SELECT \x22a\x22 FROM \x22t\x22 HAVING WHERE UNION ALL AND (ROWNUM <= 5) " ++
          "SELECT \x22a\x22 FROM \x22u\x22" ∧
      text s [spelledLink, window] =
        "SELECT \x22a\x22 FROM \x22t\x22 HAVING WHERE UNION AND (ROWNUM <= 5) ALL " ++
          "SELECT \x22a\x22 FROM \x22u\x22") ∧
    ∃ d : Dialect, ∃ q s, q = query d [.clause (.limit (.int 1))] ∧ q.sql = "WHERE" ∧
      s = final Builtin.oracle.dialect .empty (selectFrom (.query q)) ∧ s.isEmpty = false ∧
      text s [.union [wrappedQuery], window] =
        "SELECT \x22a\x22 FROM WHERE UNION ALL AND (ROWNUM <= 5) " ++
          "SELECT \x22a\x22 FROM \x22u\x22" ∧
      text s [spelledLink, window] =
        "SELECT \x22a\x22 FROM WHERE UNION AND (ROWNUM <= 5) ALL " ++
          "SELECT \x22a\x22 FROM \x22u\x22" := by
  refine ⟨⟨by decide, _, rfl, rfl, rfl, rfl⟩, ?_⟩
  exact ⟨{ Builtin.genericDialect with paginate := fun _ _ => ⟨"WHERE", .append⟩ }, _, _, rfl, rfl,
    rfl, rfl, rfl, rfl⟩

end Call

end TerseSql
