import TerseSql.Proofs.Window.Sections

/-!
# Selections

A selection opens with SELECT and FROM, perhaps joins and a WHERE. What it opens with is its
first sections, if no raw SQL or query in it is a keyword, and each clause after WHERE adds to
the last one.
-/

namespace TerseSql

open Statement Building Condition

/-! ## Plain clauses -/

/-- No raw SQL and no query in the clause stands where it would be taken for a keyword. -/
def Clause.IsPlain : Clause → Prop
  | select columns _ | groupBy columns => ∀ r, .raw r ∈ columns → r.sql ∉ keywords
  | fromSources sources =>
    (∀ r, .raw r ∈ sources → r.sql ∉ keywords) ∧ ∀ q, .query q ∈ sources → q.sql ∉ keywords
  | having conditions =>
    ∀ r, Tree.loneOf? (Tree.ofDict conditions) = some r → Shielded r.sql
  | _ => True

namespace Building

theorem leads_lift {α β : Type} {R : Statement → Statement → Prop} {P : α → Prop} {x : Built α}
    (hx : Gives P x) {f : α → Building β} (hf : ∀ a, P a → (f a).Leads R) :
    (liftM x >>= f).Leads R := by
  intro s b t h
  cases x with
  | error e => cases h
  | ok a => exact hf a (hx a rfl) s b t h

end Building

namespace Statement

def ExtendsPlainly (s t : Statement) : Prop :=
  ∃ added, t.terms = s.terms ++ added ∧ ∀ term ∈ added, term ∉ keywords

theorem ExtendsPlainly.refl (s : Statement) : s.ExtendsPlainly s :=
  ⟨[], (List.append_nil _).symm, List.forall_mem_nil _⟩

theorem ExtendsPlainly.trans (s t u : Statement) (hst : s.ExtendsPlainly t)
    (htu : t.ExtendsPlainly u) : s.ExtendsPlainly u := by
  obtain ⟨a, ha, hplain⟩ := hst
  obtain ⟨b, hb, hplain'⟩ := htu
  refine ⟨a ++ b, by rw [hb, ha, List.append_assoc], fun term hterm => ?_⟩
  rcases List.mem_append.mp hterm with h | h
  · exact hplain term h
  · exact hplain' term h

theorem leads_add_plain {terms : List String} (h : ∀ term ∈ terms, term ∉ keywords) :
    (add terms).Leads ExtendsPlainly :=
  leads_modify fun _ => ⟨terms, rfl, h⟩

end Statement

namespace Clause

def isRelational : Clause → Bool
  | fromSources _ | into _ | join _ => true
  | _ => false

theorem leads_plainly (b : Builtin) {c : Clause} (h : c.isRelational = true) (hplain : c.IsPlain) :
    (c.add b.dialect).Leads ExtendsPlainly := by
  cases c with
  | fromSources sources =>
    refine leads_lift (sourceList_not_keyword b hplain.1 hplain.2) fun source hsource => ?_
    intro s a t h
    cases h
    have hfrom : "FROM" ∉ keywords := by decide
    exact ⟨["FROM", source.1], rfl, by simpa using ⟨hfrom, hsource⟩⟩
  | into table =>
    refine leads_lift (P := fun _ => True) (fun _ _ => trivial) fun t _ => ?_
    have hinto : "INTO" ∉ keywords := by decide
    have htable := Text.not_keyword_of_foreign (hasForeign_table b t)
    exact leads_add_plain (by simpa using ⟨hinto, htable⟩)
  | join joins =>
    refine readsOnly_get.bind_leads fun s => ?_
    refine leads_lift (joins_not_keyword b s.primary joins) fun text htext => ?_
    exact leads_add_plain (by simpa using htext)
  | _ => cases h

end Clause

/-! ## Openings -/

structure Selection where
  columns : List Column
  distinct : Bool
  sources : List Source
  joins : Option (Dict Value)
  conditions : Option (Dict Value)

namespace Selection

variable (o : Selection)

def keyword : String :=
  if o.distinct then "SELECT DISTINCT" else "SELECT"

def relation : List Clause :=
  .select o.columns o.distinct :: .fromSources o.sources :: (o.joins.map .join).toList

def clauses : List Clause :=
  o.relation ++ (o.conditions.map .filter).toList

def predicate (d : Dialect) : Built (List String) :=
  match o.conditions with
  | none => .ok []
  | some conditions =>
    if conditions.isEmpty then .ok [] else do return [← Condition.render d conditions]

variable {o} {b : Builtin} {s : Statement}

theorem leads_relation (c : Clause) (hc : c ∈ o.relation) (hplain : c.IsPlain) :
    (c.add b.dialect).Leads ExtendsPlainly := by
  rcases List.mem_cons.mp hc with rfl | hc
  · refine leads_lift (selectList_not_keyword b hplain) fun text htext => ?_
    have hkeyword : o.keyword ∉ keywords := by
      unfold keyword
      cases o.distinct <;> decide
    exact leads_add_plain (by simpa using ⟨hkeyword, htext⟩)
  rcases List.mem_cons.mp hc with rfl | hc
  · exact Clause.leads_plainly b rfl hplain
  · obtain ⟨joins, _, rfl⟩ := Option.map_eq_some_iff.mp (Option.mem_toList.mp hc)
    exact Clause.leads_plainly b rfl hplain

theorem run_filter {d : Dialect} {m : Statement}
    (h : Plan.run d ((o.conditions.map Clause.filter).toList.map .ok) m = ⟨s, none⟩) :
    ∃ ps, o.predicate d = .ok ps ∧ s = m.push (whereTerms ps) := by
  unfold predicate
  cases hconditions : o.conditions with
  | none =>
    rw [hconditions] at h
    cases h
    exact ⟨[], rfl, by simp [push, whereTerms]⟩
  | some conditions =>
    rw [hconditions] at h
    have hadds : (Clause.add d (.filter conditions)).Adds (predicateTerms d "WHERE" conditions) :=
      adds_withPredicate d _ conditions
    obtain ⟨t, hfilter, hrest⟩ := Plan.exists_of_run_cons h
    obtain ⟨added, hadded, rfl⟩ := exists_of_adds hadds hfilter
    cases hrest
    dsimp only
    unfold predicateTerms at hadded
    -- No conditions add no terms, not even the keyword.
    by_cases hempty : conditions.isEmpty = true
    · rw [if_pos hempty] at hadded ⊢
      cases hadded
      exact ⟨[], rfl, rfl⟩
    · rw [if_neg hempty] at hadded ⊢
      obtain ⟨text, hrender, hadded⟩ := Built.exists_of_bind hadded
      cases hadded
      rw [hrender]
      exact ⟨[text], rfl, rfl⟩

/-- What is there once a selection is opened, in sections. -/
theorem run_clauses (hplain : ∀ c ∈ o.clauses, c.IsPlain)
    (h : Plan.run b.dialect (o.clauses.map .ok) .empty = ⟨s, none⟩) :
    ∃ x : Sections, s.terms = x.terms ∧ o.predicate b.dialect = .ok x.predicate ∧ x.tail = [] := by
  unfold clauses at h hplain
  rw [List.map_append] at h
  obtain ⟨m, hrelation, hfilter⟩ := Plan.exists_of_run_append h
  have hextends : ExtendsPlainly .empty m := by
    refine Plan.run_leads ExtendsPlainly.refl ExtendsPlainly.trans (fun c hc => ?_) hrelation
    obtain ⟨c', hc', heq⟩ := List.mem_map.mp hc
    cases heq
    exact leads_relation c hc' (hplain c (List.mem_append_left _ hc'))
  obtain ⟨head, hm, hhead⟩ := hextends
  obtain ⟨ps, hps, rfl⟩ := run_filter hfilter
  refine ⟨⟨head, ps, [], hhead, IsTail.nil⟩, ?_, hps, rfl⟩
  show m.terms ++ whereTerms ps = head ++ whereTerms ps ++ []
  rw [hm, List.append_nil]
  rfl

theorem run_keyword {d : Dialect} (h : Plan.run d (o.clauses.map .ok) .empty = ⟨s, none⟩) :
    ∃ rest, s.terms = o.keyword :: rest := by
  have hgoes : ∀ c ∈ o.clauses, (c.add d).Leads fun s t => s.terms <+: t.terms := by
    intro c hc s a t hct
    have hleaves := c.leads_add d s a t hct
    cases c with
    | limit v => simp [clauses, relation] at hc
    | fromSources sources => exact GoesOn.terms hleaves
    | _ => exact (Grows.toGoesOn hleaves).terms
  have hadds : (Clause.add d (.select o.columns o.distinct)).Adds
      (selectList d o.columns >>= fun list => pure [o.keyword, list]) :=
    adds_bind _ fun _ => adds_add _
  have hsplit : o.clauses = .select o.columns o.distinct :: o.clauses.tail := rfl
  rw [hsplit, List.map_cons] at h
  obtain ⟨m, hselect, hrest⟩ := Plan.exists_of_run_cons h
  obtain ⟨added, hadded, rfl⟩ := exists_of_adds hadds hselect
  obtain ⟨list, _, hadded⟩ := Built.exists_of_bind hadded
  cases hadded
  -- What SELECT has put first stays first.
  have hfirst : [o.keyword, list] <+: s.terms := by
    refine Plan.run_leads (R := fun s t => s.terms <+: t.terms) (fun _ => List.prefix_rfl)
      (fun _ _ _ => List.IsPrefix.trans) (fun c hc => ?_) hrest
    obtain ⟨c', hc', heq⟩ := List.mem_map.mp hc
    cases heq
    exact hgoes c (List.mem_of_mem_tail hc')
  obtain ⟨rest, hrest⟩ := hfirst
  exact ⟨list :: rest, hrest.symm⟩

end Selection

/-! ## Clauses after WHERE -/

namespace Clause

def isTrailing : Clause → Bool
  | orderBy _ | groupBy _ | having _ => true
  | _ => false

def tailTerms (d : Dialect) : Clause → Built (List String)
  | orderBy orders => do return ["ORDER BY", ← Order.render d.toLexicon orders]
  | groupBy columns => do return ["GROUP BY", ← groupList d columns]
  | having conditions => predicateTerms d "HAVING" conditions
  | _ => .ok []

theorem adds_tailTerms (d : Dialect) {c : Clause} (h : c.isTrailing = true) :
    (c.add d).Adds (c.tailTerms d) := by
  cases c with
  | orderBy orders => exact adds_bind _ fun _ => adds_add _
  | groupBy columns => exact adds_bind _ fun _ => adds_add _
  | having conditions => exact adds_withPredicate d _ conditions
  | _ => cases h

theorem isTail_tailTerms (b : Builtin) {c : Clause} (hplain : c.IsPlain) :
    Gives IsTail (c.tailTerms b.dialect) := by
  cases c with
  | orderBy orders =>
    refine Gives.bind (order_not_keyword b orders) fun text htext => ?_
    exact Gives.pure (IsTail.pair (by decide) htext)
  | groupBy columns =>
    refine Gives.bind (groupList_not_keyword b hplain) fun text htext => ?_
    exact Gives.pure (IsTail.pair (by decide) htext)
  | having conditions =>
    show Gives IsTail (predicateTerms b.dialect "HAVING" conditions)
    unfold predicateTerms
    by_cases hempty : conditions.isEmpty = true
    · rw [if_pos hempty]
      exact Gives.pure IsTail.nil
    · rw [if_neg hempty]
      refine Gives.bind (Tree.predicate_not_keyword b hplain) fun text htext => ?_
      exact Gives.pure (IsTail.pair (by decide) htext)
  | _ => exact Gives.pure IsTail.nil

end Clause

namespace Plan

variable {d : Dialect}

/-- Clauses after WHERE add the same terms to any statement. -/
theorem run_trailing {cs : List Clause} (hcs : ∀ c ∈ cs, c.isTrailing = true) {s t : Statement}
    (h : run d (cs.map .ok) s = ⟨t, none⟩) :
    ∃ tss, List.Forall₂ (fun c ts => c.tailTerms d = .ok ts) cs tss ∧
      ∀ s, run d (cs.map .ok) s = ⟨s.push tss.flatten, none⟩ := by
  induction cs generalizing s with
  | nil => exact ⟨[], .nil, fun s => by simp [run, push]⟩
  | cons c cs ih =>
    have hadds := c.adds_tailTerms d (hcs c List.mem_cons_self)
    obtain ⟨ts, hts, hrun⟩ := exists_terms hadds (congrArg Outcome.error h)
    rw [List.map_cons] at h
    rw [hrun] at h
    obtain ⟨tss, htss, hall⟩ := ih (fun c hc => hcs c (List.mem_cons_of_mem _ hc)) h
    refine ⟨ts :: tss, .cons hts htss, fun s => ?_⟩
    rw [List.map_cons, run_cons_of_adds_ok hadds hts, hall]
    simp [push]

end Plan

theorem isTail_flatten {b : Builtin} {cs : List Clause} (hplain : ∀ c ∈ cs, c.IsPlain)
    {tss : List (List String)}
    (h : List.Forall₂ (fun c ts => c.tailTerms b.dialect = .ok ts) cs tss) :
    IsTail tss.flatten := by
  induction h with
  | nil => exact IsTail.nil
  | @cons c ts cs tss hts _ ih =>
    have hfirst := Clause.isTail_tailTerms b (hplain c List.mem_cons_self) ts hts
    rw [List.flatten_cons]
    exact hfirst.append (ih fun c hc => hplain c (List.mem_cons_of_mem _ hc))

end TerseSql
