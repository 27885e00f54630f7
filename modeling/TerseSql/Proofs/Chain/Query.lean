import TerseSql.Proofs.Window.Merged
import TerseSql.Proofs.Window.Position

/-!
# Queries that select rows

A query that selects rows opens with SELECT and its columns. It has at most one WHERE, and before
it no clause that follows WHERE. Each of its clauses keeps that so, and so does a window wherever
the dialect puts it.
-/

namespace TerseSql

open Statement Building Condition Text

/-! ## Terms in sections -/

/-- The terms of a query that selects rows. One of its columns, at least, goes by a name. -/
structure SelectTerms extends Sections where
  keyword : String
  rest : List String
  opens : keyword = "SELECT" ∨ keyword = "SELECT DISTINCT"
  head_eq : head = keyword :: rest
  named : ∃ t ∈ rest, hasNaming t = true
  predicate_plain : ∀ t ∈ predicate, t ∉ keywords

namespace SelectTerms

variable (x : SelectTerms)

theorem exists_tail {ts : List String} (hts : IsTail ts) :
    ∃ y : SelectTerms, y.terms = x.terms ++ ts :=
  ⟨{ x with toSections := x.append ts hts }, x.terms_append hts⟩

/-- Terms that are no keywords go on with the last section that is not empty. -/
theorem exists_plain {ts : List String} (hts : ∀ t ∈ ts, t ∉ keywords) :
    ∃ y : SelectTerms, y.terms = x.terms ++ ts := by
  have hplain : ∀ {us : List String}, (∀ t ∈ us, t ∉ keywords) →
      ∀ t ∈ us ++ ts, t ∉ keywords :=
    fun hus t ht => (List.mem_append.mp ht).elim (hus t) (hts t)
  cases htail : x.tail with
  | cons u tail =>
    have hopens : IsTail (x.tail ++ ts) :=
      { opens := fun ht => x.isTail.opens (by rw [htail] at ht ⊢; exact ht)
        plain := by
          rw [List.mem_append, not_or]
          exact ⟨x.isTail.plain, fun h => hts _ h (by decide)⟩ }
    refine ⟨{ x with tail := x.tail ++ ts, isTail := hopens }, ?_⟩
    simp only [Sections.terms, List.append_assoc]
  | nil =>
    by_cases hpredicate : x.predicate = []
    · refine ⟨{ x with head := x.head ++ ts, rest := x.rest ++ ts,
                       head_plain := hplain x.head_plain, head_eq := by rw [x.head_eq]; rfl,
                       named := x.named.imp fun t ht => ⟨List.mem_append_left _ ht.1, ht.2⟩ }, ?_⟩
      simp [Sections.terms, whereTerms, hpredicate, htail]
    · refine ⟨{ x with predicate := x.predicate ++ ts,
                       predicate_plain := hplain x.predicate_plain }, ?_⟩
      simp [Sections.terms, whereTerms, hpredicate, htail]

theorem exists_second {f : String} (hf : f ∉ keywords) :
    ∃ y : SelectTerms, y.terms = place ⟨f, .index 1⟩ x.terms := by
  have hplain : ∀ t ∈ x.keyword :: f :: x.rest, t ∉ keywords := by
    have hhead := x.head_plain
    rw [x.head_eq, List.forall_mem_cons] at hhead
    exact List.forall_mem_cons.mpr ⟨hhead.1, List.forall_mem_cons.mpr ⟨hf, hhead.2⟩⟩
  refine ⟨{ x with head := x.keyword :: f :: x.rest, rest := f :: x.rest, head_plain := hplain,
                   head_eq := rfl,
                   named := x.named.imp fun t ht => ⟨List.mem_cons_of_mem _ ht.1, ht.2⟩ }, ?_⟩
  simp only [Sections.terms, x.head_eq, List.cons_append, place_second]

theorem exists_conjoin {f : String} (hf : hasForeign f = true) :
    ∃ y : SelectTerms, y.toSections = x.conjoin f :=
  ⟨{ x with toSections := x.conjoin f, predicate_plain := plain_conjoined hf x.predicate_plain },
    rfl⟩

end SelectTerms

def Statement.KeepsSelect (s t : Statement) : Prop :=
  (∃ x : SelectTerms, s.terms = x.terms) → ∃ y : SelectTerms, t.terms = y.terms

/-! ## Clauses -/

theorem Window.fragment_cases (b : Builtin) (w : Window) :
    ∃ f, hasForeign f = true ∧ (w.fragment b.dialect.toLexicon = ⟨f, .append⟩ ∨
      w.fragment b.dialect.toLexicon = ⟨f, .index 1⟩ ∨
      w.fragment b.dialect.toLexicon = ⟨f, .inWhere⟩) := by
  have hlimit : hasForeign "LIMIT " = true := by decide
  have hstandard : hasForeign (Pagination.limitOffset w.count w.offset) = true := by
    unfold Pagination.limitOffset
    cases w.offset <;> simp [hlimit]
  cases b with
  | oracle => exact ⟨_, w.hasForeign_rowNumbers, Or.inr (Or.inr rfl)⟩
  | mssql =>
    have htop : hasForeign "TOP " = true := by decide
    have hoffset : hasForeign "OFFSET " = true := by decide
    cases hm : w.offset with
    | none => exact ⟨_, by simp [htop], Or.inr (Or.inl (Window.fragment_top hm))⟩
    | some m =>
      refine ⟨_, ?_, Or.inl (Window.fragment_offset hm)⟩
      simp [Pagination.offsetFetch, hoffset]
  | _ => exact ⟨_, hstandard, Or.inl rfl⟩

theorem SelectTerms.exists_window (x : SelectTerms) (b : Builtin) (w : Window) :
    ∃ y : SelectTerms, y.terms = place (w.fragment b.dialect.toLexicon) x.terms := by
  obtain ⟨f, hf, hfragment⟩ := w.fragment_cases b
  have hplain := not_keyword_of_foreign hf
  rcases hfragment with hfragment | hfragment | hfragment
  · rw [hfragment]
    exact x.exists_plain (by simpa using hplain)
  · rw [hfragment]
    exact x.exists_second hplain
  · obtain ⟨y, hy⟩ := x.exists_conjoin hf
    exact ⟨y, by rw [hfragment, x.place_terms, ← hy]⟩

namespace Clause

/-- No raw SQL and no query stands in the clause where it could be taken for a keyword. -/
def IsRawless : Clause → Prop
  | select columns _ | groupBy columns => ∀ r, .raw r ∉ columns
  | fromSources sources => (∀ r, .raw r ∉ sources) ∧ ∀ q, .query q ∈ sources → q.sql ∉ keywords
  | filter conditions | having conditions => Tree.loneOf? (Tree.ofDict conditions) = none
  | existence q => q.sql ∉ keywords
  | _ => True

/-- A clause that may come after WHERE, and does not change rows. -/
def concludes : Clause → Bool
  | existence _ => true
  | c => c.followsPredicate

theorem IsRawless.isPlain {c : Clause} (h : c.IsRawless) : c.IsPlain := by
  cases c with
  | select columns distinct => exact fun r hr => absurd hr (h r)
  | groupBy columns => exact fun r hr => absurd hr (h r)
  | fromSources sources => exact ⟨fun r hr => absurd hr (h.1 r), h.2⟩
  | having conditions =>
    intro r hr
    rw [IsRawless] at h
    rw [h] at hr
    cases hr
  | _ => trivial

variable {b : Builtin} {c : Clause}

theorem leads_keepsSelect (hc : c.concludes = true) (hraw : c.IsRawless) :
    (c.add b.dialect).Leads KeepsSelect := by
  rintro s _ t h ⟨x, hs⟩
  have htrailing : c.isTrailing = true → ∃ y : SelectTerms, t.terms = y.terms := by
    intro htrailing
    obtain ⟨ts, hterms, rfl⟩ := exists_of_adds (c.adds_tailTerms _ htrailing) h
    obtain ⟨y, hy⟩ := x.exists_tail (isTail_tailTerms b hraw.isPlain ts hterms)
    refine ⟨y, ?_⟩
    rw [hy, ← hs]
    rfl
  cases c with
  | existence q =>
    cases h
    have hexists : "EXISTS" ∉ keywords := by decide
    have hplain : ∀ t ∈ ["EXISTS", q.sql], t ∉ keywords := by simpa using ⟨hexists, hraw⟩
    obtain ⟨y, hy⟩ := x.exists_plain hplain
    refine ⟨y, ?_⟩
    rw [hy, ← hs]
    rfl
  | limit v =>
    obtain ⟨w, -, rfl⟩ := exists_window _ s h
    obtain ⟨y, hy⟩ := x.exists_window b w
    exact ⟨y, by rw [hy, ← hs]⟩
  | orderBy orders => exact htrailing rfl
  | groupBy columns => exact htrailing rfl
  | having conditions => exact htrailing rfl
  | _ => cases hc

end Clause

/-! ## Plans -/

/-- A plan that selects rows: SELECT, the clauses between it and WHERE, perhaps WHERE, and the
clauses after it. -/
structure SelectPlan where
  columns : List Column
  distinct : Bool
  relation : Plan
  conditions : Option (Dict Value)
  rest : Plan
  isRelational : ∀ c, .ok c ∈ relation → c.isRelational = true
  concludes : ∀ c, .ok c ∈ rest → c.concludes = true

namespace SelectPlan

def opening (p : SelectPlan) : Selection :=
  ⟨p.columns, p.distinct, [], none, p.conditions⟩

def plan (p : SelectPlan) : Plan :=
  .ok (.select p.columns p.distinct) ::
    (p.relation ++ ((p.conditions.map Clause.filter).toList.map .ok ++ p.rest))

variable {b : Builtin} {p : SelectPlan} (hraw : ∀ c, .ok c ∈ p.plan → c.IsRawless)
include hraw

theorem exists_head {s m : Statement} {list : String}
    (hselect : selectList b.dialect p.columns = .ok list)
    (hs : s = Statement.empty.push [p.opening.keyword, list])
    (h : Plan.run b.dialect p.relation s = ⟨m, none⟩) :
    ∃ x : SelectTerms, m.terms = x.head ∧ x.tail = [] := by
  have hcolumns := hraw (.select p.columns p.distinct) List.mem_cons_self
  have hlist := selectList_named b hcolumns list hselect
  have hkeyword : p.opening.keyword ∉ keywords := by
    unfold Selection.keyword
    cases p.opening.distinct <;> decide
  have hopens : p.opening.keyword = "SELECT" ∨ p.opening.keyword = "SELECT DISTINCT" := by
    unfold Selection.keyword
    cases p.opening.distinct <;> simp
  -- The clauses before WHERE add nothing that is a keyword.
  obtain ⟨added, hm, hadded⟩ := Plan.run_leads ExtendsPlainly.refl ExtendsPlainly.trans
    (fun c hc => Clause.leads_plainly b (p.isRelational c hc)
      (hraw c (List.mem_cons_of_mem _ (List.mem_append_left _ hc))).isPlain) h
  have hplain : ∀ t ∈ p.opening.keyword :: list :: added, t ∉ keywords :=
    List.forall_mem_cons.mpr ⟨hkeyword, List.forall_mem_cons.mpr
      ⟨not_keyword_of_foreign (hasForeign_of_naming hlist), hadded⟩⟩
  refine ⟨{ head := p.opening.keyword :: list :: added, predicate := [], tail := [],
            head_plain := hplain, isTail := IsTail.nil, keyword := p.opening.keyword,
            rest := list :: added, opens := hopens, head_eq := rfl,
            named := ⟨list, List.mem_cons_self, hlist⟩,
            predicate_plain := List.forall_mem_nil _ }, ?_, rfl⟩
  rw [hm, hs]
  rfl

theorem plain_predicate {ps : List String} (hps : p.opening.predicate b.dialect = .ok ps) :
    ∀ t ∈ ps, t ∉ keywords := by
  unfold Selection.predicate at hps
  cases hconditions : p.opening.conditions with
  | none =>
    rw [hconditions] at hps
    cases hps
    exact List.forall_mem_nil _
  | some conditions =>
    rw [hconditions] at hps
    dsimp only at hps
    by_cases hempty : conditions.isEmpty = true
    · rw [if_pos hempty] at hps
      cases hps
      exact List.forall_mem_nil _
    · rw [if_neg hempty] at hps
      obtain ⟨text, hrender, hps⟩ := Built.exists_of_bind hps
      cases hps
      have hlone : Tree.loneOf? (Tree.ofDict conditions) = none := by
        refine hraw (.filter conditions) ?_
        have hfilter : p.conditions = some conditions := hconditions
        simp [plan, hfilter]
      have htext := Tree.predicate_not_keyword b (by simp [hlone]) text hrender
      simpa using htext

theorem exists_selectTerms {s : Statement} (h : Plan.run b.dialect p.plan .empty = ⟨s, none⟩) :
    ∃ x : SelectTerms, s.terms = x.terms := by
  have hselect : (Clause.add b.dialect (.select p.columns p.distinct)).Adds
      (selectList b.dialect p.columns >>= fun list => pure [p.opening.keyword, list]) :=
    adds_bind _ fun _ => adds_add _
  obtain ⟨j, hj, hrest⟩ := Plan.exists_of_run_cons h
  obtain ⟨k, hrelation, hrest⟩ := Plan.exists_of_run_append hrest
  obtain ⟨m, hwhere, hrest⟩ := Plan.exists_of_run_append hrest
  obtain ⟨ts, hts, hj⟩ := exists_of_adds hselect hj
  obtain ⟨list, hlist, hpure⟩ := Built.exists_of_bind hts
  cases hpure
  obtain ⟨x, hk, htail⟩ := exists_head hraw hlist hj hrelation
  obtain ⟨ps, hps, rfl⟩ := Selection.run_filter (o := p.opening) hwhere
  let y : SelectTerms := { x with predicate := ps, predicate_plain := plain_predicate hraw hps }
  have hy : (k.push (whereTerms ps)).terms = y.terms := by
    show k.terms ++ whereTerms ps = x.head ++ whereTerms ps ++ x.tail
    rw [hk, htail, List.append_nil]
  have hlater : ∀ c, .ok c ∈ p.rest → c.IsRawless := by
    intro c hc
    apply hraw
    simp [plan, hc]
  refine Plan.run_leads (R := KeepsSelect) (fun _ h => h) (fun _ _ _ hst htu hs => htu (hst hs))
    (fun c hc => ?_) hrest ⟨y, hy⟩
  exact Clause.leads_keepsSelect (p.concludes c hc) (hlater c hc)

end SelectPlan

/-! ## Whole selections -/

theorem Gives.of_mem_map {P : Clause → Prop} {f : Value → Built Clause} (hf : ∀ v, Gives P (f v))
    {x : Option Value} {c : Clause} (h : .ok c ∈ (x.map f).toList) : P c := by
  obtain ⟨v, -, hv⟩ := Option.map_eq_some_iff.mp (Option.mem_toList.mp h)
  exact hf v c hv

namespace Clause

theorem concludes_ofOrder (v : Value) : Gives (concludes · = true) (ofOrder v) := by
  unfold ofOrder
  split
  · exact Gives.pure rfl
  · exact Gives.pure rfl
  · split
    · exact Gives.pure rfl
    · exact Gives.error _

theorem concludes_ofGroup (v : Value) : Gives (concludes · = true) (ofGroup v) :=
  Gives.after _ fun _ => Gives.pure rfl

theorem concludes_ofHaving (v : Value) : Gives (concludes · = true) (ofHaving v) := by
  unfold ofHaving
  split
  · exact Gives.pure rfl
  · exact Gives.error _

theorem concludes_ofExists (v : Value) : Gives (concludes · = true) (ofExists v) := by
  unfold ofExists
  split
  · exact Gives.pure rfl
  · exact Gives.error _

theorem isRelational_of_mem_joins {joins : Option (Dict Value)} {c : Clause}
    (h : .ok c ∈ Plan.joins joins) : c.isRelational = true := by
  unfold Plan.joins at h
  cases joins with
  | none => cases h
  | some joins =>
    dsimp only at h
    by_cases hempty : joins.isEmpty = true
    · rw [if_pos hempty] at h
      cases h
    · rw [if_neg hempty] at h
      cases List.mem_singleton.mp h
      rfl

end Clause

namespace SelectPlan

def ofCall (sources : List Source) (columns : List Column) (conditions : Dict Value)
    (options : SelectOptions) : SelectPlan where
  columns := columns
  distinct := options.distinct
  relation := (options.into.map fun table => .ok (.into table)).toList ++
    .ok (.fromSources sources) :: Plan.joins options.join
  conditions := some (Lifted.ofConditions conditions).conditions
  rest :=
    let lifted := Lifted.ofConditions conditions
    (lifted.order.map Clause.ofOrder).toList ++
      (lifted.limit.map fun v => .ok (.limit v)).toList ++
      (lifted.group.map Clause.ofGroup).toList ++
      (lifted.having.map Clause.ofHaving).toList ++
      (lifted.exists_.map Clause.ofExists).toList
  isRelational := by
    intro c hc
    rcases List.mem_append.mp hc with hc | hc
    · obtain ⟨table, -, htable⟩ := Option.map_eq_some_iff.mp (Option.mem_toList.mp hc)
      cases htable
      rfl
    rcases List.mem_cons.mp hc with heq | hc
    · cases heq
      rfl
    · exact Clause.isRelational_of_mem_joins hc
  concludes := by
    intro c hc
    have hlimit : ∀ v, Gives (Clause.concludes · = true) (.ok (.limit v)) :=
      fun _ => Gives.pure rfl
    simp only [List.mem_append] at hc
    rcases hc with (((hc | hc) | hc) | hc) | hc
    · exact Gives.of_mem_map Clause.concludes_ofOrder hc
    · exact Gives.of_mem_map hlimit hc
    · exact Gives.of_mem_map Clause.concludes_ofGroup hc
    · exact Gives.of_mem_map Clause.concludes_ofHaving hc
    · exact Gives.of_mem_map Clause.concludes_ofExists hc

/-- A whole selection is one of these plans. -/
theorem plan_ofCall (sources : List Source) (columns : List Column) (conditions : Dict Value)
    (options : SelectOptions) :
    (ofCall sources columns conditions options).plan =
      Plan.select sources columns conditions options := by
  simp [plan, ofCall, Plan.select]

end SelectPlan

def Statement.IsSelect (s : Statement) : Prop :=
  ∃ (b : Builtin) (p : SelectPlan) (t : Statement), (∀ c, .ok c ∈ p.plan → c.IsRawless) ∧
    Plan.run b.dialect p.plan .empty = ⟨t, none⟩ ∧ s.terms = t.terms

theorem Statement.isSelect_of_call {b : Builtin} {sources : List Source} {columns : List Column}
    {conditions : Option (Dict Value)} {options : SelectOptions} {s : Statement}
    (hraw : ∀ c, .ok c ∈ Plan.select sources columns (conditions.getD .empty) options →
      c.IsRawless)
    (h : Call.run b.dialect .empty (.select sources columns conditions options) = ⟨s, none⟩) :
    s.IsSelect := by
  let p := SelectPlan.ofCall sources columns (conditions.getD .empty) options
  have hplan : p.plan = Plan.select sources columns (conditions.getD .empty) options :=
    SelectPlan.plan_ofCall _ _ _ _
  rw [Call.run, ← hplan] at h
  cases hrun : Plan.run b.dialect p.plan .empty with
  | mk t error =>
    rw [hrun] at h
    cases error with
    | some e => cases h
    | none =>
      have hterms := finish_terms options.wrapping ⟨t, none⟩
      rw [h] at hterms
      exact ⟨b, p, t, by rwa [hplan], hrun, hterms⟩

theorem Statement.IsSelect.exists_selectTerms {s : Statement} (h : s.IsSelect) :
    ∃ x : SelectTerms, s.terms = x.terms := by
  obtain ⟨b, p, t, hraw, hrun, hs⟩ := h
  obtain ⟨x, ht⟩ := SelectPlan.exists_selectTerms hraw hrun
  exact ⟨x, hs.trans ht⟩

end TerseSql
