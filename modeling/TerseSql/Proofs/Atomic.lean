import TerseSql.Dialect.Builtin
import TerseSql.Statement.Plan

/-!
# Atomicity of clauses

A call that adds a clause does all of it or leaves the statement as it was, and what it adds
stands after the terms that are there. So a caller may go on after a failure: the calls that
failed leave no trace in the statement or in what the other calls return.
-/

namespace TerseSql

/-! ## Changes of a statement -/

namespace Building

variable {α β : Type}

def Atomic (b : Building α) : Prop :=
  ∀ s e t, b.run s = .error e t → t = s

def Leads (R : Statement → Statement → Prop) (b : Building α) : Prop :=
  ∀ s a t, b.run s = .ok a t → R s t

structure ReadsOnly (b : Building α) : Prop where
  atomic : b.Atomic
  leads : b.Leads (fun s t => t = s)

theorem readsOnly_get : ReadsOnly (get : Building Statement) where
  atomic := fun s e t h => by cases h
  leads := fun s a t h => by cases h; rfl

theorem readsOnly_lift (x : Built α) : ReadsOnly (liftM x : Building α) := by
  cases x with
  | ok a =>
    refine ⟨fun s e t h => ?_, fun s b t h => ?_⟩
    · cases h
    · cases h
      rfl
  | error e =>
    refine ⟨fun s e t h => ?_, fun s b t h => ?_⟩
    · cases h
      rfl
    · cases h

theorem atomic_throw (e : BuildError) : Atomic (throw e : Building α) := by
  intro s e' t h
  cases h
  rfl

theorem atomic_modify (f : Statement → Statement) : Atomic (modify f : Building Unit) := by
  intro s e t h
  cases h

theorem atomic_pure (a : α) : Atomic (pure a : Building α) := by
  intro s e t h
  cases h

/-- Whatever has only read may still fail; the part that changes must be atomic itself. -/
theorem ReadsOnly.bind_atomic {x : Building α} {f : α → Building β} (hx : x.ReadsOnly)
    (hf : ∀ a, (f a).Atomic) : (x >>= f).Atomic := by
  intro s e t h
  rw [EStateM.run_bind] at h
  cases hr : x.run s with
  | ok a s' =>
    rw [hr] at h
    have hs := hx.leads s a s' hr
    subst hs
    exact hf a _ e t h
  | error e' s' =>
    rw [hr] at h
    cases h
    exact hx.atomic _ _ _ hr

/-- A change that cannot fail may come before one that cannot fail. -/
theorem atomic_modify_bind (f : Statement → Statement) {g : Unit → Building β}
    (hg : ∀ s e t, (g ()).run s ≠ .error e t) : ((modify f : Building Unit) >>= g).Atomic := by
  intro s e t h
  rw [EStateM.run_bind] at h
  exact absurd h (hg (f s) e t)

section

variable {R : Statement → Statement → Prop}

theorem leads_throw (e : BuildError) : Leads R (throw e : Building α) := by
  intro s a t h
  cases h

theorem leads_modify {f : Statement → Statement} (hf : ∀ s, R s (f s)) :
    Leads R (modify f : Building Unit) := by
  intro s a t h
  cases h
  exact hf s

theorem ReadsOnly.bind_leads {x : Building α} {f : α → Building β} (hx : x.ReadsOnly)
    (hf : ∀ a, Leads R (f a)) : Leads R (x >>= f) := by
  intro s b t h
  rw [EStateM.run_bind] at h
  cases hr : x.run s with
  | ok a s' =>
    rw [hr] at h
    have hs := hx.leads s a s' hr
    subst hs
    exact hf a _ b t h
  | error e' s' =>
    rw [hr] at h
    cases h

end

end Building

/-! ## Statements that grow -/

namespace Statement

/-- `t` goes on from `s`: terms come after those of `s`, under the same wrapping. -/
structure GoesOn (s t : Statement) : Prop where
  terms : s.terms <+: t.terms
  wrapping : t.wrapping = s.wrapping

structure Grows (s t : Statement) : Prop extends GoesOn s t where
  primary : t.primary = s.primary

theorem grows_refl (s : Statement) : Grows s s :=
  ⟨⟨List.prefix_rfl, rfl⟩, rfl⟩

theorem grows_push (s : Statement) (terms : List String) : Grows s (s.push terms) :=
  ⟨⟨List.prefix_append _ _, rfl⟩, rfl⟩

end Statement

/-! ## Clauses -/

namespace Statement

open Building

variable (d : Dialect)

theorem atomic_add (terms : List String) : (add terms).Atomic :=
  atomic_modify _

theorem leads_add (terms : List String) : (add terms).Leads Grows :=
  leads_modify fun s => grows_push s terms

theorem atomic_withTable (keyword table : String) : (withTable d keyword table).Atomic := by
  unfold withTable
  exact (readsOnly_lift _).bind_atomic fun _ => atomic_add _

theorem leads_withTable (keyword table : String) : (withTable d keyword table).Leads Grows := by
  unfold withTable
  exact (readsOnly_lift _).bind_leads fun _ => leads_add _

theorem atomic_withPredicate (keyword : String) (conditions : Dict Value) :
    (withPredicate d keyword conditions).Atomic := by
  unfold withPredicate
  by_cases h : conditions.isEmpty = true
  · rw [if_pos h]
    exact atomic_pure ()
  · rw [if_neg h]
    exact (readsOnly_lift _).bind_atomic fun _ => atomic_add _

theorem leads_withPredicate (keyword : String) (conditions : Dict Value) :
    (withPredicate d keyword conditions).Leads Grows := by
  unfold withPredicate
  by_cases h : conditions.isEmpty = true
  · rw [if_pos h]
    intro s a t ht
    cases ht
    exact grows_refl s
  · rw [if_neg h]
    exact (readsOnly_lift _).bind_leads fun _ => leads_add _

theorem atomic_fromSources (sources : List Source) : (fromSources d sources).Atomic := by
  unfold fromSources
  refine (readsOnly_lift _).bind_atomic fun found => ?_
  refine atomic_modify_bind _ fun s e t h => ?_
  cases h

theorem leads_fromSources (sources : List Source) : (fromSources d sources).Leads GoesOn := by
  unfold fromSources
  refine (readsOnly_lift _).bind_leads fun found s a t h => ?_
  cases h
  exact ⟨List.prefix_append _ _, rfl⟩

theorem atomic_insert (table : String) (rows : List Value) (columns : Option (List Column)) :
    (insert d table rows columns).Atomic := by
  cases rows with
  | nil => exact atomic_throw _
  | cons first rest =>
    unfold insert
    refine (readsOnly_lift _).bind_atomic fun _ => ?_
    refine (readsOnly_lift _).bind_atomic fun _ => ?_
    refine (readsOnly_lift _).bind_atomic fun _ => ?_
    exact (readsOnly_lift _).bind_atomic fun _ => atomic_add _

theorem leads_insert (table : String) (rows : List Value) (columns : Option (List Column)) :
    (insert d table rows columns).Leads Grows := by
  cases rows with
  | nil => exact leads_throw _
  | cons first rest =>
    unfold insert
    refine (readsOnly_lift _).bind_leads fun _ => ?_
    refine (readsOnly_lift _).bind_leads fun _ => ?_
    refine (readsOnly_lift _).bind_leads fun _ => ?_
    exact (readsOnly_lift _).bind_leads fun _ => leads_add _

end Statement

namespace Clause

open Building Statement

/-- Every fallible step of a clause comes before the first change. -/
theorem atomic_add (d : Dialect) (c : Clause) : (c.add d).Atomic := by
  cases c with
  | select columns distinct => exact (readsOnly_lift _).bind_atomic fun _ => Statement.atomic_add _
  | fromSources sources => exact atomic_fromSources d sources
  | into table => exact atomic_withTable d _ table
  | join joins =>
    refine readsOnly_get.bind_atomic fun s => ?_
    exact (readsOnly_lift _).bind_atomic fun _ => Statement.atomic_add _
  | filter conditions => exact atomic_withPredicate d _ conditions
  | orderBy orders => exact (readsOnly_lift _).bind_atomic fun _ => Statement.atomic_add _
  | limit v => exact (readsOnly_lift _).bind_atomic fun _ => atomic_modify _
  | groupBy columns => exact (readsOnly_lift _).bind_atomic fun _ => Statement.atomic_add _
  | having conditions => exact atomic_withPredicate d _ conditions
  | existence q => exact Statement.atomic_add _
  | union q all => exact Statement.atomic_add _
  | insert table rows columns => exact atomic_insert d table rows columns
  | update table => exact atomic_withTable d _ table
  | set sets => exact (readsOnly_lift _).bind_atomic fun _ => Statement.atomic_add _
  | delete table => exact atomic_withTable d _ table

/-- What a clause that succeeds does to the statement, by its kind. A window of rows may go
anywhere, and a FROM is what joins refer to from then on. -/
def Leaves : Clause → Statement → Statement → Prop
  | limit _ => fun s t => t.primary = s.primary ∧ t.wrapping = s.wrapping
  | fromSources _ => GoesOn
  | _ => Grows

theorem leads_add (d : Dialect) (c : Clause) : (c.add d).Leads c.Leaves := by
  cases c with
  | select columns distinct => exact (readsOnly_lift _).bind_leads fun _ => Statement.leads_add _
  | fromSources sources => exact leads_fromSources d sources
  | into table => exact leads_withTable d _ table
  | join joins =>
    refine readsOnly_get.bind_leads fun s => ?_
    exact (readsOnly_lift _).bind_leads fun _ => Statement.leads_add _
  | filter conditions => exact leads_withPredicate d _ conditions
  | orderBy orders => exact (readsOnly_lift _).bind_leads fun _ => Statement.leads_add _
  | limit v => exact (readsOnly_lift _).bind_leads fun _ => leads_modify fun _ => ⟨rfl, rfl⟩
  | groupBy columns => exact (readsOnly_lift _).bind_leads fun _ => Statement.leads_add _
  | having conditions => exact leads_withPredicate d _ conditions
  | existence q => exact Statement.leads_add _
  | union q all => exact Statement.leads_add _
  | insert table rows columns => exact leads_insert d table rows columns
  | update table => exact leads_withTable d _ table
  | set sets => exact (readsOnly_lift _).bind_leads fun _ => Statement.leads_add _
  | delete table => exact leads_withTable d _ table

end Clause

/-! ## Calls -/

namespace Call

variable (d : Dialect)

theorem run_clause (s : Statement) (c : Clause) :
    run d s (.clause c) = match (c.add d).run s with
      | .ok _ t => ⟨t, none⟩
      | .error e t => ⟨t, some e⟩ := rfl

theorem statement_of_error {s : Statement} {c : Clause}
    (h : (run d s (.clause c)).error ≠ none) : (run d s (.clause c)).statement = s := by
  rw [run_clause] at h ⊢
  cases hr : (c.add d).run s with
  | ok a t => rw [hr] at h; exact absurd rfl h
  | error e t => exact c.atomic_add d s e t hr

theorem leaves_of_success {s : Statement} {c : Clause}
    (h : (run d s (.clause c)).error = none) : c.Leaves s (run d s (.clause c)).statement := by
  rw [run_clause] at h ⊢
  cases hr : (c.add d).run s with
  | ok a t => exact c.leads_add d s a t hr
  | error e t => rw [hr] at h; cases h

end Call

/-! ## Runs that go on after failures -/

/-- The calls of a run of clauses with their outcomes; each goes on from what the one before
it left, whether that failed or not. -/
def Clause.trace (d : Dialect) : List Clause → Statement → List (Clause × Outcome)
  | [], _ => []
  | c :: rest, s =>
    let o := Call.run d s (.clause c)
    (c, o) :: trace d rest o.statement

def Clause.final (d : Dialect) (s : Statement) (calls : List Clause) : Statement :=
  calls.foldl (fun s c => (Call.run d s (.clause c)).statement) s

def Clause.succeeded (call : Clause × Outcome) : Bool :=
  call.2.error.isNone

namespace Clause

variable (d : Dialect)

theorem succeeded_iff (call : Clause × Outcome) : succeeded call = true ↔ call.2.error = none := by
  unfold succeeded
  exact Option.isNone_iff_eq_none

/-- A call that failed can be left out at the start of a run: what follows goes on from the
same statement. -/
theorem trace_cons_of_error {s : Statement} {c : Clause} (rest : List Clause)
    (h : ¬succeeded (c, Call.run d s (.clause c)) = true) :
    trace d (c :: rest) s = (c, Call.run d s (.clause c)) :: trace d rest s ∧
      final d s (c :: rest) = final d s rest := by
  have hs : (Call.run d s (.clause c)).statement = s :=
    Call.statement_of_error d fun he => h ((succeeded_iff _).mpr he)
  refine ⟨?_, ?_⟩
  · simp only [trace, hs]
  · simp only [final, List.foldl_cons, hs]

/-- Deleting calls that failed, some or all, changes neither what the others return nor what
the run leaves. -/
theorem trace_of_sublist {calls : List Clause} {s : Statement} {kept : List (Clause × Outcome)}
    (hsub : kept.Sublist (trace d calls s))
    (hall : kept.filter succeeded = (trace d calls s).filter succeeded) :
    trace d (kept.map Prod.fst) s = kept ∧ final d s (kept.map Prod.fst) = final d s calls := by
  induction calls generalizing s kept with
  | nil =>
    have hk : kept = [] := List.sublist_nil.mp hsub
    subst hk
    exact ⟨rfl, rfl⟩
  | cons c rest ih =>
    by_cases hok : succeeded (c, Call.run d s (.clause c)) = true
    · -- A call that succeeded is kept: without it, too few would be left.
      simp only [trace] at hsub hall
      rw [List.filter_cons_of_pos hok] at hall
      cases hsub with
      | cons _ htail =>
        have hlen := (htail.filter succeeded).length_le
        rw [hall, List.length_cons] at hlen
        omega
      | cons_cons _ htail =>
        rw [List.filter_cons_of_pos hok] at hall
        obtain ⟨htrace, hfinal⟩ := ih htail (List.cons.inj hall).2
        refine ⟨?_, ?_⟩
        · simp only [List.map_cons, trace, htrace]
        · simpa only [List.map_cons, final, List.foldl_cons] using hfinal
    · obtain ⟨htrace, hfinal⟩ := trace_cons_of_error d rest hok
      rw [htrace] at hsub hall
      rw [List.filter_cons_of_neg hok] at hall
      rw [hfinal]
      -- One that failed leaves the statement to the rest, whether it is kept or not.
      cases hsub with
      | cons _ htail => exact ih htail hall
      | cons_cons _ htail =>
        rw [List.filter_cons_of_neg hok] at hall
        obtain ⟨hkept, hleft⟩ := ih htail hall
        obtain ⟨htrace, hfinal⟩ := trace_cons_of_error d (List.map Prod.fst _) hok
        rw [List.map_cons, htrace, hfinal, hkept]
        exact ⟨rfl, hleft⟩

end Clause

/-- Clauses are added atomically and at the end: a clause that fails leaves the statement as
it was, so that deleting failed calls from a run changes nothing else, and a clause that
succeeds leaves the terms before it in place, unless it is a window of rows, and what joins
refer to, unless it is a FROM. -/
theorem Clause.atomic_accumulation (d : Dialect) :
    (∀ s c, (Call.run d s (.clause c)).error ≠ none → (Call.run d s (.clause c)).statement = s) ∧
    (∀ s calls kept, List.Sublist kept (trace d calls s) →
      kept.filter succeeded = (trace d calls s).filter succeeded →
      trace d (kept.map Prod.fst) s = kept ∧
        final d s (kept.map Prod.fst) = final d s calls) ∧
    ∀ s c, (Call.run d s (.clause c)).error = none → (∀ v, c ≠ .limit v) →
      s.terms <+: (Call.run d s (.clause c)).statement.terms ∧
        (Call.run d s (.clause c)).statement.wrapping = s.wrapping ∧
        ((∀ sources, c ≠ .fromSources sources) →
          (Call.run d s (.clause c)).statement.primary = s.primary) := by
  refine ⟨fun s c h => Call.statement_of_error d h,
    fun s calls kept hsub hall => trace_of_sublist d hsub hall, ?_⟩
  intro s c hok hlimit
  have hleaves := Call.leaves_of_success d hok
  generalize (Call.run d s (.clause c)).statement = t at hleaves
  cases c with
  | limit v => exact absurd rfl (hlimit v)
  | fromSources sources =>
    have hgoes : s.GoesOn t := hleaves
    exact ⟨hgoes.terms, hgoes.wrapping, fun hfrom => absurd rfl (hfrom sources)⟩
  | _ =>
    have hgrows : s.Grows t := hleaves
    exact ⟨hgrows.terms, hgrows.wrapping, fun _ => hgrows.primary⟩

/-- A FROM without sources fails, and what follows is as if it had not been there. -/
theorem Clause.atomic_accumulation_of_no_source :
    (Call.run Builtin.generic.dialect .empty (.clause (.fromSources []))).error ≠ none ∧
      (Call.run Builtin.generic.dialect .empty (.clause (.fromSources []))).statement = .empty ∧
      final Builtin.generic.dialect .empty [.delete "t"] =
        final Builtin.generic.dialect .empty [.fromSources [], .delete "t"] := by
  obtain ⟨hatomic, hdelete, _⟩ := atomic_accumulation Builtin.generic.dialect
  have hfails : (Call.run Builtin.generic.dialect .empty (.clause (.fromSources []))).error ≠
      none := fun h => nomatch h
  refine ⟨hfails, hatomic _ _ hfails, ?_⟩
  have hkept := hdelete .empty [.fromSources [], .delete "t"]
    [(.delete "t", ⟨Statement.empty.push ["DELETE FROM", "\x22t\x22"], none⟩)]
    ((List.Sublist.refl _).cons _) rfl
  exact hkept.2

end TerseSql
