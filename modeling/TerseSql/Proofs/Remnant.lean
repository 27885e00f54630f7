import TerseSql.Proofs.Run

/-!
# What a failed statement leaves

The clauses of a whole statement are added one at a time, and one that fails takes none of
those before it back. So a failed call leaves its text behind unless its first clause failed:
a deletion whose predicate cannot be written stays without one.
-/

namespace TerseSql

open Building

/-! ## The length of a statement -/

namespace Statement

def extent : List String → Nat
  | [] => 0
  | t :: ts => t.length + 1 + extent ts

@[simp]
theorem extent_nil : extent [] = 0 := rfl

@[simp]
theorem extent_cons (t : String) (ts : List String) :
    extent (t :: ts) = t.length + 1 + extent ts := rfl

@[simp]
theorem extent_append (ts us : List String) : extent (ts ++ us) = extent ts + extent us := by
  induction ts with
  | nil => simp
  | cons t ts ih =>
    rw [List.cons_append, extent_cons, extent_cons, ih]
    omega

theorem length_join_space (terms : List String) :
    (Text.join " " terms).length = extent terms - 1 := by
  induction terms with
  | nil => rfl
  | cons t ts ih =>
    cases ts with
    | nil => simp [Text.join]
    | cons u us =>
      have hspace : " ".length = 1 := rfl
      simp only [Text.join, String.length_append, ih, extent_cons, hspace]
      omega

theorem extent_le_insertAt (n : Nat) (added terms : List String) :
    extent terms ≤ extent (insertAt n added terms) := by
  have hsplit : extent terms = extent (terms.take n) + extent (terms.drop n) := by
    rw [← extent_append, List.take_append_drop]
  unfold insertAt
  simp only [extent_append, hsplit]
  omega

theorem extent_le_conjoinPredicate (fragment : String) (terms : List String) :
    extent terms ≤ extent (conjoinPredicate fragment terms) := by
  cases terms with
  | nil => simp
  | cons predicate rest =>
    unfold conjoinPredicate
    by_cases hcompound : isCompound predicate = true
    · simp only [hcompound, if_true, extent_cons, String.length_append]
      omega
    · simp only [hcompound, if_false, extent_cons, Bool.false_eq_true]
      omega

theorem extent_le_conjoinWhere {fragment : String} {terms placed : List String}
    (h : conjoinWhere fragment terms = some placed) : extent terms ≤ extent placed := by
  induction terms generalizing placed with
  | nil => cases h
  | cons term rest ih =>
    unfold conjoinWhere at h
    by_cases hwhere : term = "WHERE"
    · rw [if_pos hwhere] at h
      cases h
      have := extent_le_conjoinPredicate fragment rest
      simp only [extent_cons, hwhere]
      omega
    · rw [if_neg hwhere] at h
      obtain ⟨placed, hplaced, rfl⟩ := Option.map_eq_some_iff.mp h
      have := ih hplaced
      simp only [extent_cons]
      omega

theorem extent_le_place (p : Pagination) (terms : List String) :
    extent terms ≤ extent (place p terms) := by
  unfold place
  cases p.placement with
  | append => simp
  | index n => exact extent_le_insertAt n _ _
  | inWhere =>
    dsimp only
    cases h : conjoinWhere p.sql terms with
    | none => exact extent_le_insertAt _ _ _
    | some placed => exact extent_le_conjoinWhere h

structure Expands (s t : Statement) : Prop where
  wrapping : t.wrapping = s.wrapping
  extent : extent s.terms ≤ extent t.terms

theorem Expands.trans {s t u : Statement} (hst : s.Expands t) (htu : t.Expands u) : s.Expands u :=
  ⟨htu.wrapping.trans hst.wrapping, Nat.le_trans hst.extent htu.extent⟩

theorem GoesOn.expands {s t : Statement} (h : s.GoesOn t) : s.Expands t := by
  obtain ⟨added, hadded⟩ := h.terms
  refine ⟨h.wrapping, ?_⟩
  rw [← hadded, extent_append]
  omega

theorem sql_ne_of_extent {s t : Statement} (l : Lexicon) (hwrapping : t.wrapping = s.wrapping)
    (h : extent s.terms + 1 < extent t.terms) : t.sql l ≠ s.sql l := by
  have hlength : s.body.length < t.body.length := by
    unfold body
    rw [length_join_space, length_join_space]
    omega
  have hbody : t.sql l = s.sql l → t.body.length = s.body.length := by
    intro hsql
    have hlen := congrArg String.length hsql
    unfold sql at hlen
    rw [hwrapping] at hlen
    cases hw : s.wrapping with
    | unset => simpa [hw] using hlen
    | bare => simpa [hw] using hlen
    | named aliasName => simpa [hw] using hlen
  intro hsql
  have := hbody hsql
  omega

end Statement

/-! ## Clauses and plans -/

namespace Clause

def isOpening : Clause → Bool
  | select _ _ | update _ | delete _ | insert _ _ _ => true
  | _ => false

variable (d : Dialect)

theorem leads_expands (c : Clause) : (c.add d).Leads Statement.Expands := by
  intro s a t h
  have hleaves := c.leads_add d s a t h
  cases c with
  | limit v =>
    obtain ⟨w, _, rfl⟩ := exists_window d s h
    exact ⟨hleaves.2, Statement.extent_le_place _ _⟩
  | fromSources sources => exact Statement.GoesOn.expands hleaves
  | _ => exact Statement.GoesOn.expands hleaves.toGoesOn

theorem leads_longer (c : Clause) (h : c.isOpening = true) :
    (c.add d).Leads fun s t => Statement.extent s.terms + 1 < Statement.extent t.terms := by
  have hadd : ∀ t u us, (Statement.add (t :: u :: us)).Leads
      fun s t => Statement.extent s.terms + 1 < Statement.extent t.terms := by
    intro t u us
    apply leads_modify
    intro s
    simp only [Statement.push, Statement.extent_append, Statement.extent_cons]
    omega
  cases c with
  | select columns distinct => exact (readsOnly_lift _).bind_leads fun _ => hadd _ _ _
  | update table => exact (readsOnly_lift _).bind_leads fun _ => hadd _ _ _
  | delete table => exact (readsOnly_lift _).bind_leads fun _ => hadd _ _ _
  | insert table rows columns =>
    cases rows with
    | nil => exact leads_throw _
    | cons first rest =>
      unfold Clause.add Statement.insert
      refine (readsOnly_lift _).bind_leads fun _ => ?_
      refine (readsOnly_lift _).bind_leads fun _ => ?_
      refine (readsOnly_lift _).bind_leads fun _ => ?_
      exact (readsOnly_lift _).bind_leads fun _ => hadd _ _ _
  | _ => cases h

end Clause

namespace Plan

variable {d : Dialect} {s t : Statement}

theorem run_expands {p : Plan} (h : run d p s = ⟨t, none⟩) : s.Expands t :=
  run_leads (R := Statement.Expands) (fun _ => ⟨rfl, Nat.le_refl _⟩)
    (fun _ _ _ => Statement.Expands.trans) (fun c _ => c.leads_expands d) h

/-- Once its first clause is there, a statement has another text. -/
theorem sql_ne_of_opened {c : Clause} {p : Plan} (hopening : c.isOpening = true)
    (h : run d (.ok c :: p) s = ⟨t, none⟩) : t.sql d.toLexicon ≠ s.sql d.toLexicon := by
  obtain ⟨m, hc, hrest⟩ := exists_of_run_cons h
  have hlonger := c.leads_longer d hopening s () m hc
  have hrests := (run_expands hrest).extent
  exact Statement.sql_ne_of_extent _ (run_expands h).wrapping (Nat.lt_of_lt_of_le hlonger hrests)

end Plan

/-! ## Statements -/

namespace Call

def plan? : Call → Option Plan
  | select sources columns conditions options =>
    some (Plan.select sources columns (conditions.getD .empty) options)
  | update table sets conditions => some (Plan.update table sets conditions)
  | delete table conditions => some (Plan.delete table conditions)
  | insert table head rows => some [.ok (head.clause table rows)]
  | clause _ | union _ | wrap _ | clear => none

variable {d : Dialect} {s : Statement} {call : Call} {p : Plan}

theorem run_eq_of_failure (hp : call.plan? = some p) (h : (run d s call).error ≠ none) :
    run d s call = Plan.run d p s := by
  cases call with
  | select sources columns conditions options =>
    cases hp
    rw [run, Statement.finish_error] at h
    exact Statement.finish_of_failure _ h
  | update table sets conditions => cases hp; rfl
  | delete table conditions => cases hp; rfl
  | insert table head rows => cases hp; rfl
  | clause c => cases hp
  | union queries => cases hp
  | wrap aliasName => cases hp
  | clear => cases hp

theorem exists_opening (hp : call.plan? = some p) :
    ∃ c rest, p = .ok c :: rest ∧ c.isOpening = true := by
  cases call with
  | select sources columns conditions options => cases hp; exact ⟨_, _, rfl, rfl⟩
  | update table sets conditions => cases hp; exact ⟨_, _, rfl, rfl⟩
  | delete table conditions => cases hp; exact ⟨_, _, rfl, rfl⟩
  | insert table head rows =>
    cases hp
    refine ⟨_, _, rfl, ?_⟩
    cases head <;> rfl
  | clause c => cases hp
  | union queries => cases hp
  | wrap aliasName => cases hp
  | clear => cases hp

/-- A statement that fails is left with the clauses before the one that failed, and under the
wrapping that it had. It is as before, in its text and in what joins refer to, exactly if its
first clause is the one that failed. -/
theorem failure_leaves_added (hp : call.plan? = some p) (hfail : (run d s call).error ≠ none) :
    (∃ added step rest, p = added ++ step :: rest ∧
      Plan.run d added s = ⟨(run d s call).statement, none⟩ ∧
      Plan.run d [step] (run d s call).statement = run d s call) ∧
    (run d s call).statement.wrapping = s.wrapping ∧
    ((run d s call).statement.sql d.toLexicon = s.sql d.toLexicon ∧
        (run d s call).statement.primary = s.primary ↔
      (Plan.run d (p.take 1) s).error ≠ none) := by
  have hrun := run_eq_of_failure hp hfail
  rw [hrun] at hfail ⊢
  obtain ⟨added, step, rest, hsplit, hadded, hstep⟩ := Plan.exists_failing hfail
  refine ⟨⟨added, step, rest, hsplit, hadded, hstep⟩, (Plan.run_expands hadded).wrapping, ?_⟩
  generalize hleft : Plan.run d p s = left at hfail hadded hstep
  rw [hsplit]
  cases added with
  | nil =>
    -- The first clause fails, and nothing is added before it.
    have hs : left.statement = s := by cases hadded; rfl
    rw [hs] at hstep ⊢
    rw [List.nil_append, List.take_succ_cons, List.take_zero, hstep]
    simp [hfail]
  | cons first added =>
    -- The first clause is added, and its terms stay.
    obtain ⟨c, tail, hp, hopening⟩ := exists_opening hp
    rw [hp] at hsplit
    obtain ⟨rfl, _⟩ := List.cons.inj hsplit
    have hadds : (Plan.run d [.ok c] s).error = none := by
      obtain ⟨m, hm, _⟩ := Plan.exists_of_run_cons hadded
      rw [Plan.run_cons_ok hm, Plan.run]
    constructor
    · rintro ⟨hsql, -⟩
      exact absurd hsql (Plan.sql_ne_of_opened hopening hadded)
    · intro h
      exact absurd hadds h

def emptyDeletion : Call :=
  .delete "t" ⟨[(.name "a", .list [])]⟩

/-- The deletion fails, and every row is deleted by what is left. -/
theorem failure_leaves_added_deletion :
    emptyDeletion.plan? = some (Plan.delete "t" ⟨[(.name "a", .list [])]⟩) ∧
      (run Builtin.generic.dialect .empty emptyDeletion).error ≠ none ∧
      (run Builtin.generic.dialect .empty emptyDeletion).statement.sql
        Builtin.generic.dialect.toLexicon = "DELETE FROM \x22t\x22" ∧
      ¬((run Builtin.generic.dialect .empty emptyDeletion).statement.sql
          Builtin.generic.dialect.toLexicon = Statement.empty.sql
            Builtin.generic.dialect.toLexicon ∧
        (run Builtin.generic.dialect .empty emptyDeletion).statement.primary = none) := by
  have hfails : (run Builtin.generic.dialect .empty emptyDeletion).error ≠ none :=
    fun h => nomatch h
  have hfirst : (Plan.run Builtin.generic.dialect
      ((Plan.delete "t" ⟨[(.name "a", .list [])]⟩).take 1) .empty).error = none := rfl
  have hleaves := (failure_leaves_added rfl hfails).2.2
  exact ⟨rfl, hfails, rfl, fun h => hleaves.mp h hfirst⟩

end Call

end TerseSql
