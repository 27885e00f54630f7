import TerseSql.Proofs.Atomic

/-!
# Runs of plans

A plan that succeeds has added its clauses one after another. A plan that fails has added
those before the first that cannot be added, and nothing of that one.
-/

namespace TerseSql

def Outcome.andThen (o : Outcome) (f : Statement → Outcome) : Outcome :=
  match o.error with
  | none => f o.statement
  | some _ => o

namespace Plan

variable {d : Dialect}

theorem run_cons_ok {c : Clause} {s t : Statement} (h : (c.add d).run s = .ok () t) (p : Plan) :
    run d (.ok c :: p) s = run d p t := by
  rw [run, h]

theorem run_cons_error {c : Clause} {s t : Statement} {e : BuildError}
    (h : (c.add d).run s = .error e t) (p : Plan) : run d (.ok c :: p) s = ⟨t, some e⟩ := by
  rw [run, h]

theorem exists_of_run_cons {c : Clause} {p : Plan} {s t : Statement}
    (h : run d (.ok c :: p) s = ⟨t, none⟩) :
    ∃ m, (c.add d).run s = .ok () m ∧ run d p m = ⟨t, none⟩ := by
  cases hc : (c.add d).run s with
  | ok a m =>
    rw [run_cons_ok hc] at h
    exact ⟨m, rfl, h⟩
  | error e m =>
    rw [run_cons_error hc] at h
    cases h

theorem run_append (p q : Plan) (s : Statement) :
    run d (p ++ q) s = (run d p s).andThen (run d q) := by
  induction p generalizing s with
  | nil => rfl
  | cons step p ih =>
    cases step with
    | error e => rfl
    | ok c =>
      cases hc : (c.add d).run s with
      | ok a t => rw [List.cons_append, run_cons_ok hc, run_cons_ok hc, ih]
      | error e t =>
        rw [List.cons_append, run_cons_error hc, run_cons_error hc]
        rfl

theorem run_append_of_run {p : Plan} {s t : Statement} (h : run d p s = ⟨t, none⟩) (q : Plan) :
    run d (p ++ q) s = run d q t := by
  rw [run_append, h]
  rfl

theorem exists_of_run_append {p q : Plan} {s t : Statement} (h : run d (p ++ q) s = ⟨t, none⟩) :
    ∃ m, run d p s = ⟨m, none⟩ ∧ run d q m = ⟨t, none⟩ := by
  rw [run_append] at h
  cases hp : run d p s with
  | mk m e =>
    rw [hp] at h
    cases e with
    | none => exact ⟨m, rfl, h⟩
    | some e => cases h

theorem run_leads {R : Statement → Statement → Prop} (hrefl : ∀ s, R s s)
    (htrans : ∀ s t u, R s t → R t u → R s u) {p : Plan}
    (hp : ∀ c, .ok c ∈ p → (c.add d).Leads R) {s t : Statement} (h : run d p s = ⟨t, none⟩) :
    R s t := by
  induction p generalizing s with
  | nil => cases h; exact hrefl _
  | cons step p ih =>
    cases step with
    | error e => cases h
    | ok c =>
      obtain ⟨m, hc, hrest⟩ := exists_of_run_cons h
      have hlead := hp c List.mem_cons_self s () m hc
      exact htrans s m t hlead (ih (fun c hc => hp c (List.mem_cons_of_mem _ hc)) hrest)

/-- A run keeps what each of its clauses keeps, also where it fails. -/
theorem run_keeps {P : Statement → Prop} {p : Plan}
    (hp : ∀ c, .ok c ∈ p → ∀ s t, P s → (c.add d).run s = .ok () t → P t) {s : Statement}
    (hs : P s) : P (run d p s).statement := by
  induction p generalizing s with
  | nil => exact hs
  | cons step p ih =>
    cases step with
    | error e => exact hs
    | ok c =>
      cases hc : (c.add d).run s with
      | ok a t =>
        rw [run_cons_ok hc]
        have ht := hp c List.mem_cons_self s t hs hc
        exact ih (fun c hc => hp c (List.mem_cons_of_mem _ hc)) ht
      | error e t =>
        rw [run_cons_error hc]
        obtain rfl : t = s := c.atomic_add d s e t hc
        exact hs

/-- Two runs of a plan go the same way if each of its clauses does on related statements. -/
theorem run_related {R : Statement → Statement → Prop}
    (hstep : ∀ (c : Clause) s t, R s t →
      (∃ s' t', (c.add d).run s = .ok () s' ∧ (c.add d).run t = .ok () t' ∧ R s' t') ∨
      ∃ e, (c.add d).run s = .error e s ∧ (c.add d).run t = .error e t)
    (p : Plan) {s t : Statement} (h : R s t) :
    (run d p s).error = (run d p t).error ∧ R (run d p s).statement (run d p t).statement := by
  induction p generalizing s t with
  | nil => exact ⟨rfl, h⟩
  | cons step p ih =>
    cases step with
    | error e => exact ⟨rfl, h⟩
    | ok c =>
      rcases hstep c s t h with ⟨s', t', hs, ht, hrun⟩ | ⟨e, hs, ht⟩
      · rw [run_cons_ok hs, run_cons_ok ht]
        exact ih hrun
      · rw [run_cons_error hs, run_cons_error ht]
        exact ⟨rfl, h⟩

theorem run_wrapping {p : Plan} {s t : Statement} (h : run d p s = ⟨t, none⟩) :
    t.wrapping = s.wrapping := by
  refine run_leads (R := fun s t => t.wrapping = s.wrapping) (fun _ => rfl)
    (fun _ _ _ hst htu => htu.trans hst) (fun c _ => ?_) h
  intro s a t hct
  have hleaves := c.leads_add d s a t hct
  cases c with
  | limit v => exact hleaves.2
  | fromSources sources => exact Statement.GoesOn.wrapping hleaves
  | _ => exact (Statement.Grows.toGoesOn hleaves).wrapping

/-- A plan that fails stops at one of its steps, which fails on what is left and leaves it. -/
theorem exists_failing {p : Plan} {s : Statement} (h : (run d p s).error ≠ none) :
    ∃ added step rest, p = added ++ step :: rest ∧
      run d added s = ⟨(run d p s).statement, none⟩ ∧
      run d [step] (run d p s).statement = run d p s := by
  induction p generalizing s with
  | nil => exact absurd rfl h
  | cons step p ih =>
    cases step with
    | error e => exact ⟨[], .error e, p, rfl, rfl, rfl⟩
    | ok c =>
      cases hc : (c.add d).run s with
      | ok a t =>
        rw [run_cons_ok hc] at h ⊢
        obtain ⟨added, step, rest, hp, hadded, hstep⟩ := ih h
        refine ⟨.ok c :: added, step, rest, ?_, ?_, hstep⟩
        · rw [hp, List.cons_append]
        · rw [run_cons_ok hc, hadded]
      | error e t =>
        -- A clause that fails leaves the statement as it was, and the plan stops there.
        have ht : t = s := c.atomic_add d s e t hc
        subst ht
        refine ⟨[], .ok c, p, rfl, ?_, ?_⟩
        · rw [run_cons_error hc, run]
        · rw [run_cons_error hc, run_cons_error hc]

end Plan

/-! ## Wrappings -/

namespace Statement

variable (wrapping : Option Wrapping)

theorem finish_error (o : Outcome) : (finish wrapping o).error = o.error := by
  unfold finish
  split <;> rfl

theorem finish_terms (o : Outcome) : (finish wrapping o).statement.terms = o.statement.terms := by
  unfold finish
  split <;> rfl

theorem finish_of_failure {o : Outcome} (h : o.error ≠ none) : finish wrapping o = o := by
  unfold finish
  split
  · next heq => exact absurd heq h
  · rfl

end Statement

/-! ## Windows -/

namespace Clause

variable (d : Dialect) {v : Value} (s : Statement)

theorem run_limit {w : Window} (h : Window.ofValue v = .ok w) :
    ((limit v).add d).run s =
      .ok () { s with terms := Statement.place (w.fragment d.toLexicon) s.terms } := by
  show (Statement.limit d v).run s = _
  unfold Statement.limit
  rw [h]
  rfl

theorem run_limit_error {e : BuildError} (h : Window.ofValue v = .error e) :
    ((limit v).add d).run s = .error e s := by
  show (Statement.limit d v).run s = _
  unfold Statement.limit
  rw [h]
  rfl

/-- A window that is added is put in the place that its fragment asks for. -/
theorem exists_window {t : Statement} (h : ((limit v).add d).run s = .ok () t) :
    ∃ w, Window.ofValue v = .ok w ∧
      t = { s with terms := Statement.place (w.fragment d.toLexicon) s.terms } := by
  cases hw : Window.ofValue v with
  | error e =>
    rw [run_limit_error d s hw] at h
    cases h
  | ok w =>
    rw [run_limit d s hw] at h
    cases h
    exact ⟨w, rfl, rfl⟩

end Clause

end TerseSql
