import Mathlib.Data.List.Forall2
import TerseSql.Error

/-!
# Results

What is built in steps is built if each step is. A property of the result is proved from
properties of what the steps before it gave.
-/

namespace TerseSql

variable {α β : Type}

namespace Built

theorem exists_of_bind {x : Built α} {f : α → Built β} {b : β} (h : x >>= f = .ok b) :
    ∃ a, x = .ok a ∧ f a = .ok b := by
  cases x with
  | error e => cases h
  | ok a => exact ⟨a, rfl, h⟩

theorem bind_eq_ok_iff {x : Built α} {f : α → Built β} {b : β} :
    x >>= f = .ok b ↔ ∃ a, x = .ok a ∧ f a = .ok b := by
  refine ⟨exists_of_bind, ?_⟩
  rintro ⟨a, rfl, h⟩
  exact h

theorem map_eq_ok_iff {f : α → β} {x : Built α} {b : β} :
    f <$> x = .ok b ↔ ∃ a, x = .ok a ∧ f a = b := by
  cases x with
  | error e => exact iff_of_false (fun h => nomatch h) fun ⟨_, h, _⟩ => nomatch h
  | ok a =>
    constructor
    · intro h
      cases h
      exact ⟨a, rfl, rfl⟩
    · rintro ⟨_, ha, rfl⟩
      cases ha
      rfl

theorem toOption_eq_some_iff {x : Built α} {a : α} : x.toOption = some a ↔ x = .ok a := by
  cases x <;> simp [Except.toOption]

theorem cons_eq_ok_iff {x : Built α} {y : Built (List α)} {as : List α} :
    (do let first ← x; let others ← y; return first :: others) = .ok as ↔
      ∃ first others, x = .ok first ∧ y = .ok others ∧ as = first :: others := by
  constructor
  · intro h
    obtain ⟨first, hfirst, h⟩ := exists_of_bind h
    obtain ⟨others, hothers, h⟩ := exists_of_bind h
    cases h
    exact ⟨first, others, hfirst, hothers, rfl⟩
  · rintro ⟨first, others, rfl, rfl, rfl⟩
    rfl

theorem forall₂_of_mapM {f : α → Built β} {l : List α} {bs : List β} (h : l.mapM f = .ok bs) :
    List.Forall₂ (fun a b => f a = .ok b) l bs := by
  induction l generalizing bs with
  | nil =>
    cases h
    exact .nil
  | cons a l ih =>
    rw [List.mapM_cons] at h
    obtain ⟨b, hb, h⟩ := exists_of_bind h
    obtain ⟨bs, hbs, h⟩ := exists_of_bind h
    cases h
    exact .cons hb (ih hbs)

theorem mapM_of_forall {f : α → Built β} {g : α → β} {l : List α}
    (h : ∀ a ∈ l, f a = .ok (g a)) : l.mapM f = .ok (l.map g) := by
  induction l with
  | nil => rfl
  | cons a l ih =>
    obtain ⟨ha, hl⟩ := List.forall_mem_cons.mp h
    rw [List.mapM_cons, ha, ih hl]
    rfl

/-- A list of results has one for each member, so none of them failed. -/
theorem exists_of_mem_mapM {f : α → Built β} {l : List α} {bs : List β} (h : l.mapM f = .ok bs)
    {a : α} (ha : a ∈ l) : ∃ b, f a = .ok b := by
  have hall := forall₂_of_mapM h
  clear h
  induction hall with
  | nil => cases ha
  | cons hb _ ih =>
    rcases List.mem_cons.mp ha with rfl | ha
    · exact ⟨_, hb⟩
    · exact ih ha

end Built

/-- Both results are errors, and these are of one kind. -/
def FailAlike (x : Built α) (y : Built β) : Prop :=
  ∃ e e', x = .error e ∧ y = .error e' ∧ e.kind = e'.kind

theorem FailAlike.bind_left {γ : Type} {x : Built α} {y : Built β} (h : FailAlike x y)
    (f : α → Built γ) : FailAlike (x >>= f) y := by
  obtain ⟨e, e', rfl, hy, hkind⟩ := h
  exact ⟨e, e', rfl, hy, hkind⟩

theorem failAlike_error (e : BuildError) :
    FailAlike (.error e : Built α) (.error e : Built β) :=
  ⟨e, e, rfl, rfl, rfl⟩

/-- Whatever the result is, it satisfies `P`. -/
def Gives (P : α → Prop) (x : Built α) : Prop :=
  ∀ a, x = .ok a → P a

namespace Gives

variable {P : α → Prop} {Q : β → Prop}

theorem pure {a : α} (h : P a) : Gives P (Pure.pure a) := by
  intro a' ha
  cases ha
  exact h

theorem error (e : BuildError) : Gives P (.error e) := by
  intro a ha
  cases ha

theorem bind {x : Built α} {f : α → Built β} (hx : Gives P x) (hf : ∀ a, P a → Gives Q (f a)) :
    Gives Q (x >>= f) := by
  intro b hb
  obtain ⟨a, ha, hb⟩ := Built.exists_of_bind hb
  exact hf a (hx a ha) b hb

/-- What the first result is does not matter. -/
theorem after (x : Built α) {f : α → Built β} (hf : ∀ a, Gives Q (f a)) : Gives Q (x >>= f) :=
  bind (P := fun _ => True) (fun _ _ => trivial) fun a _ => hf a

theorem mapM {f : α → Built β} {l : List α} (h : ∀ a ∈ l, Gives Q (f a)) :
    Gives (fun bs => ∀ b ∈ bs, Q b) (l.mapM f) := by
  induction l with
  | nil => exact pure fun b hb => nomatch hb
  | cons a l ih =>
    rw [List.mapM_cons]
    refine bind (h a List.mem_cons_self) fun b hb => ?_
    refine bind (ih fun a ha => h a (List.mem_cons_of_mem _ ha)) fun bs hbs => ?_
    exact pure (List.forall_mem_cons.mpr ⟨hb, hbs⟩)

end Gives

end TerseSql
