import Mathlib.Data.List.Forall2
import TerseSql.Error
import TerseSql.Proofs.Lexing.Spelling

/-!
# Related texts

A relation between two texts, and texts that are in the first, is kept when related texts are
put together around a separator. Then what is rendered from related parts is related too,
whatever it is: lists, conditions, assignments and rows.
-/

namespace TerseSql.Lexing

/-- `holds s t a`: the texts `s` and `t` are related, and `s` holds the texts `a`. -/
structure TextRelation (r : Rules) where
  holds : String → String → List String → Prop
  empty : holds "" "" []
  joint {s s' t t' sep : String} {a b : List String} : holds s s' a → r.isSeparator sep = true →
    holds t t' b → holds (s ++ sep ++ t) (s' ++ sep ++ t') (a ++ b)

/-- Both fail, or both succeed with related results. -/
inductive Alike {α β : Type} (P : α → β → Prop) : Built α → Built β → Prop where
  | ok {a : α} {b : β} : P a b → Alike P (.ok a) (.ok b)
  | error {e e' : BuildError} : Alike P (.error e) (.error e')

namespace Alike

variable {α β γ δ : Type} {P : α → β → Prop} {Q : γ → δ → Prop}

theorem bind {x : Built α} {y : Built β} {f : α → Built γ} {g : β → Built δ} (h : Alike P x y)
    (hfg : ∀ a b, P a b → Alike Q (f a) (g b)) : Alike Q (x >>= f) (y >>= g) := by
  cases h with
  | ok hab => exact hfg _ _ hab
  | error => exact .error

theorem imp {P' : α → β → Prop} {x : Built α} {y : Built β} (h : Alike P x y)
    (hP : ∀ a b, P a b → P' a b) : Alike P' x y := by
  cases h with
  | ok hab => exact .ok (hP _ _ hab)
  | error => exact .error

/-- A result beside itself. -/
theorem self (x : Built α) : Alike (fun a b => a = b ∧ x = .ok a) x x := by
  cases x with
  | ok a => exact .ok ⟨rfl, rfl⟩
  | error e => exact .error

theorem mapM {f : α → Built γ} {g : β → Built δ} {l : List α} {l' : List β}
    (hl : List.Forall₂ P l l') (h : ∀ a b, P a b → Alike Q (f a) (g b)) :
    Alike (List.Forall₂ Q) (l.mapM f) (l'.mapM g) := by
  induction hl with
  | nil => exact .ok .nil
  | cons hab _ ih =>
    rw [List.mapM_cons, List.mapM_cons]
    exact (h _ _ hab).bind fun c d hcd => ih.bind fun cs ds hrest => .ok (.cons hcd hrest)

end Alike

namespace TextRelation

variable {r : Rules} (R : TextRelation r)

inductive HoldsAll : List String → List String → List String → Prop where
  | nil : HoldsAll [] [] []
  | cons {s s' : String} {ss ss' a as : List String} : R.holds s s' a → HoldsAll ss ss' as →
      HoldsAll (s :: ss) (s' :: ss') (a ++ as)

section

variable {R}

theorem separator {sep : String} (h : r.isSeparator sep = true) : R.holds sep sep [] := by
  have hjoint := R.joint R.empty h R.empty
  rwa [String.empty_append, String.append_empty] at hjoint

theorem before {p s s' : String} {a : List String} (h : r.isSeparator p = true)
    (hs : R.holds s s' a) : R.holds (p ++ s) (p ++ s') a := by
  have hjoint := R.joint R.empty h hs
  rwa [String.empty_append] at hjoint

theorem after {p s s' : String} {a : List String} (hs : R.holds s s' a)
    (h : r.isSeparator p = true) : R.holds (s ++ p) (s' ++ p) a := by
  have hjoint := R.joint hs h R.empty
  rwa [String.append_empty, String.append_empty, List.append_nil] at hjoint

theorem join {sep : String} (h : r.isSeparator sep = true) {ss ss' a : List String}
    (hs : R.HoldsAll ss ss' a) : R.holds (Text.join sep ss) (Text.join sep ss') a := by
  induction hs with
  | nil => exact R.empty
  | cons hfirst hrest ih =>
    cases hrest with
    | nil => rwa [Text.join, Text.join, List.append_nil]
    | cons _ _ => exact R.joint hfirst h ih

theorem mapM {α : Type} {f g : α → Built String} {texts : α → List String} {l : List α}
    (h : ∀ x ∈ l, Alike (R.holds · · (texts x)) (f x) (g x)) :
    Alike (R.HoldsAll · · (l.flatMap texts)) (l.mapM f) (l.mapM g) := by
  induction l with
  | nil => exact .ok .nil
  | cons x l ih =>
    rw [List.mapM_cons, List.mapM_cons, List.flatMap_cons]
    refine (h x List.mem_cons_self).bind fun s s' hs => ?_
    refine (ih fun y hy => h y (List.mem_cons_of_mem _ hy)).bind fun ss ss' hss => ?_
    exact .ok (.cons hs hss)

end

end TextRelation

end TerseSql.Lexing
