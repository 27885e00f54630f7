import TerseSql.Proofs.Operator.Segment

/-!
# Conditions in pairs

Two operators that write conditions in the same way both fail on a value or both write a
condition, whichever field it is on. What relates the segments that they write relates the
conditions.
-/

namespace TerseSql

open Lexing

/-- The operands of a condition, where a list of one value stands for that value. -/
def Value.operands (v : Value) : List Value :=
  match v.collapse with
  | .list items => items
  | item => [item]

/-- Conditions on fields that both fail, with errors of one kind, or are both written, around
the same operands, in segments that `P` relates. Neither the outcome nor the segments depend on the
field, which `name` writes. -/
inductive Paired {ι : Type} (name : ι → String) (P : List Segment → List Segment → Prop)
    (operands : Built (List String)) (x y : ι → Built String) : Prop where
  | failed : (∀ i, FailAlike (x i) (y i)) → Paired name P operands x y
  | written (ps qs : List Segment) : operands = .ok (Segment.operandsOf ps) →
      operands = .ok (Segment.operandsOf qs) → (∀ i, x i = .ok (Segment.textOf (name i) ps)) →
      (∀ i, y i = .ok (Segment.textOf (name i) qs)) → P ps qs → Paired name P operands x y

namespace Paired

variable {ι κ : Type} {name : ι → String} {P Q : List Segment → List Segment → Prop}
  {operands : Built (List String)} {x y : ι → Built String}

theorem imp (h : Paired name P operands x y) (hPQ : ∀ ps qs, P ps qs → Q ps qs) :
    Paired name Q operands x y := by
  cases h with
  | failed hfail => exact failed hfail
  | written ps qs hps hqs hx hy hP => exact written ps qs hps hqs hx hy (hPQ _ _ hP)

theorem on (h : Paired name P operands x y) (g : κ → ι) :
    Paired (fun k => name (g k)) P operands (fun k => x (g k)) (fun k => y (g k)) := by
  cases h with
  | failed hfail => exact failed fun k => hfail (g k)
  | written ps qs hps hqs hx hy hP =>
    exact written ps qs hps hqs (fun k => hx (g k)) (fun k => hy (g k)) hP

theorem after (h : Paired name P operands x y) (s : String) :
    Paired name (fun ps qs => ∃ rest, ps = .fixed s :: rest ∧ P rest qs) operands
      (fun i => do return s ++ (← x i)) y := by
  cases h with
  | failed hfail => exact failed fun i => (hfail i).bind_left fun t => .ok (s ++ t)
  | written ps qs hps hqs hx hy hP =>
    exact written (.fixed s :: ps) qs hps hqs
      (fun i => congrArg (· >>= fun t => .ok (s ++ t)) (hx i)) hy ⟨ps, rfl, hP⟩

end Paired

section

open Segment

variable {P : List Segment → List Segment → Prop} {op op' listOp listOp' : String}

theorem paired_comparison (hone : ∀ s, P (comparison op s) (comparison op' s)) (x : Built String) :
    Paired id P (do return [← x]) (fun field => do return field ++ " " ++ op ++ " " ++ (← x))
      (fun field => do return field ++ " " ++ op' ++ " " ++ (← x)) := by
  cases x with
  | error e => exact .failed fun _ => failAlike_error e
  | ok s =>
    exact .written (comparison op s) (comparison op' s) rfl rfl
      (fun field => congrArg Except.ok (textOf_comparison field op s).symm)
      (fun field => congrArg Except.ok (textOf_comparison field op' s).symm) (hone s)

theorem paired_listing (hlist : ∀ ss, P (listing op ss) (listing op' ss))
    (x : Built (List String)) :
    Paired id P x
      (fun field => do return field ++ " " ++ op ++ " (" ++ Text.join "," (← x) ++ ")")
      (fun field => do return field ++ " " ++ op' ++ " (" ++ Text.join "," (← x) ++ ")") := by
  cases x with
  | error e => exact .failed fun _ => failAlike_error e
  | ok ss =>
    exact .written _ _ (congrArg Except.ok (operandsOf_listing op ss).symm)
      (congrArg Except.ok (operandsOf_listing op' ss).symm)
      (fun field => congrArg Except.ok (textOf_listing field op ss).symm)
      (fun field => congrArg Except.ok (textOf_listing field op' ss).symm) (hlist ss)

variable (b : Builtin)

theorem mapM_singleton (f : Value → Built String) (v : Value) :
    [v].mapM f = do return [← f v] := by
  rw [List.mapM_cons, List.mapM_nil]
  rfl

theorem paired_membership (hone : ∀ s, P (comparison op s) (comparison op' s))
    (hlist : ∀ ss, P (listing listOp ss) (listing listOp' ss)) (v : Value) :
    Paired id P (v.operands.mapM b.dialect.literal)
      (fun field => b.dialect.membership op listOp field v)
      (fun field => b.dialect.membership op' listOp' field v) := by
  unfold Renderer.membership Value.operands
  generalize v.collapse = w
  cases w with
  | list items =>
    cases items with
    | nil => exact .failed fun _ => ⟨_, _, rfl, rfl, rfl⟩
    | cons item rest => exact paired_listing hlist ((item :: rest).mapM b.dialect.literal)
  | query q =>
    have hliteral : b.dialect.literal (.query q) = .ok q.sql := by
      rw [literal_eq]
      rfl
    have hpaired := paired_listing hlist (.ok [q.sql])
    dsimp only
    rw [mapM_singleton, hliteral]
    exact hpaired
  | _ =>
    dsimp only
    rw [mapM_singleton]
    exact paired_comparison hone _

theorem mapM_matchOne (op field : String) (items : List Value) :
    items.mapM (b.dialect.matchOne op field) = do
      return (← (items.map Value.wrapPattern).mapM b.dialect.literal).map fun s =>
        field ++ " " ++ op ++ " " ++ s := by
  induction items with
  | nil => rfl
  | cons item items ih =>
    rw [List.mapM_cons, ih, List.map_cons, List.mapM_cons, Renderer.matchOne]
    cases b.dialect.literal item.wrapPattern with
    | error e => rfl
    | ok s => cases (items.map Value.wrapPattern).mapM b.dialect.literal <;> rfl

theorem paired_interval (hinterval : ∀ low high, P (interval op low high) (interval op' low high))
    (x y : Built String) :
    Paired id P (do return [← x, ← y])
      (fun field => do return field ++ " " ++ op ++ " " ++ (← x) ++ " AND " ++ (← y))
      (fun field => do return field ++ " " ++ op' ++ " " ++ (← x) ++ " AND " ++ (← y)) := by
  cases x with
  | error e => exact .failed fun _ => failAlike_error e
  | ok s =>
    cases y with
    | error e => exact .failed fun _ => failAlike_error e
    | ok t =>
      exact .written (interval op s t) (interval op' s t) rfl rfl
        (fun field => congrArg Except.ok (textOf_interval field op s t).symm)
        (fun field => congrArg Except.ok (textOf_interval field op' s t).symm) (hinterval s t)

theorem paired_grouped {joiner joiner' : String}
    (hgroup : ∀ ss, ss ≠ [] → P (grouped op joiner ss) (grouped op' joiner' ss))
    {x : Built (List String)} (hx : Gives (· ≠ []) x) :
    Paired id P x
      (fun field => do
        let matches_ ← (do return (← x).map fun s => field ++ " " ++ op ++ " " ++ s)
        return "(" ++ Text.join joiner matches_ ++ ")")
      (fun field => do
        let matches_ ← (do return (← x).map fun s => field ++ " " ++ op' ++ " " ++ s)
        return "(" ++ Text.join joiner' matches_ ++ ")") := by
  cases x with
  | error e => exact .failed fun _ => failAlike_error e
  | ok ss =>
    exact .written _ _ (congrArg Except.ok (operandsOf_grouped op joiner ss).symm)
      (congrArg Except.ok (operandsOf_grouped op' joiner' ss).symm)
      (fun field => congrArg Except.ok (textOf_grouped field op joiner ss).symm)
      (fun field => congrArg Except.ok (textOf_grouped field op' joiner' ss).symm)
      (hgroup ss (hx ss rfl))

theorem paired_pattern {joiner joiner' : String}
    (hone : ∀ s, P (comparison op s) (comparison op' s))
    (hgroup : ∀ ss, ss ≠ [] → P (grouped op joiner ss) (grouped op' joiner' ss)) (v : Value) :
    Paired id P ((v.operands.map Value.wrapPattern).mapM b.dialect.literal)
      (fun field => b.dialect.pattern op joiner field v)
      (fun field => b.dialect.pattern op' joiner' field v) := by
  unfold Renderer.pattern Value.operands
  generalize v.collapse = w
  cases w with
  | list items =>
    cases items with
    | nil => exact .failed fun _ => ⟨_, _, rfl, rfl, rfl⟩
    | cons item rest =>
      have hsome : Gives (· ≠ [])
          (((item :: rest).map Value.wrapPattern).mapM b.dialect.literal) := by
        rintro ss hss rfl
        cases Built.forall₂_of_mapM hss
      have hpaired := @paired_grouped P op op' joiner joiner' hgroup _ hsome
      simp only [← mapM_matchOne] at hpaired
      exact hpaired
  | _ =>
    dsimp only
    rw [List.map_singleton, mapM_singleton]
    exact paired_comparison hone _

theorem paired_range (hinterval : ∀ low high, P (interval op low high) (interval op' low high))
    (v : Value) :
    Paired id P (v.operands.mapM b.dialect.literal) (fun field => b.dialect.range op field v)
      (fun field => b.dialect.range op' field v) := by
  unfold Renderer.range
  rcases v with _ | _ | _ | _ | _ | (_ | ⟨low, _ | ⟨high, _ | ⟨_, _⟩⟩⟩) | _ | _ | _ | _ | _
  case list.cons.cons.nil =>
    have hpaired := paired_interval hinterval (b.dialect.literal low) (b.dialect.literal high)
    have hoperands : (Value.list [low, high]).operands.mapM b.dialect.literal =
        (do return [← b.dialect.literal low, ← b.dialect.literal high]) := by
      have hvalues : (Value.list [low, high]).operands = [low, high] := rfl
      rw [hvalues, List.mapM_cons, mapM_singleton]
      cases b.dialect.literal low with
      | error e => rfl
      | ok s => cases b.dialect.literal high <;> rfl
    rw [hoperands]
    exact hpaired
  all_goals exact .failed fun _ => ⟨_, _, rfl, rfl, rfl⟩

theorem paired_infixed (hone : ∀ s, P (comparison op s) (comparison op' s)) (v : Value) :
    Paired id P (v.operands.mapM b.dialect.literal)
      (fun field => Handler.infixed op b.dialect.toRenderer field v)
      (fun field => Handler.infixed op' b.dialect.toRenderer field v) := by
  cases v with
  | list items =>
    have hliteral : b.dialect.literal (.list items) = .error (.value (.nested (.list items))) := by
      rw [literal_eq]
      rfl
    unfold Handler.infixed
    rw [hliteral]
    exact .failed fun _ => ⟨_, _, rfl, rfl, rfl⟩
  | _ =>
    unfold Value.operands Value.collapse
    dsimp only
    rw [mapM_singleton]
    exact paired_comparison hone _

end

end TerseSql
