import Mathlib.Data.List.Induction
import TerseSql.Dialect.Builtin
import TerseSql.Proofs.Condition.Tree
import TerseSql.Proofs.Shorthand.Term

/-!
# Registering operators

What a registry holds after any number of registrations: each name once, in the order in which
the names came first, with the handler that came last. A dialect with one more operator writes
every condition that does not use it as before.
-/

namespace TerseSql

namespace Registry

variable {α : Type}

/-! ## One registration -/

theorem names_registerEntry (name : String) (handler : α) (entries : List (String × α)) :
    (registerEntry name handler entries).map Prod.fst =
      if name ∈ entries.map Prod.fst then entries.map Prod.fst
      else entries.map Prod.fst ++ [name] := by
  induction entries with
  | nil => rfl
  | cons e rest ih =>
    obtain ⟨n, h⟩ := e
    rw [registerEntry]
    by_cases hn : n = name
    · simp [hn]
    · rw [if_neg hn, List.map_cons, ih]
      by_cases hmem : name ∈ rest.map Prod.fst
      · simp [hmem]
      · simp [hmem, Ne.symm hn]

/-- A name that is there already keeps its place, any other one goes last. -/
theorem names_register (r : Registry α) (name : String) (handler : α) :
    (r.register name handler).names =
      if normalize name ∈ r.names then r.names else r.names ++ [normalize name] :=
  names_registerEntry (normalize name) handler r.handlers

theorem lookup_registerEntry (name other : String) (handler : α) (entries : List (String × α)) :
    (registerEntry name handler entries).lookup other =
      if name = other then some handler else entries.lookup other := by
  have hne : ∀ {a b : String}, a ≠ b → (b == a) = false := fun h => beq_false_of_ne h.symm
  induction entries with
  | nil =>
    rw [registerEntry, List.lookup_cons]
    by_cases h : name = other
    · simp [h]
    · rw [hne h, if_neg h]
  | cons e rest ih =>
    obtain ⟨n, h⟩ := e
    rw [registerEntry]
    by_cases hn : n = name
    · subst hn
      rw [if_pos rfl, List.lookup_cons, List.lookup_cons]
      by_cases ho : n = other
      · simp [ho]
      · rw [hne ho, if_neg ho]
    · rw [if_neg hn, List.lookup_cons, List.lookup_cons, ih]
      by_cases ho : n = other
      · subst ho
        simp [Ne.symm hn]
      · rw [hne ho]

/-- A registration is found under every name of its form, and changes nothing under others. -/
theorem find?_register (r : Registry α) (name other : String) (handler : α) :
    (r.register name handler).find? other =
      if normalize name = normalize other then some handler else r.find? other :=
  lookup_registerEntry (normalize name) (normalize other) handler r.handlers

/-! ## Histories -/

theorem ofList_concat (registrations : List (String × α)) (last : String × α) :
    ofList (registrations ++ [last]) = (ofList registrations).register last.1 last.2 := by
  unfold ofList
  rw [List.foldl_append]
  rfl

theorem names_ofList (registrations : List (String × α)) :
    (ofList registrations).names = (registrations.map fun r => normalize r.1).eraseDups := by
  induction registrations using List.reverseRecOn with
  | nil => rfl
  | append_singleton registrations last ih =>
    rw [ofList_concat, names_register, ih, List.map_append, List.eraseDups_append]
    by_cases hmem : normalize last.1 ∈ registrations.map fun r => normalize r.1
    · rw [if_pos (List.mem_eraseDups.mpr hmem)]
      simp [List.removeAll, hmem]
    · rw [if_neg (mt List.mem_eraseDups.mp hmem)]
      simp [List.removeAll, hmem, List.eraseDups_cons]

theorem nodup_names_ofList (registrations : List (String × α)) :
    (ofList registrations).names.Nodup := by
  induction registrations using List.reverseRecOn with
  | nil => exact List.nodup_nil
  | append_singleton registrations last ih =>
    rw [ofList_concat, names_register]
    by_cases hmem : normalize last.1 ∈ (ofList registrations).names
    · rwa [if_pos hmem]
    · rw [if_neg hmem]
      exact List.nodup_append.mpr ⟨ih, by simp, fun n hn m hm heq =>
        hmem (List.mem_singleton.mp hm ▸ heq ▸ hn)⟩

def latest? (registrations : List (String × α)) (name : String) : Option α :=
  (registrations.reverse.find? fun r => normalize r.1 == normalize name).map Prod.snd

theorem find?_ofList (registrations : List (String × α)) (name : String) :
    (ofList registrations).find? name = latest? registrations name := by
  induction registrations using List.reverseRecOn with
  | nil => rfl
  | append_singleton registrations last ih =>
    rw [ofList_concat, find?_register, ih]
    unfold latest?
    rw [List.reverse_append, List.reverse_singleton, List.singleton_append, List.find?_cons]
    by_cases h : normalize last.1 = normalize name
    · simp [h]
    · rw [if_neg h, beq_false_of_ne h]

end Registry

/-! ## Operators of conditions -/

namespace Condition.Tree

/-- The operator of a condition on a field; where none is written it is `=`. -/
def leafOperators (name : String) : List String :=
  match ConditionTerm.ofKey name with
  | .ok t => [t.operator.getD "="]
  | .error _ => []

mutual

def operators : Tree → List String
  | raw _ | broken _ => []
  | leaf name _ => leafOperators name
  | group _ members => operatorsOf members

def operatorsOf : List Tree → List String
  | [] => []
  | t :: rest => operators t ++ operatorsOf rest

end

end Condition.Tree

theorem operator_not_blank {key : String} {t : ConditionTerm}
    (h : ConditionTerm.ofKey key = .ok t) :
    t.operator.filter (fun op => !Text.isAllBlank op) = t.operator := by
  obtain ⟨k, _, -, -, rfl⟩ := ConditionTerm.ofKey_eq_ok_iff.mp h
  simp [Option.filter_filter]

namespace Dialect

variable (d : Dialect) (name : String) (handler : Handler)

def withOperator : Dialect :=
  { d with operators := d.operators.register name handler }

theorem condition_withOperator {token : Option String} {field : String} {v : Value}
    (h : Registry.normalize ((token.filter fun t => !Text.isAllBlank t).getD "=") ≠
      Registry.normalize name) :
    (d.withOperator name handler).condition token field v = d.condition token field v := by
  have hfind := Registry.find?_register d.operators name
    ((token.filter fun t => !Text.isAllBlank t).getD "=") handler
  rw [if_neg (Ne.symm h)] at hfind
  have hrender : ∀ op : Operator, op.render (d.withOperator name handler) = op.render d := by
    intro op
    cases op <;> rfl
  unfold condition
  dsimp only [withOperator]
  rw [hfind]
  cases d.operators.find? ((token.filter fun t => !Text.isAllBlank t).getD "=") with
  | some handler => rfl
  | none =>
    cases Operator.ofToken? ((token.filter fun t => !Text.isAllBlank t).getD "=") with
    | some op => exact congrFun (congrFun (hrender op) field) v
    | none => rfl

theorem leaf_withOperator {key : String} {v : Value}
    (h : ∀ op ∈ Condition.Tree.leafOperators key,
      Registry.normalize op ≠ Registry.normalize name) :
    Condition.leaf (d.withOperator name handler) key v = Condition.leaf d key v := by
  unfold Condition.leaf
  unfold Condition.Tree.leafOperators at h
  cases ht : ConditionTerm.ofKey key with
  | error e => rfl
  | ok t =>
    rw [ht] at h
    have hop : Registry.normalize (t.operator.getD "=") ≠ Registry.normalize name :=
      h _ List.mem_cons_self
    rw [← operator_not_blank ht] at hop
    have hcondition : (d.withOperator name handler).condition t.operator
        (t.field.render d.toLexicon) v = d.condition t.operator (t.field.render d.toLexicon) v :=
      d.condition_withOperator name handler hop
    show t.render (d.withOperator name handler) v = t.render d v
    unfold ConditionTerm.render
    rw [← hcondition]
    rfl

mutual

theorem tree_withOperator : ∀ t : Condition.Tree,
    (∀ op ∈ t.operators, Registry.normalize op ≠ Registry.normalize name) →
      t.render (d.withOperator name handler) = t.render d
  | .raw _, _ => by rw [Condition.Tree.render, Condition.Tree.render]
  | .broken _, _ => by rw [Condition.Tree.render, Condition.Tree.render]
  | .leaf key v, h => by
    rw [Condition.Tree.operators] at h
    rw [Condition.Tree.render, Condition.Tree.render, leaf_withOperator d name handler h]
  | .group c members, h => by
    rw [Condition.Tree.operators] at h
    rw [Condition.Tree.render, Condition.Tree.render, trees_withOperator members h]

theorem trees_withOperator : ∀ ts : List Condition.Tree,
    (∀ op ∈ Condition.Tree.operatorsOf ts, Registry.normalize op ≠ Registry.normalize name) →
      Condition.Tree.renderAll (d.withOperator name handler) ts = Condition.Tree.renderAll d ts
  | [], _ => by rw [Condition.Tree.renderAll, Condition.Tree.renderAll]
  | t :: rest, h => by
    rw [Condition.Tree.operatorsOf] at h
    rw [Condition.Tree.renderAll, Condition.Tree.renderAll,
      tree_withOperator t fun op hop => h op (List.mem_append_left _ hop),
      trees_withOperator rest fun op hop => h op (List.mem_append_right _ hop)]

end

/-- A registration counts for its own name alone. Names are registered once each, in the order
in which they came first, and the latest handler of a name is found under all its forms. A
dialect with one more operator renders every tree of conditions without it as before. -/
theorem registration_local {α : Type} (registrations : List (String × α)) :
    (Registry.ofList registrations).names.Nodup ∧
    (Registry.ofList registrations).names =
      (registrations.map fun r => Registry.normalize r.1).eraseDups ∧
    (∀ n, (Registry.ofList registrations).find? n = Registry.latest? registrations n) ∧
    ∀ conditions : Dict Value,
      (∀ op ∈ Condition.Tree.operatorsOf (Condition.Tree.ofDict conditions),
        Registry.normalize op ≠ Registry.normalize name) →
      Condition.render (d.withOperator name handler) conditions = Condition.render d conditions := by
  refine ⟨Registry.nodup_names_ofList registrations, Registry.names_ofList registrations,
    Registry.find?_ofList registrations, fun conditions h => ?_⟩
  rw [Condition.Tree.render_eq, Condition.Tree.render_eq, trees_withOperator d name handler _ h]

def patternOrNumber : Dict Value :=
  ⟨[(.name "OR #1", .dict ⟨[(.name "a[~~]", .text "x"), (.name "!b", .int 1)]⟩)]⟩

/-- Another handler of regular expressions leaves patterns without case as they are. -/
theorem registration_local_replaced :
    (∀ op ∈ Condition.Tree.operatorsOf (Condition.Tree.ofDict patternOrNumber),
      Registry.normalize op ≠ Registry.normalize " REGEXP ") ∧
    (Registry.ofList [("op", 1), (" OP", 2), ("in", 3)]).find? "Op" = some 2 ∧
    Condition.render
        (Builtin.postgres.dialect.withOperator " REGEXP " (Handler.infixed "SIMILAR TO"))
        patternOrNumber =
      .ok "\x22a\x22 ILIKE '%x%' OR NOT \x22b\x22 = 1" := by
  have hops : Condition.Tree.operatorsOf (Condition.Tree.ofDict patternOrNumber) = ["~~", "="] :=
    rfl
  have hother : ∀ op ∈ Condition.Tree.operatorsOf (Condition.Tree.ofDict patternOrNumber),
      Registry.normalize op ≠ Registry.normalize " REGEXP " := by
    rw [hops]
    decide
  have hlocal := registration_local Builtin.postgres.dialect " REGEXP "
    (Handler.infixed "SIMILAR TO") [("op", 1), (" OP", 2), ("in", 3)]
  exact ⟨hother, hlocal.2.2.1 "Op", (hlocal.2.2.2 patternOrNumber hother).trans rfl⟩

end Dialect

end TerseSql
