import TerseSql.Clause.Condition
import TerseSql.Proofs.Result

/-!
# Trees of conditions

A dictionary of conditions is read into a tree of conditions on single fields, raw pieces and
groups before anything is rendered. What cannot be read as a condition is a node too, which
fails when it is rendered.
-/

namespace TerseSql

theorem Connective.group_eq_parens (c : Connective) {ss : List String} (h : ∀ s, ss ≠ [s]) :
    c.group ss = "(" ++ Text.join c.separator ss ++ ")" := by
  unfold group
  split
  · next s => exact absurd rfl (h s)
  · rfl

namespace Condition

inductive Tree where
  | raw (sql : Raw)
  | leaf (name : String) (v : Value)
  | group (c : Connective) (members : List Tree)
  | broken (e : BuildError)

namespace Tree

/-! ## Reading -/

def ofSingle (key : Key) (v : Value) : Tree :=
  match key with
  | .raw r => raw r
  | .name name =>
    match Connective.ofKey? name with
    | some c => broken (.condition (.notGroup c v))
    | none => leaf name v

def ofCollection (key : Key) (v : Value) (members : List Tree) : Tree :=
  match key with
  | .raw r => raw r
  | .name name =>
    match Connective.ofKey? name with
    | some c => group c members
    | none => leaf name v

mutual

def ofEntry (key : Key) : Value → Tree
  | .dict ⟨entries⟩ => ofCollection key (.dict ⟨entries⟩) (ofEntries entries)
  | .list items => ofCollection key (.list items) (ofItems items)
  | v => ofSingle key v

def ofEntries : List (Key × Value) → List Tree
  | [] => []
  | (key, v) :: rest => ofEntry key v :: ofEntries rest

def ofItems : List Value → List Tree
  | [] => []
  | .list [k, v] :: rest =>
    match pairKey k with
    | .ok key => ofEntry key v :: ofItems rest
    | .error e => [broken e]
  | .raw r :: rest => raw r :: ofItems rest
  | .text name :: rest => ofSingle (.name name) .null :: ofItems rest
  | item :: _ => [broken (.condition (.notItem item))]

end

theorem ofItems_of_not_pair {members : List Value} (h : members.length ≠ 2) (rest : List Value) :
    ofItems (.list members :: rest) = [broken (.condition (.notItem (.list members)))] :=
  match members, h with
  | [], _ | [_], _ | _ :: _ :: _ :: _, _ => by simp only [ofItems]
  | [_, _], h => absurd rfl h

def ofDict (conditions : Dict Value) : List Tree :=
  ofEntries conditions.entries

/-! ## Rendering -/

variable (d : Dialect)

mutual

def render : Tree → Built String
  | raw r => .ok r.sql
  | leaf name v => Condition.leaf d name v
  | group c members => do return c.group (← renderAll members)
  | broken e => .error e

def renderAll : List Tree → Built (List String)
  | [] => .ok []
  | t :: rest => do
    let first ← render t
    let others ← renderAll rest
    return first :: others

end

theorem single_eq (key : Key) (v : Value) :
    Condition.single d key v = (ofSingle key v).render d := by
  unfold Condition.single ofSingle
  cases key with
  | raw r => rw [render]
  | name name =>
    dsimp only
    cases Connective.ofKey? name with
    | some c => rw [render]
    | none => rw [render]

theorem collection_eq (key : Key) (v : Value) (members : List Tree) :
    collection d key v (renderAll d members) = (ofCollection key v members).render d := by
  unfold collection ofCollection
  cases key with
  | raw r => rw [render]
  | name name =>
    dsimp only
    cases Connective.ofKey? name with
    | some c => rw [render]
    | none => rw [render]

mutual

theorem entry_eq (key : Key) : ∀ v, Condition.entry d key v = (ofEntry key v).render d
  | .dict ⟨entries⟩ => by
    simp only [Condition.entry, ofEntry]
    rw [entriesOf_eq entries, collection_eq]
  | .list items => by
    simp only [Condition.entry, ofEntry]
    rw [itemsOf_eq items, collection_eq]
  | .null | .bool _ | .int _ | .float _ | .text _ | .raw _ | .field _ | .query _ | .json _ => by
    simp only [Condition.entry, ofEntry, single_eq]

theorem entriesOf_eq : ∀ entries, entriesOf d entries = renderAll d (ofEntries entries)
  | [] => by rw [entriesOf, ofEntries, renderAll]
  | (key, v) :: rest => by
    rw [entriesOf, ofEntries, renderAll, entry_eq key v, entriesOf_eq rest]

theorem itemsOf_eq : ∀ items, itemsOf d items = renderAll d (ofItems items)
  | [] => by rw [itemsOf, ofItems, renderAll]
  | .raw r :: rest => by
    rw [itemsOf, ofItems, renderAll, render, itemsOf_eq rest]
    rfl
  | .text name :: rest => by
    rw [itemsOf, ofItems, renderAll, single_eq, itemsOf_eq rest]
  | .list [k, v] :: rest => by
    rw [itemsOf, ofItems]
    cases pairKey k with
    | ok key =>
      dsimp only
      rw [renderAll, ← entry_eq key v, ← itemsOf_eq rest]
      rfl
    | error e => rfl
  | .list [] :: _ | .list [_] :: _ | .list (_ :: _ :: _ :: _) :: _
  | .null :: _ | .bool _ :: _ | .int _ :: _ | .float _ :: _ | .dict _ :: _
  | .field _ :: _ | .query _ :: _ | .json _ :: _ => by
    simp only [itemsOf, ofItems, renderAll, render]
    rfl

end

theorem render_eq (conditions : Dict Value) :
    Condition.render d conditions = (renderAll d (ofDict conditions)).map conjoin := by
  unfold Condition.render
  rw [entriesOf_eq]
  rfl

variable {d}

theorem exists_of_render {conditions : Dict Value} {s : String}
    (h : Condition.render d conditions = .ok s) :
    ∃ ss, renderAll d (ofDict conditions) = .ok ss ∧ s = conjoin ss := by
  rw [render_eq] at h
  cases hall : renderAll d (ofDict conditions) with
  | error e =>
    rw [hall] at h
    cases h
  | ok ss =>
    rw [hall] at h
    cases h
    exact ⟨ss, rfl, rfl⟩

theorem length_renderAll {ts : List Tree} {ss : List String}
    (h : renderAll d ts = .ok ss) : ss.length = ts.length := by
  induction ts generalizing ss with
  | nil =>
    rw [renderAll] at h
    cases h
    rfl
  | cons t ts ih =>
    rw [renderAll] at h
    obtain ⟨s, _, h⟩ := Built.exists_of_bind h
    obtain ⟨ss', hrest, h⟩ := Built.exists_of_bind h
    cases h
    rw [List.length_cons, List.length_cons, ih hrest]

end Tree

theorem exists_of_leaf {d : Dialect} {name : String} {v : Value} {s : String}
    (h : leaf d name v = .ok s) :
    ∃ t u, ConditionTerm.ofKey name = .ok t ∧
      d.condition t.operator (t.field.render d.toLexicon) v = .ok u ∧
      s = if t.negated then "NOT " ++ u else u := by
  obtain ⟨t, ht, h⟩ := Built.exists_of_bind h
  obtain ⟨u, hu, h⟩ := Built.exists_of_bind h
  cases h
  exact ⟨t, u, ht, hu, rfl⟩

end Condition

end TerseSql
