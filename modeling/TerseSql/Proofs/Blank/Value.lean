import TerseSql.Dialect.Predicate
import TerseSql.Value.Json

/-!
# Values without their texts

The blank of a value keeps its shape and everything in it but the text of its strings. Two
values that differ in such text alone have the same blank.
-/

namespace TerseSql.Value

mutual

def blank : Value → Value
  | text _ => text ""
  | list items => list (blankItems items)
  | dict ⟨entries⟩ => dict ⟨blankEntries entries⟩
  | v => v

def blankItems : List Value → List Value
  | [] => []
  | item :: rest => blank item :: blankItems rest

def blankEntries : List (Key × Value) → List (Key × Value)
  | [] => []
  | (key, v) :: rest => (key, blank v) :: blankEntries rest

end

mutual

def leaves : Value → List Value
  | list items => leavesOf items
  | v => [v]

def leavesOf : List Value → List Value
  | [] => []
  | item :: rest => leaves item ++ leavesOf rest

end

def texts (v : Value) : List String :=
  v.leaves.filterMap text?

theorem blankItems_eq (items : List Value) : blankItems items = items.map blank := by
  induction items with
  | nil => rw [blankItems, List.map_nil]
  | cons item rest ih => rw [blankItems, List.map_cons, ih]

theorem blankEntries_eq (entries : List (Key × Value)) :
    blankEntries entries = entries.map fun e => (e.1, e.2.blank) := by
  induction entries with
  | nil => rw [blankEntries, List.map_nil]
  | cons e rest ih => rw [blankEntries, List.map_cons, ih]

theorem leavesOf_eq (items : List Value) : leavesOf items = items.flatMap leaves := by
  induction items with
  | nil => rw [leavesOf, List.flatMap_nil]
  | cons item rest ih => rw [leavesOf, List.flatMap_cons, ih]

theorem blank_list (items : List Value) : (list items).blank = list (items.map blank) := by
  rw [blank, blankItems_eq]

theorem leaves_list (items : List Value) : (list items).leaves = items.flatMap leaves := by
  rw [leaves, leavesOf_eq]

theorem mem_leaves_list {items : List Value} {item x : Value} (hitem : item ∈ items)
    (hx : x ∈ item.leaves) : x ∈ (list items).leaves := by
  rw [leaves_list]
  exact List.mem_flatMap.mpr ⟨item, hitem, hx⟩

theorem texts_list (items : List Value) : (list items).texts = items.flatMap texts := by
  unfold texts
  rw [leaves_list, List.filterMap_flatMap]

/-! ## Lists of one value -/

theorem collapse_blank (v : Value) : v.blank.collapse = v.collapse.blank := by
  cases v with
  | list items =>
    rw [blank_list]
    match items with
    | [] => exact (blank_list []).symm
    | [item] => rfl
    | a :: b :: rest => exact (blank_list (a :: b :: rest)).symm
  | _ => simp [collapse, blank]

theorem leaves_collapse (v : Value) : v.collapse.leaves = v.leaves := by
  cases v with
  | list items =>
    match items with
    | [] => rfl
    | [item] =>
      rw [collapse, leaves_list, List.flatMap_cons, List.flatMap_nil, List.append_nil]
    | a :: b :: rest => rfl
  | _ => rfl

theorem texts_collapse (v : Value) : v.collapse.texts = v.texts := by
  unfold texts
  rw [leaves_collapse]

/-! ## Patterns -/

def patternTexts (v : Value) : List String :=
  v.leaves.filterMap fun leaf => leaf.wrapPattern.text?

theorem patternTexts_list (items : List Value) :
    (list items).patternTexts = items.flatMap patternTexts := by
  unfold patternTexts
  rw [leaves_list, List.filterMap_flatMap]

theorem patternTexts_collapse (v : Value) : v.collapse.patternTexts = v.patternTexts := by
  unfold patternTexts
  rw [leaves_collapse]

end TerseSql.Value
