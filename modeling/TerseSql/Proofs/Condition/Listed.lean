import TerseSql.Proofs.Condition.Comment
import TerseSql.Proofs.Condition.Tree

/-!
# Groups in list form

A group of conditions is a dictionary, or the list of its entries as pairs of a key and a value.
Both are read into the same tree, at any depth and whatever the values of the pairs look like, so
the predicate or the error is the same (`render_listed`).
-/

namespace TerseSql

def Key.item : Key → Value
  | .name s => .text s
  | .raw r => .raw r

namespace Condition

theorem pairKey_item (key : Key) : pairKey key.item = .ok key := by
  cases key <;> rfl

def pairOf (e : Key × Value) : Value :=
  .list [e.1.item, e.2]

mutual

/-- Two values of an entry. Dictionaries under connectives, there and in the groups under them,
may be lists of pairs in the second. -/
inductive ListedEntry : Key → Value → Value → Prop where
  | same (key : Key) (v : Value) : ListedEntry key v v
  | dict {key : Key} {entries entries' : List (Key × Value)} : namesField key = false →
    ListedEntries entries entries' → ListedEntry key (.dict ⟨entries⟩) (.dict ⟨entries'⟩)
  | pairs {key : Key} {entries entries' : List (Key × Value)} : namesField key = false →
    ListedEntries entries entries' → ListedEntry key (.dict ⟨entries⟩) (.list (entries'.map pairOf))
  | list {key : Key} {items items' : List Value} : namesField key = false →
    ListedItems items items' → ListedEntry key (.list items) (.list items')

inductive ListedEntries : List (Key × Value) → List (Key × Value) → Prop where
  | nil : ListedEntries [] []
  | cons {key : Key} {v v' : Value} {rest rest' : List (Key × Value)} : ListedEntry key v v' →
    ListedEntries rest rest' → ListedEntries ((key, v) :: rest) ((key, v') :: rest')

inductive ListedItems : List Value → List Value → Prop where
  | nil : ListedItems [] []
  | same {rest rest' : List Value} (item : Value) : ListedItems rest rest' →
    ListedItems (item :: rest) (item :: rest')
  | pair {k v v' : Value} {key : Key} {rest rest' : List Value} : pairKey k = .ok key →
    ListedEntry key v v' → ListedItems rest rest' →
    ListedItems (.list [k, v] :: rest) (.list [k, v'] :: rest')

end

namespace Tree

theorem ofItems_pair {k : Value} {key : Key} (h : pairKey k = .ok key) (v : Value)
    (rest : List Value) : ofItems (.list [k, v] :: rest) = ofEntry key v :: ofItems rest := by
  rw [ofItems, h]

/-- A pair is read as the entry that it is made of, whatever its value is. -/
theorem ofItems_pairs (entries : List (Key × Value)) :
    ofItems (entries.map pairOf) = ofEntries entries := by
  induction entries with
  | nil => rw [List.map_nil, ofItems, ofEntries]
  | cons e rest ih =>
    obtain ⟨key, v⟩ := e
    rw [List.map_cons, pairOf, ofItems_pair (pairKey_item key), ofEntries, ih]

/-- An item adds the same to two lists of items, or stops both. -/
theorem ofItems_cons_congr {rest rest' : List Value} (h : ofItems rest' = ofItems rest) :
    ∀ item : Value, ofItems (item :: rest') = ofItems (item :: rest)
  | .list [k, v] => by rw [ofItems, ofItems, h]
  | .raw r => by rw [ofItems, ofItems, h]
  | .text name => by rw [ofItems, ofItems, h]
  | .list [] | .list [_] | .list (_ :: _ :: _ :: _) | .null | .bool _ | .int _ | .float _ | .dict _
  | .field _ | .query _ | .json _ => by simp only [ofItems]

/-- What stands under a connective is read from its members alone. -/
theorem ofCollection_congr {key : Key} (h : namesField key = false) (v v' : Value)
    (members : List Tree) : ofCollection key v members = ofCollection key v' members := by
  cases key with
  | raw r => rfl
  | name name =>
    unfold ofCollection
    dsimp only
    cases hc : Connective.ofKey? name with
    | some c => rfl
    | none => simp [namesField, hc] at h

mutual

theorem ofEntry_listed {key : Key} {v v' : Value} :
    ListedEntry key v v' → ofEntry key v' = ofEntry key v
  | .same _ _ => rfl
  | .dict hgroup hentries => by
    rw [ofEntry, ofEntry, ofEntries_listed hentries]
    exact ofCollection_congr hgroup _ _ _
  | .pairs hgroup hentries => by
    rw [ofEntry, ofEntry, ofItems_pairs, ofEntries_listed hentries]
    exact ofCollection_congr hgroup _ _ _
  | .list hgroup hitems => by
    rw [ofEntry, ofEntry, ofItems_listed hitems]
    exact ofCollection_congr hgroup _ _ _

theorem ofEntries_listed {entries entries' : List (Key × Value)} :
    ListedEntries entries entries' → ofEntries entries' = ofEntries entries
  | .nil => rfl
  | .cons hentry hrest => by
    rw [ofEntries, ofEntries, ofEntry_listed hentry, ofEntries_listed hrest]

theorem ofItems_listed {items items' : List Value} :
    ListedItems items items' → ofItems items' = ofItems items
  | .nil => rfl
  | .same item hrest => ofItems_cons_congr (ofItems_listed hrest) item
  | .pair hk hentry hrest => by
    rw [ofItems_pair hk, ofItems_pair hk, ofEntry_listed hentry, ofItems_listed hrest]

end

end Tree

/-- Any groups of a dictionary of conditions, at any depth, may be given as lists of pairs: the
predicate is the same, and so is the error if there is none. -/
theorem render_listed (d : Dialect) {conditions conditions' : Dict Value}
    (h : ListedEntries conditions.entries conditions'.entries) :
    render d conditions' = render d conditions := by
  rw [Tree.render_eq, Tree.render_eq]
  unfold Tree.ofDict
  rw [Tree.ofEntries_listed h]

def rangeAndGroup : Dict Value :=
  ⟨[(.name "AND", .dict ⟨[(.name "a[<>]", .list [.text "b", .text "c"]), (.raw ⟨"x"⟩, .null),
    (.name "or #1", .dict ⟨[(.name "d", .raw ⟨"e"⟩), (.name "f[==]", .null)]⟩)]⟩)]⟩

/-- The outer group and the one in it as lists. -/
theorem render_listed_rangeAndGroup :
    render Builtin.generic.dialect ⟨[(.name "AND", .list [
      .list [.text "a[<>]", .list [.text "b", .text "c"]], .list [.raw ⟨"x"⟩, .null],
      .list [.text "or #1", .list [.list [.text "d", .raw ⟨"e"⟩],
        .list [.text "f[==]", .null]]]])]⟩ =
      .ok "\"a\" BETWEEN 'b' AND 'c' AND x AND (\"d\" = e OR \"f\" IS NULL)" := by
  have hinner : ListedEntries [(.name "d", .raw ⟨"e"⟩), (.name "f[==]", .null)]
      [(.name "d", .raw ⟨"e"⟩), (.name "f[==]", .null)] :=
    .cons (.same _ _) (.cons (.same _ _) .nil)
  have hkey : namesField (.name "or #1") = false := rfl
  have houter := ListedEntries.cons (.same (.name "a[<>]") (.list [.text "b", .text "c"]))
    (.cons (.same (.raw ⟨"x"⟩) .null) (.cons (.pairs hkey hinner) .nil))
  have hrender : render Builtin.generic.dialect rangeAndGroup =
      .ok "\"a\" BETWEEN 'b' AND 'c' AND x AND (\"d\" = e OR \"f\" IS NULL)" := rfl
  rw [← hrender]
  exact render_listed _ (.cons (.pairs rfl houter) .nil)

end Condition

end TerseSql
