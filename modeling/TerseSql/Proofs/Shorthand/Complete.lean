import TerseSql.Proofs.Shorthand.Spelling
import TerseSql.Proofs.Shorthand.Term

/-!
# Complete fields

The field that a key stands for is complete if its name and its qualifiers are more than white
space, and its function has a name. A clause takes the keys that spell a field in its way, and
what it reads is complete exactly if every part that is spelled is there
(`complete_iff_spelled`).
-/

namespace TerseSql

open Text

/-- The name, and the qualifiers that are there, are more than white space. -/
def Field.IsComplete (f : Field) : Prop :=
  ∀ part ∈ f.parts, trim part ≠ ""

structure FieldExpr.IsComplete (e : FieldExpr) : Prop where
  field : e.field.IsComplete
  func : e.func ≠ some ""

namespace Shorthand

/-- No part is blank, and behind a bar there is not only the point that asks for distinct
values. -/
structure Spelling.IsComplete (s : Spelling) : Prop where
  parts : ∀ part ∈ s.parts, trim part ≠ ""
  func : ∀ func ∈ s.func, trim func ≠ "."

/-- A key is taken exactly if it spells a field, and what it is taken for is complete exactly if
the spelling is. -/
structure Reads (outcome : Built FieldExpr) (spells : Spelling → Prop) : Prop where
  complete_iff : (∃ e, outcome = .ok e ∧ e.IsComplete) ↔ ∃ s, spells s ∧ s.IsComplete
  incomplete_iff : (∃ e, outcome = .ok e ∧ ¬e.IsComplete) ↔ ∃ s, spells s ∧ ¬s.IsComplete
  refused_iff : (∃ error, outcome = .error error) ↔ ∀ s, ¬spells s

/-! ## Building -/

/-- Only a point alone leaves a function without a name. -/
theorem func_eq_empty_iff {func : Option String} :
    (FieldExpr.readFunction func).1 = some "" ↔ ∃ f ∈ func, trim f = "." := by
  cases func with
  | none => simp [FieldExpr.readFunction]
  | some f =>
    have hpoint : trim f = "." ↔ (trim f).toList = ['.'] := String.toList_inj.symm
    simp only [Option.mem_some_iff, exists_eq_left', hpoint, FieldExpr.readFunction,
      Option.map_some]
    generalize (trim f).toList = cs
    split
    · next h => cases h
    · next h =>
      cases h
      simp
    · next rest h =>
      cases h
      simp
    · next cs' hnil hdistinct h =>
      cases h
      refine iff_of_false (fun hempty => hnil ?_) fun hlone => hdistinct [] hlone
      exact String.ofList_injective (Option.some.inj hempty)

variable {path : String} {func : Option String} {e : FieldExpr}

theorem make_trim : FieldExpr.make (trim path) func none = FieldExpr.make path func none := by
  unfold FieldExpr.make
  rw [← (spaced_trim path).trim_eq]

theorem map_trim_split_trim (path : String) :
    (split '.' (trim path)).map trim = (split '.' path).map trim :=
  (map_trim_split (by decide) (spaced_trim path)).symm

theorem exists_make_iff :
    (∃ e, FieldExpr.make path func none = .ok e) ↔ (split '.' path).length ≤ 3 := by
  have hlength := congrArg List.length (map_trim_split_trim path)
  rw [List.length_map, List.length_map] at hlength
  rw [← hlength, ← Field.exists_ofPath_iff]
  simp only [FieldExpr.make_eq_ok_iff]
  constructor
  · rintro ⟨e, f, hf, -⟩
    exact ⟨f, hf⟩
  · rintro ⟨f, hf⟩
    exact ⟨_, f, hf, rfl⟩

theorem forall_trim_ne_iff {parts parts' : List String} (h : parts.map trim = parts'.map trim) :
    (∀ part ∈ parts, trim part ≠ "") ↔ ∀ part ∈ parts', trim part ≠ "" := by
  have hmap : ∀ texts : List String,
      (∀ part ∈ texts, trim part ≠ "") ↔ "" ∉ texts.map trim := by
    intro texts
    simp [List.mem_map]
  rw [hmap, hmap, h]

/-- What is made of a path and a function is complete exactly if nothing in them is missing. -/
theorem isComplete_make (h : FieldExpr.make path func none = .ok e) :
    e.IsComplete ↔ Spelling.IsComplete ⟨split '.' path, func⟩ := by
  obtain ⟨f, hf, rfl⟩ := FieldExpr.make_eq_ok_iff.mp h
  have hfield : f.IsComplete ↔ ∀ part ∈ split '.' path, trim part ≠ "" := by
    unfold Field.IsComplete
    rw [Field.parts_ofPath hf, forall_trim_ne_iff (map_trim_split_trim path)]
  have hfunc : (FieldExpr.readFunction func).1 ≠ some "" ↔ ∀ f ∈ func, trim f ≠ "." := by
    rw [Ne, func_eq_empty_iff]
    simp only [not_exists, not_and]
  exact ⟨fun h => ⟨hfield.mp h.field, hfunc.mp h.func⟩,
    fun h => ⟨hfield.mpr h.parts, hfunc.mpr h.func⟩⟩

/-! ## Keys -/

theorem reads_of_make {outcome : Built FieldExpr} {spells : Spelling → Prop}
    (hspells : ∀ s, spells s → s.parts.length ≤ 3 ∧ ∃ path, s.parts = split '.' path)
    (hmake : ∀ e, outcome = .ok e ↔
      ∃ path func, spells ⟨split '.' path, func⟩ ∧ FieldExpr.make path func none = .ok e) :
    Reads outcome spells := by
  have htaken : ∀ e, outcome = .ok e → ∃ s, spells s ∧ (e.IsComplete ↔ s.IsComplete) := by
    intro e he
    obtain ⟨path, func, hs, hmade⟩ := (hmake e).mp he
    exact ⟨_, hs, isComplete_make hmade⟩
  have hread : ∀ s, spells s → ∃ e, outcome = .ok e ∧ (e.IsComplete ↔ s.IsComplete) := by
    intro s hs
    obtain ⟨hlength, path, hparts⟩ := hspells s hs
    obtain ⟨parts, func⟩ := s
    obtain rfl : parts = split '.' path := hparts
    obtain ⟨e, hmade⟩ := exists_make_iff.mpr hlength
    exact ⟨e, (hmake e).mpr ⟨path, func, hs, hmade⟩, isComplete_make hmade⟩
  -- Complete readings and incomplete ones differ in a proposition alone, so both follow from this.
  have hboth : ∀ P : Prop → Prop,
      (∃ e, outcome = .ok e ∧ P e.IsComplete) ↔ ∃ s, spells s ∧ P s.IsComplete := by
    intro P
    constructor
    · rintro ⟨e, he, h⟩
      obtain ⟨s, hs, hiff⟩ := htaken e he
      exact ⟨s, hs, propext hiff ▸ h⟩
    · rintro ⟨s, hs, h⟩
      obtain ⟨e, he, hiff⟩ := hread s hs
      exact ⟨e, he, propext hiff ▸ h⟩
  refine ⟨hboth id, hboth Not, ?_, fun hnone => ?_⟩
  · rintro ⟨error, herror⟩ s hs
    obtain ⟨e, he, -⟩ := hread s hs
    rw [herror] at he
    cases he
  · cases houtcome : outcome with
    | error error => exact ⟨error, rfl⟩
    | ok e =>
      obtain ⟨s, hs, -⟩ := htaken e houtcome
      exact absurd hs (hnone s)

theorem reads_condition (key : String) :
    Reads ((·.field) <$> ConditionTerm.ofKey key) (SpellsCondition key) := by
  refine reads_of_make ?_ fun e => ?_
  · intro s hs
    cases hs with
    | bare _ _ _ hdotted hlength => exact ⟨hlength, _, hdotted.eq_split⟩
    | under _ _ _ _ hdotted hlength => exact ⟨hlength, _, hdotted.eq_split⟩
  · simp only [Built.map_eq_ok_iff, ConditionTerm.ofKey_eq_ok_iff, make_trim]
    constructor
    · rintro ⟨_, ⟨k, e, hkey, hmade, rfl⟩, rfl⟩
      exact ⟨k.path, k.func, exists_condition?_iff.mp
        ⟨exists_make_iff.mp ⟨e, hmade⟩, k.negated, k.operator, hkey⟩, hmade⟩
    · rintro ⟨path, func, hspells, hmade⟩
      obtain ⟨-, negated, op, hkey⟩ := exists_condition?_iff.mpr hspells
      exact ⟨_, ⟨_, e, hkey, hmade, rfl⟩, rfl⟩

theorem reads_sort (key : String) (v : Value) :
    Reads ((·.field) <$> OrderTerm.ofEntry key v)
      fun s => SpellsSort key s ∧ ∃ direction, Direction.ofValue v = .ok direction := by
  refine reads_of_make ?_ fun e => ?_
  · rintro s ⟨hs, -⟩
    cases hs with
    | bare hkey => exact ⟨hkey.length_le, _, hkey.eq_split⟩
    | under hkey => exact ⟨hkey.length_le, _, hkey.eq_split⟩
  · simp only [Built.map_eq_ok_iff, OrderTerm.ofEntry_eq_ok_iff]
    constructor
    · rintro ⟨_, ⟨k, e, direction, hkey, hmade, hdirection, rfl⟩, rfl⟩
      exact ⟨k.path, k.func, ⟨sort?_eq_some_iff.mp hkey, direction, hdirection⟩, hmade⟩
    · rintro ⟨path, func, ⟨hspells, direction, hdirection⟩, hmade⟩
      exact ⟨_, ⟨_, e, direction, sort?_eq_some_iff.mpr hspells, hmade, hdirection, rfl⟩, rfl⟩

theorem SpellsAssignment.spellable {key : String} {s : Spelling} (h : SpellsAssignment key s) :
    Grammar.Spellable s.parts ∧ s.func = none := by
  cases h with
  | bare hkey => exact ⟨hkey.spellable, rfl⟩
  | combined hkey => exact ⟨hkey.spellable, rfl⟩

theorem trim_of_spelled {key path : String} {func : Option String}
    (h : SpellsAssignment key ⟨split '.' path, func⟩) : trim path = path := by
  have htrim := h.spellable.1.trim_join
  rwa [(isDotted_split path).join] at htrim

theorem reads_assignment (key : String) :
    Reads ((fun t => ⟨t.field, none, false, none⟩) <$> AssignmentTerm.ofKey key)
      (SpellsAssignment key) := by
  refine reads_of_make ?_ fun e => ?_
  · intro s hs
    cases hs with
    | bare hkey => exact ⟨hkey.length_le, _, hkey.eq_split⟩
    | combined hkey => exact ⟨hkey.length_le, _, hkey.eq_split⟩
  · simp only [Built.map_eq_ok_iff, AssignmentTerm.ofKey_eq_ok_iff, FieldExpr.make_eq_ok_iff]
    constructor
    · rintro ⟨_, ⟨k, f, hkey, hf, rfl⟩, rfl⟩
      have hspells := exists_assignment?_iff.mp ⟨k.operator, hkey⟩
      rw [← trim_of_spelled hspells] at hf
      exact ⟨k.path, none, hspells, f, hf, rfl⟩
    · rintro ⟨path, func, hspells, f, hf, rfl⟩
      obtain rfl : func = none := by cases hspells <;> rfl
      obtain ⟨op, hkey⟩ := exists_assignment?_iff.mpr hspells
      rw [trim_of_spelled hspells] at hf
      exact ⟨_, ⟨_, f, hkey, hf, rfl⟩, rfl⟩

theorem SpellsAssignment.isComplete {key : String} {s : Spelling} (h : SpellsAssignment key s) :
    s.IsComplete where
  parts := h.spellable.1.trim_ne
  func := by
    rw [h.spellable.2]
    exact fun func hfunc => nomatch hfunc

theorem SpellsSort.isComplete_iff {key : String} {s : Spelling} (h : SpellsSort key s) :
    s.IsComplete ↔ s.func ≠ some "." := by
  cases h with
  | bare hkey =>
    exact iff_of_true ⟨hkey.spellable.trim_ne, fun func hfunc => nomatch hfunc⟩ (by simp)
  | @under _ func _ hkey _ hfunc _ =>
    have htrim : trim func = func := trim_of_not_blank (not_blank_of_dotted hfunc)
    constructor
    · rintro h hpoint
      exact h.func func rfl (htrim.trans (Option.some.inj hpoint))
    · rintro hne
      refine ⟨hkey.spellable.trim_ne, fun f hf hpoint => hne ?_⟩
      cases hf
      rw [← htrim, hpoint]

/-- Conditions, sort orders and assignments take the keys that spell a field in their way and
refuse all others. What is taken is complete exactly if the spelling is: conditions may miss any
part, sort orders only the name behind the point of a function, and assignments none. -/
theorem complete_iff_spelled (key : String) (v : Value) :
    Reads ((·.field) <$> ConditionTerm.ofKey key) (SpellsCondition key) ∧
      Reads ((·.field) <$> OrderTerm.ofEntry key v)
        (fun s => SpellsSort key s ∧ ∃ direction, Direction.ofValue v = .ok direction) ∧
      Reads ((fun t => ⟨t.field, none, false, none⟩) <$> AssignmentTerm.ofKey key)
        (SpellsAssignment key) ∧
      (∀ s, SpellsSort key s → (s.IsComplete ↔ s.func ≠ some ".")) ∧
      ∀ s, SpellsAssignment key s → s.IsComplete :=
  ⟨reads_condition key, reads_sort key v, reads_assignment key,
    fun _ hs => hs.isComplete_iff, fun _ hs => hs.isComplete⟩

/-- Nothing behind the point of a field, and nothing behind the point of a function. -/
theorem complete_iff_spelled_points :
    (∃ e, (·.field) <$> ConditionTerm.ofKey "t." = .ok e ∧ ¬e.IsComplete) ∧
      (∃ e, (·.field) <$> ConditionTerm.ofKey "f|. [>]" = .ok e ∧ ¬e.IsComplete) ∧
      ∃ e, (·.field) <$> OrderTerm.ofEntry "f|." .null = .ok e ∧ ¬e.IsComplete := by
  have hname : SpellsCondition "t." ⟨["t", ""], none⟩ :=
    @SpellsCondition.bare _ false ['t', '.'] [] _ (.plain (by decide))
      ⟨by simp, List.all_eq_true.mp (by decide), by simp⟩ (.remark isBlank_nil .absent)
      (isDotted_iff.mpr rfl) (by decide)
  have hfunc : SpellsCondition "f|. [>]" ⟨["f"], some ". "⟩ :=
    @SpellsCondition.under _ false ['f'] ['.', ' '] ['[', '>', ']'] _ (.plain (by decide))
      ⟨by simp, List.all_eq_true.mp (by decide), by simp; decide⟩
      ⟨by simp, List.all_eq_true.mp (by decide), by simp; decide⟩
      (@IsTail.operator ['>'] [] [] (by decide) isBlank_nil .absent)
      (isDotted_iff.mpr rfl) (by decide)
  have hsort : SpellsSort "f|." ⟨["f"], some "."⟩ :=
    @SpellsSort.under _ ["f"] "." []
      (@PathBefore.intro ["f"] ['|', '.'] [] [] isBlank_nil (.name (by decide)) (by decide)
        isBlank_nil)
      (by decide) (List.all_eq_true.mp (by decide)) isBlank_nil
  obtain ⟨hread, -⟩ := complete_iff_spelled "t." .null
  obtain ⟨hunder, -⟩ := complete_iff_spelled "f|. [>]" .null
  obtain ⟨-, horder, -⟩ := complete_iff_spelled "f|." .null
  refine ⟨hread.incomplete_iff.mpr ⟨_, hname, fun h => ?_⟩,
    hunder.incomplete_iff.mpr ⟨_, hfunc, fun h => h.func ". " rfl (by decide)⟩,
    horder.incomplete_iff.mpr ⟨_, ⟨hsort, .asc, rfl⟩, fun h => h.func "." rfl (by decide)⟩⟩
  exact h.parts "" (List.mem_cons_of_mem _ List.mem_cons_self) (by decide)

end Shorthand

end TerseSql
