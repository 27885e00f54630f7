import Mathlib.Data.List.Basic
import Mathlib.Data.List.TakeWhile
import TerseSql.Term.Build

/-!
# Dotted paths

A path is split at its points into parts that have none, in one way only. Tables and fields
are built from such parts, and none of them is lost.
-/

namespace TerseSql

namespace Text

theorem joinChars_splitChars (sep : Char) (cs : List Char) :
    joinChars sep (splitChars sep cs) = cs := by
  induction cs with
  | nil => rfl
  | cons c rest ih =>
    unfold splitChars
    cases hsplit : splitChars sep rest with
    | nil => exact absurd hsplit (splitChars_ne_nil sep rest)
    | cons part parts =>
      rw [hsplit] at ih
      by_cases hc : c = sep
      · rw [if_pos hc, joinChars, ih, hc]
        rfl
      · rw [if_neg hc]
        cases parts with
        | nil => exact congrArg (c :: ·) ih
        | cons next parts => exact congrArg (c :: ·) ih

theorem not_mem_of_mem_splitChars {sep : Char} {cs part : List Char}
    (h : part ∈ splitChars sep cs) : sep ∉ part := by
  induction cs generalizing part with
  | nil =>
    obtain rfl := List.mem_singleton.mp h
    exact List.not_mem_nil
  | cons c rest ih =>
    unfold splitChars at h
    by_cases hc : c = sep
    · rw [if_pos hc] at h
      rcases List.mem_cons.mp h with rfl | h
      · exact List.not_mem_nil
      · exact ih h
    · rw [if_neg hc] at h
      cases hsplit : splitChars sep rest with
      | nil => exact absurd hsplit (splitChars_ne_nil sep rest)
      | cons first parts =>
        rw [hsplit] at h ih
        rcases List.mem_cons.mp h with rfl | h
        · rw [List.mem_cons, not_or]
          exact ⟨Ne.symm hc, ih List.mem_cons_self⟩
        · exact ih (List.mem_cons_of_mem _ h)

theorem toList_join (sep : Char) :
    ∀ parts : List String, (join (String.singleton sep) parts).toList =
      joinChars sep (parts.map String.toList)
  | [] => rfl
  | [part] => rfl
  | part :: next :: rest => by
    have ih := toList_join sep (next :: rest)
    rw [List.map_cons] at ih
    rw [join, List.map_cons, List.map_cons, joinChars, ← ih]
    simp

theorem split_of_not_mem {sep : Char} {s : String} (h : sep ∉ s.toList) : split sep s = [s] := by
  unfold split
  rw [splitChars_of_not_mem h, List.map_singleton, String.ofList_toList]

theorem split_join {sep : Char} {parts : List String} (hne : parts ≠ [])
    (h : ∀ part ∈ parts, sep ∉ part.toList) :
    split sep (join (String.singleton sep) parts) = parts := by
  have hsplit : splitChars sep (joinChars sep (parts.map String.toList)) =
      parts.map String.toList := by
    refine splitChars_joinChars (fun hnil => hne (List.map_eq_nil_iff.mp hnil)) ?_
    intro cs hcs
    obtain ⟨part, hpart, rfl⟩ := List.mem_map.mp hcs
    exact h part hpart
  unfold split
  rw [toList_join, hsplit]
  simp

end Text

/-! ## Parts of a path -/

structure IsDotted (path : String) (parts : List String) : Prop where
  ne_nil : parts ≠ []
  no_point : ∀ part ∈ parts, '.' ∉ part.toList
  join : Text.join "." parts = path

theorem isDotted_split (path : String) : IsDotted path (Text.split '.' path) where
  ne_nil := fun h => Text.splitChars_ne_nil '.' path.toList (List.map_eq_nil_iff.mp h)
  no_point := by
    intro part hpart
    obtain ⟨cs, hcs, rfl⟩ := List.mem_map.mp hpart
    rw [String.toList_ofList]
    exact Text.not_mem_of_mem_splitChars hcs
  join := by
    apply String.toList_injective
    have hjoin := Text.toList_join '.' (Text.split '.' path)
    have hparts : (Text.split '.' path).map String.toList = Text.splitChars '.' path.toList := by
      simp [Text.split, Function.comp_def]
    rw [hparts, Text.joinChars_splitChars] at hjoin
    exact hjoin

theorem IsDotted.eq_split {path : String} {parts : List String} (h : IsDotted path parts) :
    parts = Text.split '.' path := by
  have hpath : Text.join (String.singleton '.') parts = path := h.join
  rw [← hpath, Text.split_join h.ne_nil h.no_point]

theorem isDotted_iff {path : String} {parts : List String} :
    IsDotted path parts ↔ parts = Text.split '.' path := by
  refine ⟨IsDotted.eq_split, ?_⟩
  rintro rfl
  exact isDotted_split path

/-! ## Tables and fields -/

def Table.parts (t : Table) : List String :=
  t.schema.toList ++ [t.name]

theorem Table.parts_injective {t t' : Table} (h : t.parts = t'.parts) : t = t' := by
  obtain ⟨schema, name⟩ := t
  obtain ⟨schema', name'⟩ := t'
  cases schema <;> cases schema' <;> simp_all [parts]

theorem Table.parts_make {text : String} {schema : Option String} {t : Table}
    (h : make text schema = .ok t) : t.parts = schema.toList ++ Text.split '.' text := by
  unfold make at h
  split at h
  · next name hsplit =>
    cases h
    rw [hsplit]
    rfl
  · next s name hsplit =>
    by_cases hschema : schema.isSome = true
    · rw [if_pos hschema] at h
      cases h
    · rw [if_neg hschema] at h
      cases h
      rw [hsplit, Option.not_isSome_iff_eq_none.mp hschema]
      rfl
  · cases h

theorem Table.exists_make_iff {text : String} {schema : Option String} :
    (∃ t, make text schema = .ok t) ↔
      (Text.split '.' text).length = 1 ∨ (Text.split '.' text).length = 2 ∧ schema = none := by
  unfold make
  split
  · next name hsplit => simp [hsplit]
  · next s name hsplit => cases schema <;> simp [hsplit]
  · next hone htwo =>
    refine iff_of_false (fun ⟨t, ht⟩ => nomatch ht) ?_
    rintro (hlength | ⟨hlength, -⟩)
    · obtain ⟨name, hname⟩ := List.length_eq_one_iff.mp hlength
      exact hone name hname
    · obtain ⟨s, name, hname⟩ := List.length_eq_two.mp hlength
      exact htwo s name hname

theorem Field.parts_make {path : String} {table schema : Option String} {f : Field}
    (h : make path table schema = .ok f) :
    f.parts = schema.toList ++ table.toList ++ Text.split '.' path := by
  unfold make at h
  split at h
  · next name hsplit =>
    cases h
    rw [hsplit]
    rfl
  · next t name hsplit =>
    by_cases htable : table.isSome = true
    · rw [if_pos htable] at h
      cases h
    · rw [if_neg htable] at h
      cases h
      rw [hsplit, Option.not_isSome_iff_eq_none.mp htable]
      simp [parts]
  · next s t name hsplit =>
    by_cases hgiven : (table.isSome || schema.isSome) = true
    · rw [if_pos hgiven] at h
      cases h
    · rw [if_neg hgiven] at h
      cases h
      rw [Bool.or_eq_true, not_or] at hgiven
      rw [hsplit, Option.not_isSome_iff_eq_none.mp hgiven.1,
        Option.not_isSome_iff_eq_none.mp hgiven.2]
      rfl
  · cases h

theorem Field.exists_make_iff {path : String} {table schema : Option String} :
    (∃ f, make path table schema = .ok f) ↔
      (Text.split '.' path).length = 1 ∨
        (Text.split '.' path).length = 2 ∧ table = none ∨
        (Text.split '.' path).length = 3 ∧ table = none ∧ schema = none := by
  unfold make
  split
  · next name hsplit => simp [hsplit]
  · next t name hsplit => cases table <;> simp [hsplit]
  · next s t name hsplit => cases table <;> cases schema <;> simp [hsplit]
  · next hone htwo hthree =>
    refine iff_of_false (fun ⟨f, hf⟩ => nomatch hf) ?_
    rintro (hlength | ⟨hlength, -⟩ | ⟨hlength, -⟩)
    · obtain ⟨name, hname⟩ := List.length_eq_one_iff.mp hlength
      exact hone name hname
    · obtain ⟨t, name, hname⟩ := List.length_eq_two.mp hlength
      exact htwo t name hname
    · obtain ⟨s, t, name, hname⟩ := List.length_eq_three.mp hlength
      exact hthree s t name hname

theorem Field.parts_ofPath {path : String} {f : Field} (h : ofPath path = .ok f) :
    f.parts = Text.split '.' path := by
  have hparts := parts_make h
  rwa [Option.toList_none, List.nil_append, List.nil_append] at hparts

theorem Field.exists_ofPath_iff {path : String} :
    (∃ f, ofPath path = .ok f) ↔ (Text.split '.' path).length ≤ 3 := by
  have hpos : 0 < (Text.split '.' path).length :=
    List.length_pos_iff.mpr (isDotted_split path).ne_nil
  unfold ofPath
  rw [exists_make_iff]
  simp only [and_true]
  omega

/-- A name without points leaves room for both qualifiers. -/
theorem Field.make_of_no_point {name : String} (h : '.' ∉ name.toList)
    (table schema : Option String) : make name table schema = .ok ⟨schema, table, name⟩ := by
  unfold make
  rw [Text.split_of_not_mem h]

/-- A path without a table before its name is that name. -/
theorem Field.eq_of_unqualified {path : String} {f : Field} (h : ofPath path = .ok f)
    (htable : f.table = none) : f = ⟨none, none, path⟩ := by
  unfold ofPath make at h
  split at h
  · next name hsplit =>
    cases h
    have hjoin := (isDotted_split path).join
    rw [hsplit] at hjoin
    rw [← hjoin]
    rfl
  · cases h
    cases htable
  · cases h
    cases htable
  · cases h

/-! ## Paths in keys -/

def isPathText (c : Char) : Bool :=
  Text.isWord c || c == '.' || c == '*'

theorem pathText_of_path {n : Nat} {cs name rest : List Char}
    (h : Grammar.path n cs = some (name, rest)) : ∀ c ∈ name, isPathText c = true := by
  have hword : ∀ ds : List Char, ∀ c ∈ ds.takeWhile Text.isWord, isPathText c = true := by
    intro ds c hc
    have hc := List.mem_takeWhile_imp hc
    simp [isPathText, hc]
  fun_induction Grammar.path n cs generalizing name rest with
  | case1 cs left hdrop htake =>
    cases h
    intro c hc
    obtain rfl := List.mem_singleton.mp hc
    rfl
  | case2 => cases h
  | case3 cs left n hdrop htake ih =>
    obtain ⟨⟨tail, after⟩, htail, heq⟩ := Option.map_eq_some_iff.mp h
    cases heq
    intro c hc
    rcases List.mem_append.mp hc with hc | hc
    · exact hword _ c hc
    · rcases List.mem_cons.mp hc with rfl | hc
      · rfl
      · exact ih htail c hc
  | case4 =>
    cases h
    exact hword _

theorem Grammar.path_append {n : Nat} {cs name rest : List Char}
    (h : path n cs = some (name, rest)) : name ≠ [] ∧ cs = name ++ rest := by
  have hspan : ∀ ds : List Char, ds = ds.takeWhile Text.isWord ++ ds.dropWhile Text.isWord :=
    fun ds => List.takeWhile_append_dropWhile.symm
  fun_induction path n cs generalizing name rest with
  | case1 n cs left hdrop htake =>
    cases h
    have hcs := hspan cs
    rw [htake, hdrop] at hcs
    exact ⟨List.cons_ne_nil _ _, hcs⟩
  | case2 => cases h
  | case3 cs left n hdrop htake ih =>
    obtain ⟨⟨tail, after⟩, htail, heq⟩ := Option.map_eq_some_iff.mp h
    cases heq
    refine ⟨List.append_ne_nil_of_right_ne_nil _ (List.cons_ne_nil _ _), ?_⟩
    have hcs := hspan cs
    rw [hdrop, (ih htail).2] at hcs
    rw [List.append_assoc]
    exact hcs
  | case4 n cs htake =>
    cases h
    exact ⟨htake, hspan cs⟩

end TerseSql
