import TerseSql.Clause.Assignment
import TerseSql.Clause.Order
import TerseSql.Proofs.Condition.Grammar
import TerseSql.Proofs.Name.Spellable
import TerseSql.Proofs.Name.Spelling

/-!
# Fields as keys spell them

A key spells a field as parts with points between them, and perhaps a function behind a bar. Keys
of sort orders and of assignments spell words; keys of conditions spell any text of words, points
and white space. Each grammar takes the keys that spell a field in its way, and no others
(`sort?_eq_some_iff`, `exists_assignment?_iff`, `exists_condition?_iff`).
-/

namespace TerseSql.Shorthand

open Text Grammar

/-- What stands between the points of a field, and what stands behind a bar if there is one. -/
structure Spelling where
  parts : List String
  func : Option String

/-! ## Keys made of words -/

/-- A text begins with a path of at most three parts, with white space around it. -/
inductive PathBefore (parts : List String) (tail : List Char) : List Char → Prop where
  | intro {before gap : List Char} : IsBlank before → Spellable parts → parts.length ≤ 3 →
    IsBlank gap → PathBefore parts tail (before ++ ((join "." parts).toList ++ (gap ++ tail)))

inductive SpellsSort (key : String) : Spelling → Prop where
  | bare {parts : List String} : PathBefore parts [] key.toList → SpellsSort key ⟨parts, none⟩
  | under {parts : List String} {func : String} {after : List Char} :
    PathBefore parts ('|' :: (func.toList ++ after)) key.toList → func.toList ≠ [] →
    (∀ c ∈ func.toList, isSortFunction c = true) → IsBlank after → SpellsSort key ⟨parts, some func⟩

inductive SpellsAssignment (key : String) : Spelling → Prop where
  | bare {parts : List String} : PathBefore parts [] key.toList →
    SpellsAssignment key ⟨parts, none⟩
  | combined {parts : List String} {op after : List Char} :
    PathBefore parts ('[' :: (op ++ ']' :: after)) key.toList → op ≠ [] → '\n' ∉ op →
    IsBlank after → SpellsAssignment key ⟨parts, none⟩

namespace PathBefore

variable {parts : List String} {tail cs : List Char}

/-- A path before another mark is taken, and the mark is what is read next. -/
theorem exists_read (h : PathBefore parts tail cs)
    (hpath : ∀ c ∈ tail.head?, isPathText c = false)
    (hblank : ∀ c ∈ tail.head?, isBlank c = false) :
    ∃ rest, path 2 (trimLeft cs) = some ((join "." parts).toList, rest) ∧
      trimLeft rest = tail := by
  obtain @⟨before, gap, hbefore, hparts, hlength, hgap⟩ := h
  have hstop : ∀ c ∈ (gap ++ tail).head?, isPathText c = false := by
    cases gap with
    | nil => exact hpath
    | cons d gap =>
      intro c hc
      cases hc
      exact not_pathText_of_blank (hgap d List.mem_cons_self)
  refine ⟨gap ++ tail, ?_, ?_⟩
  · rw [trimLeft_append hbefore, hparts.trimLeft_join, path_spellable hparts hlength hstop]
  · rw [trimLeft_append hgap, trimLeft_of_head hblank]

theorem of_read {taken rest : List Char} (h : path 2 (trimLeft cs) = some (taken, rest)) :
    ∃ parts, taken = (join "." parts).toList ∧ PathBefore parts (trimLeft rest) cs := by
  obtain ⟨parts, hparts, hlength, rfl⟩ := exists_spellable h
  obtain ⟨before, hbefore, hcs⟩ := exists_trimLeft cs
  obtain ⟨gap, hgap, hrest⟩ := exists_trimLeft rest
  refine ⟨parts, rfl, ?_⟩
  have hspelled : PathBefore parts (trimLeft rest) _ := .intro hbefore hparts hlength hgap
  rwa [← hrest, ← (path_append h).2, ← hcs] at hspelled

theorem spellable (h : PathBefore parts tail cs) : Spellable parts := by
  obtain ⟨-, hparts, -, -⟩ := h
  exact hparts

theorem length_le (h : PathBefore parts tail cs) : parts.length ≤ 3 := by
  obtain ⟨-, -, hlength, -⟩ := h
  exact hlength

theorem of_spellable (h : Spellable parts) (hlength : parts.length ≤ 3) :
    PathBefore parts [] (join "." parts).toList := by
  have hspelled : PathBefore parts [] ([] ++ ((join "." parts).toList ++ ([] ++ []))) :=
    .intro isBlank_nil h hlength isBlank_nil
  simpa using hspelled

theorem eq_split (h : PathBefore parts tail cs) : parts = split '.' (join "." parts) :=
  h.spellable.isDotted.eq_split

end PathBefore

theorem not_sortFunction_of_blank {after : List Char} (h : IsBlank after) :
    ∀ c ∈ after.head?, isSortFunction c = false := by
  intro c hc
  have hnot := not_pathText_of_blank (h c (List.mem_of_mem_head? hc))
  simp [isPathText] at hnot
  simp [isSortFunction, hnot]

theorem SpellsSort.of_sort? {key path : String} {func : Option String}
    (h : sort? key = some ⟨path, func⟩) : SpellsSort key ⟨split '.' path, func⟩ := by
  unfold sort? at h
  obtain ⟨⟨taken, rest⟩, hpath, h⟩ := Option.bind_eq_some_iff.mp h
  obtain ⟨parts, rfl, hkey⟩ := PathBefore.of_read hpath
  have hparts := hkey.eq_split
  dsimp only at h
  split at h
  · next inside hrest =>
    by_cases hfunc : inside.takeWhile isSortFunction ≠ [] ∧
        atEnd (inside.dropWhile isSortFunction) = true
    · rw [if_pos hfunc] at h
      cases h
      have hspan : inside = (String.ofList (inside.takeWhile isSortFunction)).toList ++
          inside.dropWhile isSortFunction := by
        rw [String.toList_ofList, List.takeWhile_append_dropWhile]
      rw [hrest, hspan] at hkey
      rw [String.ofList_toList, ← hparts]
      refine .under hkey ?_ ?_ (List.all_eq_true.mp hfunc.2)
      · rw [String.toList_ofList]
        exact hfunc.1
      · rw [String.toList_ofList]
        exact fun c hc => List.mem_takeWhile_imp hc
    · rw [if_neg hfunc] at h
      cases h
  · split at h
    · next hnil =>
      cases h
      rw [String.ofList_toList, ← hparts]
      rw [hnil] at hkey
      exact .bare hkey
    · cases h

theorem SpellsSort.sort?_eq {key path : String} {func : Option String}
    (h : SpellsSort key ⟨split '.' path, func⟩) : sort? key = some ⟨path, func⟩ := by
  have hjoin := (isDotted_split path).join
  generalize split '.' path = parts at h hjoin
  unfold sort?
  cases h with
  | bare hkey =>
    obtain ⟨rest, hread, hrest⟩ := hkey.exists_read (by simp) (by simp)
    rw [hread]
    simp [hrest, hjoin]
  | @under _ func after hkey hne hfunc hafter =>
    obtain ⟨rest, hread, hrest⟩ := hkey.exists_read (by simp; decide) (by simp; decide)
    have hend : atEnd after = true := List.all_eq_true.mpr hafter
    have hstop := not_sortFunction_of_blank hafter
    simp only [hread, hrest, Option.bind_eq_bind, Option.bind_some, takeWhile_span hfunc hstop,
      dropWhile_span hfunc hstop]
    rw [if_pos ⟨hne, hend⟩, hjoin, String.ofList_toList, String.ofList_toList]

theorem sort?_eq_some_iff {key path : String} {func : Option String} :
    sort? key = some ⟨path, func⟩ ↔ SpellsSort key ⟨split '.' path, func⟩ :=
  ⟨SpellsSort.of_sort?, SpellsSort.sort?_eq⟩

theorem SpellsAssignment.of_assignment? {key path : String} {op : Option String}
    (h : assignment? key = some ⟨path, op⟩) : SpellsAssignment key ⟨split '.' path, none⟩ := by
  unfold assignment? at h
  obtain ⟨⟨taken, rest⟩, hpath, h⟩ := Option.bind_eq_some_iff.mp h
  obtain ⟨parts, rfl, hkey⟩ := PathBefore.of_read hpath
  have hparts := hkey.eq_split
  dsimp only at h
  split at h
  · next inside hrest =>
    obtain ⟨inner, hinner, heq⟩ := Option.map_eq_some_iff.mp h
    cases heq
    obtain ⟨hne, hline, after, hafter, rfl⟩ := (enclosed_eq_some_iff (by decide)).mp hinner
    rw [String.ofList_toList, ← hparts]
    rw [hrest] at hkey
    exact .combined hkey hne hline hafter
  · split at h
    · next hnil =>
      cases h
      rw [String.ofList_toList, ← hparts]
      rw [hnil] at hkey
      exact .bare hkey
    · cases h

theorem SpellsAssignment.exists_assignment? {key path : String}
    (h : SpellsAssignment key ⟨split '.' path, none⟩) : ∃ op, assignment? key = some ⟨path, op⟩ := by
  have hjoin := (isDotted_split path).join
  generalize split '.' path = parts at h hjoin
  unfold assignment?
  cases h with
  | bare hkey =>
    obtain ⟨rest, hread, hrest⟩ := hkey.exists_read (by simp) (by simp)
    rw [hread]
    simp [hrest, hjoin]
  | @combined _ op after hkey hne hline hafter =>
    obtain ⟨rest, hread, hrest⟩ := hkey.exists_read (by simp; decide) (by simp; decide)
    have hinner : enclosed ']' (op ++ ']' :: after) = some op :=
      (enclosed_eq_some_iff (by decide)).mpr ⟨hne, hline, after, hafter, rfl⟩
    rw [hread]
    simp [hrest, hinner, hjoin]

theorem exists_assignment?_iff {key path : String} :
    (∃ op, assignment? key = some ⟨path, op⟩) ↔ SpellsAssignment key ⟨split '.' path, none⟩ :=
  ⟨fun ⟨_, h⟩ => .of_assignment? h, SpellsAssignment.exists_assignment?⟩

/-! ## Keys of conditions -/

inductive IsRemark : List Char → Prop where
  | absent : IsRemark []
  | given {text : List Char} : '\n' ∉ text → IsRemark ('#' :: text)

inductive IsTail : List Char → Prop where
  | remark {gap rest : List Char} : IsBlank gap → IsRemark rest → IsTail (gap ++ rest)
  | operator {op gap rest : List Char} : '\n' ∉ op → IsBlank gap → IsRemark rest →
    IsTail ('[' :: (op ++ ']' :: (gap ++ rest)))

/-- A key of a condition is perhaps a mark of negation, a field of at most three parts, and
perhaps a function, each as long as it can be. -/
inductive SpellsCondition (key : String) : Spelling → Prop where
  | bare {negated : Bool} {name tail : List Char} {parts : List String} :
    ReadsMark key.toList negated (name ++ tail) → IsField name tail → IsTail tail →
    IsDotted (String.ofList name) parts → parts.length ≤ 3 → SpellsCondition key ⟨parts, none⟩
  | under {negated : Bool} {name func tail : List Char} {parts : List String} :
    ReadsMark key.toList negated (name ++ '|' :: (func ++ tail)) →
    IsField name ('|' :: (func ++ tail)) → IsField func tail → IsTail tail →
    IsDotted (String.ofList name) parts → parts.length ≤ 3 →
    SpellsCondition key ⟨parts, some (String.ofList func)⟩

theorem head_remark {gap rest : List Char} (hgap : IsBlank gap) (hrest : IsRemark rest) :
    ∀ c ∈ (gap ++ rest).head?, isBlank c = true ∨ c = '#' := by
  intro c hc
  cases gap with
  | nil =>
    cases hrest with
    | absent => cases hc
    | given => exact .inr (Option.some.inj hc).symm
  | cons d gap =>
    cases hc
    exact .inl (hgap c List.mem_cons_self)

theorem IsTail.head_ne_bar {cs : List Char} (h : IsTail cs) : cs.head? ≠ some '|' := by
  intro hhead
  cases h with
  | remark hgap hrest =>
    have hc := head_remark hgap hrest '|' hhead
    revert hc
    decide
  | operator => cases hhead

theorem comment?_eq_some_iff {cs : List Char} :
    comment? cs = some () ↔ ∃ gap rest, cs = gap ++ rest ∧ IsBlank gap ∧ IsRemark rest := by
  obtain ⟨gap, hgap, hcs⟩ := exists_trimLeft cs
  unfold comment?
  constructor
  · intro h
    refine ⟨gap, trimLeft cs, hcs, hgap, ?_⟩
    split at h
    · next hnil =>
      rw [hnil]
      exact .absent
    · next c rest hrest =>
      rw [hrest]
      by_cases hc : c = '#' ∧ '\n' ∉ rest
      · rw [hc.1]
        exact .given hc.2
      · rw [if_neg hc] at h
        cases h
  · rintro ⟨gap, rest, rfl, hgap, hrest⟩
    rw [trimLeft_append hgap]
    cases hrest with
    | absent => rfl
    | given hline =>
      rw [trimLeft_cons (by decide)]
      simp [hline]

/-- Text up to a closing mark behind which the rest can be read. -/
theorem exists_upTo_iff {α : Type} {closing : Char} {rest : List Char → Option α}
    (taken : List Char) {cs : List Char} :
    (∃ found, upTo closing false rest taken cs = some found) ↔
      ∃ inner left a, cs = inner ++ closing :: left ∧ '\n' ∉ inner ∧ rest left = some a := by
  induction cs generalizing taken with
  | nil => simp [upTo]
  | cons c cs ih =>
    by_cases hhere : c = closing ∧ ∃ a, rest cs = some a
    · obtain ⟨rfl, a, ha⟩ := hhere
      exact iff_of_true ⟨(taken.reverse, a), by simp [upTo, ha]⟩
        ⟨[], cs, a, rfl, List.not_mem_nil, ha⟩
    · -- The mark is not here, so it is behind a character that ends no line.
      have hstep : upTo closing false rest taken (c :: cs) =
          if c = '\n' then none else upTo closing false rest (c :: taken) cs := by
        rw [upTo]
        by_cases hc : c = closing
        · have hrest : rest cs = none :=
            Option.eq_none_iff_forall_ne_some.mpr fun a ha => hhere ⟨hc, a, ha⟩
          simp [hc, hrest]
        · simp [hc]
      rw [hstep]
      constructor
      · rintro ⟨found, hfound⟩
        by_cases hline : c = '\n'
        · rw [if_pos hline] at hfound
          cases hfound
        · rw [if_neg hline] at hfound
          obtain ⟨inner, left, a, rfl, hinner, ha⟩ := (ih _).mp ⟨found, hfound⟩
          refine ⟨c :: inner, left, a, rfl, ?_, ha⟩
          rw [List.mem_cons, not_or]
          exact ⟨Ne.symm hline, hinner⟩
      · rintro ⟨inner, left, a, hcs, hinner, ha⟩
        cases inner with
        | nil =>
          obtain ⟨rfl, rfl⟩ := List.cons.inj hcs
          exact absurd ⟨rfl, a, ha⟩ hhere
        | cons d inner =>
          obtain ⟨rfl, rfl⟩ := List.cons.inj hcs
          rw [List.mem_cons, not_or] at hinner
          rw [if_neg (Ne.symm hinner.1)]
          exact (ih _).mpr ⟨inner, left, a, rfl, hinner.2, ha⟩

theorem operator?_of_head {cs : List Char} (h : cs.head? ≠ some '[') :
    operator? cs = (comment? cs).map fun _ => none := by
  unfold operator?
  split
  · exact absurd rfl h
  · rfl

theorem exists_operator?_iff {cs : List Char} :
    (∃ op, operator? cs = some op) ↔ IsTail cs := by
  constructor
  · rintro ⟨op, h⟩
    by_cases hhead : cs.head? = some '['
    · obtain ⟨rest, rfl⟩ := List.head?_eq_some_iff.mp hhead
      obtain ⟨found, hfound, -⟩ := Option.map_eq_some_iff.mp h
      obtain ⟨inner, left, end_, rfl, hline, hend⟩ := (exists_upTo_iff []).mp ⟨found, hfound⟩
      obtain ⟨gap, rest, rfl, hgap, hrest⟩ := comment?_eq_some_iff.mp hend
      exact .operator hline hgap hrest
    · rw [operator?_of_head hhead] at h
      obtain ⟨end_, hend, -⟩ := Option.map_eq_some_iff.mp h
      obtain ⟨gap, rest, rfl, hgap, hrest⟩ := comment?_eq_some_iff.mp hend
      exact .remark hgap hrest
  · intro h
    cases h with
    | @remark gap rest hgap hrest =>
      have hend := comment?_eq_some_iff.mpr ⟨gap, rest, rfl, hgap, hrest⟩
      have hhead : (gap ++ rest).head? ≠ some '[' := by
        intro hhead
        have hc := head_remark hgap hrest '[' hhead
        revert hc
        decide
      rw [operator?_of_head hhead, hend]
      exact ⟨_, rfl⟩
    | @operator op gap rest hline hgap hrest =>
      have hend := comment?_eq_some_iff.mpr ⟨gap, rest, rfl, hgap, hrest⟩
      obtain ⟨found, hfound⟩ := (exists_upTo_iff []).mpr ⟨op, _, (), rfl, hline, hend⟩
      rw [operator?, hfound]
      exact ⟨_, rfl⟩

theorem exists_condition?_iff {key path : String} {func : Option String} :
    ((split '.' path).length ≤ 3 ∧ ∃ negated op, condition? key = some ⟨negated, path, func, op⟩) ↔
      SpellsCondition key ⟨split '.' path, func⟩ := by
  constructor
  · rintro ⟨hlength, negated, op, h⟩
    obtain ⟨_, body, name, read, found, hmark, hbody, heq⟩ := condition?_eq_some_iff.mp h
    cases heq
    cases hbody with
    | bare hname hbar hop =>
      exact .bare hmark hname (exists_operator?_iff.mp ⟨found, hop⟩) (isDotted_split _) hlength
    | under hname hfunc hop =>
      exact .under hmark hname hfunc (exists_operator?_iff.mp ⟨found, hop⟩) (isDotted_split _)
        hlength
  · intro h
    have hjoin := (isDotted_split path).join
    generalize split '.' path = parts at h hjoin ⊢
    cases h with
    | @bare negated name tail _ hmark hname htail hdotted hlength =>
      obtain ⟨op, hop⟩ := exists_operator?_iff.mpr htail
      refine ⟨hlength, negated, op.map String.ofList, condition?_eq_some_iff.mpr
        ⟨negated, _, name, none, op, hmark, .bare hname htail.head_ne_bar hop, ?_⟩⟩
      rw [← hjoin, hdotted.join]
      rfl
    | @under negated name func tail _ hmark hname hfunc htail hdotted hlength =>
      obtain ⟨op, hop⟩ := exists_operator?_iff.mpr htail
      refine ⟨hlength, negated, op.map String.ofList, condition?_eq_some_iff.mpr
        ⟨negated, _, name, some func, op, hmark, .under hname hfunc hop, ?_⟩⟩
      rw [← hjoin, hdotted.join]
      rfl

end TerseSql.Shorthand
