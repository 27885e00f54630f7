import TerseSql.Proofs.Mirror.Text
import TerseSql.Proofs.Name.Spelling
import TerseSql.Proofs.Shorthand.Term

/-!
# Names under two dialects

Names are written by the generic dialect and by MySQL as mirror images of each other, as long
as no mark stands in them. The grammars of keys let marks into few places; elsewhere a text
without marks gives names without marks.
-/

namespace TerseSql

open Condition Lexing Text

/-! ## Names -/

section

variable {s : String}

theorem quote_mirrors (h : IsUnmarked s) :
    Mirrors (Builtin.generic.dialect.quote s) (Builtin.mysql.dialect.quote s) := by
  have hgeneric : Builtin.generic.dialect.quote s =
      if s = "*" then s else Delimiters.double.quote s := rfl
  have hmysql : Builtin.mysql.dialect.quote s =
      if s = "*" then s else Delimiters.backtick.quote s := rfl
  rw [hgeneric, hmysql]
  by_cases hstar : s = "*"
  · rw [if_pos hstar, if_pos hstar]
    exact mirrors_self h
  · rw [if_neg hstar, if_neg hstar]
    obtain ⟨hdouble, hbacktick⟩ := not_mem_of_unmarked h
    unfold Delimiters.quote Text.quoted Delimiters.opening Delimiters.closing
    simp only [Text.double_of_not_mem hdouble, Text.double_of_not_mem hbacktick]
    constructor
    · apply String.toList_injective
      simp [mirror, mirrorChar, mirror_of_not_mem hdouble]
    · simp [hbacktick]

end

def Table.IsUnmarked (t : Table) : Prop :=
  (∀ schema, t.schema = some schema → Text.IsUnmarked schema) ∧ Text.IsUnmarked t.name

def AliasedTable.IsUnmarked (t : AliasedTable) : Prop :=
  t.table.IsUnmarked ∧ ∀ aliasName, t.aliasName = some aliasName → Text.IsUnmarked aliasName

def Field.IsUnmarked (f : Field) : Prop :=
  ∀ part ∈ f.parts, Text.IsUnmarked part

structure FieldExpr.IsUnmarked (e : FieldExpr) : Prop where
  field : e.field.IsUnmarked
  func (func : String) : e.func = some func → Text.IsUnmarked func
  aliasName (aliasName : String) : e.aliasName = some aliasName → Text.IsUnmarked aliasName

theorem table_mirrors {t : Table} (h : t.IsUnmarked) :
    Mirrors (t.render Builtin.generic.dialect.toLexicon)
      (t.render Builtin.mysql.dialect.toLexicon) := by
  obtain ⟨hschema, hname⟩ := h
  unfold Table.render
  cases hs : t.schema with
  | none => exact quote_mirrors hname
  | some schema =>
    exact ((quote_mirrors (hschema schema hs)).after (by decide)).append (quote_mirrors hname)

theorem aliasedTable_mirrors {t : AliasedTable} (h : t.IsUnmarked) :
    Mirrors (t.render Builtin.generic.dialect.toLexicon)
      (t.render Builtin.mysql.dialect.toLexicon) := by
  unfold AliasedTable.render
  cases ha : t.aliasName with
  | none => exact table_mirrors h.1
  | some aliasName =>
    exact ((table_mirrors h.1).after (by decide)).append (quote_mirrors (h.2 aliasName ha))

theorem reference_unmarked {t : AliasedTable} (h : t.IsUnmarked) :
    Text.IsUnmarked t.reference := by
  unfold AliasedTable.reference
  cases ha : t.aliasName with
  | none => exact h.1.2
  | some aliasName => exact h.2 aliasName ha

theorem field_mirrors {f : Field} (h : f.IsUnmarked) :
    Mirrors (f.render Builtin.generic.dialect.toLexicon)
      (f.render Builtin.mysql.dialect.toLexicon) := by
  unfold Field.render
  refine Mirrors.join (by decide) ?_
  rw [List.forall₂_map_left_iff, List.forall₂_map_right_iff]
  exact List.forall₂_same.mpr fun part hpart => quote_mirrors (h part hpart)

theorem qualify_unmarked {f : Field} (h : f.IsUnmarked) {table : String}
    (htable : Text.IsUnmarked table) : (f.qualify table).IsUnmarked := by
  intro part hpart
  simp only [Field.parts, Field.qualify, List.mem_append, Option.mem_toList,
    List.mem_singleton] at hpart
  rcases hpart with (hpart | hpart) | hpart
  · exact h part (by simp [Field.parts, hpart])
  · rw [← Option.some.inj hpart]
    exact htable
  · exact h part (by simp [Field.parts, hpart])

theorem fieldExpr_mirrors {e : FieldExpr} (h : e.IsUnmarked) :
    Mirrors (e.render Builtin.generic.dialect.toLexicon)
      (e.render Builtin.mysql.dialect.toLexicon) := by
  have hbare : Mirrors (e.renderBare Builtin.generic.dialect.toLexicon)
      (e.renderBare Builtin.mysql.dialect.toLexicon) := by
    unfold FieldExpr.renderBare
    cases hf : e.func with
    | none => exact field_mirrors h.field
    | some func =>
      have hname : Text.IsUnmarked (Text.upper func ++ "(" ++ if e.distinct then "DISTINCT " else "") := by
        rw [isUnmarked_append, isUnmarked_append]
        exact ⟨⟨(h.func func hf).upper, by decide⟩, by cases e.distinct <;> decide⟩
      exact ((field_mirrors h.field).before hname).after (by decide)
  unfold FieldExpr.render
  cases ha : e.aliasName with
  | none => exact hbare
  | some aliasName => exact (hbare.after (by decide)).append (quote_mirrors (h.aliasName _ ha))

/-! ## Names from texts -/

theorem unmarked_of_path {n : Nat} {cs name rest : List Char}
    (h : Grammar.path n cs = some (name, rest)) : Text.IsUnmarked (String.ofList name) := by
  apply isUnmarked_of_all (p := isPathText) (by decide)
  rw [String.toList_ofList]
  exact pathText_of_path h

theorem unmarked_of_word {cs : List Char} :
    Text.IsUnmarked (String.ofList (cs.takeWhile Text.isWord)) := by
  apply isUnmarked_of_all (p := Text.isWord) (by decide)
  intro c hc
  rw [String.toList_ofList] at hc
  exact List.mem_takeWhile_imp hc

theorem unmarked_of_parenthesized {cs rest aliasName : List Char}
    (h : Grammar.parenthesized cs = some (some aliasName, rest)) :
    Text.IsUnmarked (String.ofList aliasName) := by
  unfold Grammar.parenthesized at h
  split at h
  · next left =>
    split at h
    · cases h
    · next word after hword _ =>
      cases h
      exact unmarked_of_word
    · cases h
  · cases h

theorem unmarked_of_function {cs func rest : List Char}
    (h : Grammar.function cs = some (some func, rest)) :
    Text.IsUnmarked (String.ofList func) := by
  unfold Grammar.function at h
  split at h
  · next bar left =>
    dsimp only at h
    split at h
    · cases h
    · cases h
      rw [String.ofList_append, isUnmarked_append]
      refine ⟨?_, unmarked_of_word⟩
      have hdot : Text.IsUnmarked (String.ofList ['.']) := by decide
      have hnone : Text.IsUnmarked (String.ofList []) := by decide
      split
      · exact hdot
      · exact hnone
  · cases h

theorem table_unmarked {text : String} (htext : Text.IsUnmarked text) {t : Table}
    (h : Table.ofText text = .ok t) : t.IsUnmarked := by
  unfold Table.ofText Table.make at h
  split at h
  · next name hsplit =>
    have hname : name ∈ Text.split '.' text := by simp [hsplit]
    cases h
    exact ⟨fun _ hs => (nomatch hs), htext.split hname⟩
  · next schema name hsplit =>
    have hschema : schema ∈ Text.split '.' text := by simp [hsplit]
    have hname : name ∈ Text.split '.' text := by simp [hsplit]
    cases h
    refine ⟨?_, htext.split hname⟩
    intro s hs
    cases hs
    exact htext.split hschema
  · cases h

theorem field_unmarked {path : String} (hpath : Text.IsUnmarked path) {f : Field}
    (h : Field.ofPath path = .ok f) : f.IsUnmarked :=
  fun _ hpart => hpath.of_subset fun _ hc => mem_of_mem_parts h hpart hc

theorem fieldExpr_unmarked {path : String} {func aliasName : Option String}
    (hpath : Text.IsUnmarked path) (hfunc : ∀ f, func = some f → Text.IsUnmarked f)
    (halias : ∀ a, aliasName = some a → Text.IsUnmarked a) {e : FieldExpr}
    (h : FieldExpr.make path func aliasName = .ok e) : e.IsUnmarked := by
  obtain ⟨f, hf, rfl⟩ := FieldExpr.make_eq_ok_iff.mp h
  refine ⟨field_unmarked hpath.trim hf, fun g hg => ?_, halias⟩
  have hread : FieldExpr.readFunction func = (some g, (FieldExpr.readFunction func).2) :=
    Prod.ext hg rfl
  apply Text.IsUnmarked.of_subset _ fun c hc => hc
  intro c hc
  obtain ⟨f, hf, hmem⟩ := mem_of_mem_readFunction hread hc
  exact hfunc f hf c hmem

theorem fieldExpr_unmarked_of_text {text : String} {e : FieldExpr}
    (h : FieldExpr.ofText text = .ok e) : e.IsUnmarked := by
  unfold FieldExpr.ofText at h
  cases hk : Grammar.field? text with
  | none =>
    rw [hk] at h
    cases h
  | some k =>
    rw [hk] at h
    unfold Grammar.field? at hk
    obtain ⟨⟨name, left⟩, hname, hk⟩ := Option.bind_eq_some_iff.mp hk
    obtain ⟨⟨func, left⟩, hfunc, hk⟩ := Option.bind_eq_some_iff.mp hk
    obtain ⟨⟨aliasName, left⟩, halias, hk⟩ := Option.bind_eq_some_iff.mp hk
    dsimp only at hk
    by_cases hend : Grammar.atEnd left = true
    · rw [if_pos hend] at hk
      cases hk
      apply fieldExpr_unmarked (unmarked_of_path hname) _ _ h
      · intro f hf
        obtain ⟨cs, rfl, rfl⟩ := Option.map_eq_some_iff.mp hf
        exact unmarked_of_function hfunc
      · intro a ha
        obtain ⟨cs, rfl, rfl⟩ := Option.map_eq_some_iff.mp ha
        exact unmarked_of_parenthesized halias
    · rw [if_neg hend] at hk
      cases hk

theorem aliasedTable_unmarked {path : String} {aliasName : Option String}
    (hpath : Text.IsUnmarked path) (halias : ∀ a, aliasName = some a → Text.IsUnmarked a)
    {t : AliasedTable} (h : AliasedTable.make path aliasName = .ok t) : t.IsUnmarked := by
  unfold AliasedTable.make at h
  obtain ⟨table, htable, h⟩ := Built.exists_of_bind h
  cases h
  exact ⟨table_unmarked hpath htable, halias⟩

theorem aliasedTable_unmarked_of_text {text : String} {t : AliasedTable}
    (h : AliasedTable.ofText text = .ok t) : t.IsUnmarked := by
  unfold AliasedTable.ofText at h
  cases hk : Grammar.table? text with
  | none =>
    rw [hk] at h
    cases h
  | some k =>
    rw [hk] at h
    unfold Grammar.table? at hk
    obtain ⟨⟨name, left⟩, hname, hk⟩ := Option.bind_eq_some_iff.mp hk
    obtain ⟨⟨aliasName, left⟩, halias, hk⟩ := Option.bind_eq_some_iff.mp hk
    dsimp only at hk
    by_cases hend : Grammar.atEnd left = true
    · rw [if_pos hend] at hk
      cases hk
      apply aliasedTable_unmarked (unmarked_of_path hname) _ h
      intro a ha
      obtain ⟨cs, rfl, rfl⟩ := Option.map_eq_some_iff.mp ha
      exact unmarked_of_parenthesized halias
    · rw [if_neg hend] at hk
      cases hk

theorem sortField_unmarked {key : String} {k : Grammar.SortKey} (hk : Grammar.sort? key = some k)
    {e : FieldExpr} (he : FieldExpr.make k.path k.func none = .ok e) : e.IsUnmarked := by
  unfold Grammar.sort? at hk
  obtain ⟨⟨name, left⟩, hname, hk⟩ := Option.bind_eq_some_iff.mp hk
  dsimp only at hk
  split at hk
  · next rest _ =>
    split at hk
    · cases hk
      apply fieldExpr_unmarked (unmarked_of_path hname) _ _ he
      · intro f hf
        cases hf
        apply isUnmarked_of_all (p := Grammar.isSortFunction) (by decide)
        intro c hc
        rw [String.toList_ofList] at hc
        exact List.mem_takeWhile_imp hc
      · intro a ha
        cases ha
    · cases hk
  · split at hk
    · cases hk
      apply fieldExpr_unmarked (unmarked_of_path hname) _ _ he
      · intro f hf
        cases hf
      · intro a ha
        cases ha
    · cases hk

theorem unmarked_of_join? {key : String} {k : Grammar.JoinKey} (h : Grammar.join? key = some k) :
    Text.IsUnmarked k.path := by
  have hjoined : ∀ {cs : List Char} {path : String} {aliasName : Option String},
      Grammar.joined cs = some (path, aliasName) → Text.IsUnmarked path := by
    intro cs path aliasName hcs
    unfold Grammar.joined at hcs
    obtain ⟨⟨name, left⟩, hname, hcs⟩ := Option.bind_eq_some_iff.mp hcs
    dsimp only at hcs
    split at hcs
    · obtain ⟨cs, _, heq⟩ := Option.map_eq_some_iff.mp hcs
      cases heq
      exact unmarked_of_path hname
    · split at hcs
      · cases hcs
        exact unmarked_of_path hname
      · cases hcs
  unfold Grammar.join? at h
  split at h
  · next rest _ =>
    obtain ⟨⟨marker, path, aliasName⟩, hfound, rfl⟩ := Option.map_eq_some_iff.mp h
    obtain ⟨_, left, _, _, hleft⟩ := Grammar.upTo_append hfound
    exact hjoined hleft
  · obtain ⟨⟨path, aliasName⟩, hfound, rfl⟩ := Option.map_eq_some_iff.mp h
    exact hjoined hfound

end TerseSql
