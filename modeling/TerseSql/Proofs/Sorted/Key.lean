import TerseSql.Proofs.Condition.Key
import TerseSql.Proofs.Name.Qualified
import TerseSql.Proofs.Shorthand.Spelling
import TerseSql.Proofs.Shorthand.Term

/-!
# Fields as sort keys

A field that is sorted by is flattened to its path, and the grammar of sort keys reads the path
again. It gets back the parts of the field exactly if they are words, the last of them perhaps a
star: what it writes for another one is never what the field is written as.
-/

namespace TerseSql

open Text

def Field.IsSpellable (f : Field) : Prop :=
  Grammar.Spellable f.parts

theorem Field.render_congr {f g : Field} (h : f.parts = g.parts) (l : Lexicon) :
    f.render l = g.render l := by
  rw [render, render, h]

theorem Field.length_parts_le (f : Field) : f.parts.length ≤ 3 := by
  unfold parts
  cases f.schema <;> cases f.table <;> simp

/-! ## Sort keys -/

structure FieldExpr.IsSortable (e : FieldExpr) : Prop where
  bare : e.aliasName = none
  spellable : e.field.IsSpellable
  func {g : String} : e.func = some g → ∀ c ∈ g.toList, Grammar.isSortFunction c = true

namespace OrderTerm

/-- The path of a field that can be spelled is read as the field. -/
theorem ofEntry_path {f : Field} (h : f.IsSpellable) :
    ∃ g : Field, ofEntry f.path .null = .ok ⟨⟨g, none, false, none⟩, .asc⟩ ∧ g.parts = f.parts := by
  obtain ⟨g, hg, hparts⟩ := h.exists_ofPath f.length_parts_le
  have hkey : Grammar.sort? f.path = some ⟨f.path, none⟩ := by
    rw [Shorthand.sort?_eq_some_iff, Field.path, ← h.isDotted.eq_split]
    exact .bare (.of_spellable h f.length_parts_le)
  have htrim : trim f.path = f.path := h.trim_join
  have hmake : FieldExpr.make f.path none none = .ok ⟨g, none, false, none⟩ :=
    FieldExpr.make_eq_ok_iff.mpr ⟨g, htrim.symm ▸ hg, rfl⟩
  exact ⟨g, ofEntry_eq_ok_iff.mpr ⟨_, _, .asc, hkey, hmake, rfl, rfl⟩, hparts⟩

theorem sort?_inv {s : String} {k : Grammar.SortKey} (h : Grammar.sort? s = some k) :
    Grammar.Spellable (split '.' k.path) ∧
      ∀ g, k.func = some g → ∀ c ∈ g.toList, Grammar.isSortFunction c = true := by
  obtain ⟨path, func⟩ := k
  cases Shorthand.sort?_eq_some_iff.mp h with
  | bare hkey => exact ⟨hkey.spellable, fun g hg => nomatch hg⟩
  | under hkey _ hfunc _ =>
    refine ⟨hkey.spellable, fun g hg => ?_⟩
    cases hg
    exact hfunc

/-- Whatever is read is sortable, and in ascending order if no direction is given. -/
theorem ofEntry_inv {key : String} {t : OrderTerm} (h : ofEntry key .null = .ok t) :
    t.direction = .asc ∧ t.field.IsSortable := by
  obtain ⟨k, _, direction, hkey, hmade, hdirection, rfl⟩ := ofEntry_eq_ok_iff.mp h
  cases hdirection
  obtain ⟨f, hf, rfl⟩ := FieldExpr.make_eq_ok_iff.mp hmade
  obtain ⟨hparts, hfunc⟩ := sort?_inv hkey
  have htrim := hparts.trim_join
  rw [(isDotted_split k.path).join] at htrim
  rw [htrim] at hf
  have hspellable : f.IsSpellable := by
    rw [Field.IsSpellable, Field.parts_ofPath hf]
    exact hparts
  refine ⟨rfl, rfl, hspellable, fun {g} hg c hc => ?_⟩
  obtain ⟨f', hf', hc⟩ := mem_of_mem_readFunction (Prod.ext hg rfl) hc
  exact hfunc f' hf' c hc

end OrderTerm

/-! ## Texts -/

theorem Delimiters.Reads.exists_head {m : Delimiters} {cs : List Char} {names : List String}
    (h : m.Reads cs names) : ∃ c rest, cs = c :: rest ∧ (c = '*' ∨ c = m.opening) := by
  have hpart : ∀ {ds : List Char} {name : String}, m.ReadsPart ds name →
      ∃ c rest, ds = c :: rest ∧ (c = '*' ∨ c = m.opening) := by
    intro ds name hread
    cases hread with
    | star => exact ⟨_, _, rfl, .inl rfl⟩
    | quoted _ => exact ⟨_, _, rfl, .inr rfl⟩
  cases h with
  | single hread => exact hpart hread
  | dotted hread _ =>
    obtain ⟨c, rest, rfl, hc⟩ := hpart hread
    exact ⟨c, _, rfl, hc⟩

section

variable (b : Builtin)

open Lexing

theorem Field.reads_render (f : Field) :
    b.delimiters.Reads (f.render b.dialect.toLexicon).toList f.parts :=
  Delimiters.reads_join b (List.append_ne_nil_of_right_ne_nil _ (List.cons_ne_nil _ _))

theorem exists_head_function {func : String}
    (h : ∀ c ∈ func.toList, Grammar.isSortFunction c = true) (distinct : Bool) (f : Field) :
    ∃ c rest, (FieldExpr.render b.dialect.toLexicon ⟨f, some func, distinct, none⟩).toList =
      c :: rest ∧ c ≠ '*' ∧ c ≠ b.delimiters.opening := by
  have hopening : (b.rules true).isCalm b.delimiters.opening = false := by cases b <;> decide
  have hstar : (b.rules true).isCalm '*' = false := by cases b <;> decide
  have hparen : (b.rules true).isCalm '(' = true := calm_of_comments (by decide)
  -- The name of a function and the parenthesis behind it are calm, a star and a mark are not.
  have hcalm : ∀ c ∈ (FieldExpr.functionName b.dialect.toLexicon func ++ "(").toList,
      (b.rules true).isCalm c = true := by
    intro c hc
    rw [String.toList_append, List.mem_append] at hc
    rcases hc with hc | hc
    · exact functionName_calm b (fun d hd => calm_of_all _ (by decide) (h d hd)) c hc
    · have hc : c = '(' := by simpa using hc
      rw [hc]
      exact hparen
  have htext : (FieldExpr.render b.dialect.toLexicon ⟨f, some func, distinct, none⟩).toList =
      (FieldExpr.functionName b.dialect.toLexicon func ++ "(").toList ++
        ((if distinct then "DISTINCT " else "") ++ f.render b.dialect.toLexicon ++ ")").toList := by
    rw [← String.toList_append]
    simp only [FieldExpr.render, FieldExpr.renderBare, String.append_assoc]
  rw [htext]
  cases hchars : (FieldExpr.functionName b.dialect.toLexicon func ++ "(").toList with
  | nil => simp at hchars
  | cons c rest =>
    have hc := hcalm c (hchars ▸ List.mem_cons_self)
    refine ⟨c, _, rfl, ?_, ?_⟩
    · rintro rfl
      rw [hstar] at hc
      cases hc
    · rintro rfl
      rw [hopening] at hc
      cases hc

/-- What a sort key writes is what a field is written as only if they have the same parts. -/
theorem FieldExpr.IsSortable.render_unique {e : FieldExpr} (h : e.IsSortable) {f : Field}
    {left right : List Char} (hleft : b.delimiters.EndsName left)
    (hright : b.delimiters.EndsName right)
    (heq : (e.render b.dialect.toLexicon).toList ++ left =
      (f.render b.dialect.toLexicon).toList ++ right) :
    e.func = none ∧ e.field.parts = f.parts ∧ left = right := by
  obtain ⟨field, func, distinct, aliasName⟩ := e
  obtain rfl : aliasName = none := h.bare
  have hf := Field.reads_render b f
  cases func with
  | none =>
    obtain ⟨hparts, hrest⟩ := (field.reads_render b).unique_append hf hleft hright heq
    exact ⟨rfl, hparts, hrest⟩
  | some func =>
    -- A field starts with a star or a mark, and a function with neither.
    obtain ⟨c, rest, hfunc, hstar, hopening⟩ := exists_head_function b (h.func rfl) distinct field
    obtain ⟨d, rest', hfield, hd⟩ := hf.exists_head
    rw [hfunc, hfield] at heq
    obtain ⟨rfl, -⟩ := List.cons.inj heq
    exact absurd hd (not_or.mpr ⟨hstar, hopening⟩)

end

end TerseSql
