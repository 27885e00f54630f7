import TerseSql.Proofs.Mirror.Name

/-!
# Values under two dialects

Literals and queries are written by the generic dialect and by MySQL as mirror images of each
other, as long as no mark around names stands in them.
-/

namespace TerseSql

open Condition Lexing Text

/-! ## Statements and queries -/

def Primary.IsUnmarked (primary : Option Primary) : Prop :=
  ∀ reference, primary = some (.named reference) → Text.IsUnmarked reference

def Wrapping.IsUnmarked (w : Wrapping) : Prop :=
  ∀ aliasName, w = .named aliasName → Text.IsUnmarked aliasName

/-- The statements are built alike: terms mirror each other, and what joins refer to and the
wrapping are the same and unmarked. -/
structure Statement.Mirrors (s s' : Statement) : Prop where
  terms : List.Forall₂ Text.Mirrors s.terms s'.terms
  primary : s'.primary = s.primary
  wrapping : s'.wrapping = s.wrapping
  reference : Primary.IsUnmarked s.primary
  aliasName : s.wrapping.IsUnmarked

structure Query.Mirrors (q q' : Query) : Prop where
  statement : q.statement.Mirrors q'.statement
  generic : q.lexicon = Builtin.generic.dialect.toLexicon
  mysql : q'.lexicon = Builtin.mysql.dialect.toLexicon

theorem Statement.Mirrors.body {s s' : Statement} (h : s.Mirrors s') :
    Text.Mirrors s.body s'.body :=
  Text.Mirrors.join (by decide) h.terms

theorem Statement.Mirrors.sql {s s' : Statement} (h : s.Mirrors s') :
    Text.Mirrors (s.sql Builtin.generic.dialect.toLexicon)
      (s'.sql Builtin.mysql.dialect.toLexicon) := by
  have hparens : Text.Mirrors ("(" ++ s.body) ("(" ++ s'.body) := h.body.before (by decide)
  unfold Statement.sql
  rw [h.wrapping]
  cases hw : s.wrapping with
  | unset => exact h.body
  | bare => exact hparens.after (by decide)
  | named aliasName =>
    exact (hparens.after (by decide)).append (quote_mirrors (h.aliasName aliasName hw))

theorem Query.Mirrors.body {q q' : Query} (h : q.Mirrors q') : Text.Mirrors q.body q'.body :=
  h.statement.body

theorem Query.Mirrors.sql {q q' : Query} (h : q.Mirrors q') : Text.Mirrors q.sql q'.sql := by
  unfold Query.sql
  rw [h.generic, h.mysql]
  exact h.statement.sql

theorem Query.Mirrors.wrapping {q q' : Query} (h : q.Mirrors q') : q'.wrapping = q.wrapping :=
  h.statement.wrapping

/-! ## Values -/

mutual

/-- The values are the same but for queries, which are related, and they hold neither raw SQL
nor documents nor marked texts. -/
inductive Value.Twins (R : Query → Query → Prop) : Value → Value → Prop where
  | null : Twins R .null .null
  | bool (b : Bool) : Twins R (.bool b) (.bool b)
  | int (n : Int64) : Twins R (.int n) (.int n)
  | float (x : Float) : Twins R (.float x) (.float x)
  | text {s : String} : IsUnmarked s → Twins R (.text s) (.text s)
  | field {f : Field} : f.IsUnmarked → Twins R (.field f) (.field f)
  | query {q q' : Query} : R q q' → Twins R (.query q) (.query q')
  | list {items items' : List Value} : TwinItems R items items' →
      Twins R (.list items) (.list items')
  | dict {entries entries' : List (Key × Value)} : TwinEntries R entries entries' →
      Twins R (.dict ⟨entries⟩) (.dict ⟨entries'⟩)

inductive Value.TwinItems (R : Query → Query → Prop) : List Value → List Value → Prop where
  | nil : TwinItems R [] []
  | cons {v v' : Value} {rest rest' : List Value} : Twins R v v' → TwinItems R rest rest' →
      TwinItems R (v :: rest) (v' :: rest')

inductive Value.TwinEntries (R : Query → Query → Prop) :
    List (Key × Value) → List (Key × Value) → Prop where
  | nil : TwinEntries R [] []
  | cons {name : String} {v v' : Value} {rest rest' : List (Key × Value)} : Twins R v v' →
      TwinEntries R rest rest' →
      TwinEntries R ((.name name, v) :: rest) ((.name name, v') :: rest')

end

namespace Value

variable {R : Query → Query → Prop}

theorem TwinItems.forall₂ {items items' : List Value} (h : TwinItems R items items') :
    List.Forall₂ (Twins R) items items' := by
  induction items generalizing items' with
  | nil =>
    cases h
    exact .nil
  | cons v rest ih =>
    cases h with
    | cons hv hrest => exact .cons hv (ih hrest)

theorem TwinEntries.keys {entries entries' : List (Key × Value)}
    (h : TwinEntries R entries entries') : entries'.map Prod.fst = entries.map Prod.fst := by
  induction entries generalizing entries' with
  | nil =>
    cases h
    rfl
  | cons e rest ih =>
    cases h with
    | cons _ hrest => rw [List.map_cons, List.map_cons, ih hrest]

theorem TwinEntries.exists_name {entries entries' : List (Key × Value)}
    (h : TwinEntries R entries entries') : ∀ e ∈ entries, ∃ name, e.1 = .name name := by
  induction entries generalizing entries' with
  | nil => exact fun e he => nomatch he
  | cons e rest ih =>
    cases h with
    | cons _ hrest => exact List.forall_mem_cons.mpr ⟨⟨_, rfl⟩, ih hrest⟩

def TwinEntry (R : Query → Query → Prop) (e e' : Key × Value) : Prop :=
  ∃ name, e.1 = .name name ∧ e'.1 = .name name ∧ Twins R e.2 e'.2

theorem TwinEntries.forall₂ {entries entries' : List (Key × Value)}
    (h : TwinEntries R entries entries') : List.Forall₂ (TwinEntry R) entries entries' := by
  induction entries generalizing entries' with
  | nil =>
    cases h
    exact .nil
  | cons e rest ih =>
    cases h with
    | cons hv hrest => exact .cons ⟨_, rfl, rfl, hv⟩ (ih hrest)

theorem Twins.collapse {v v' : Value} (h : Twins R v v') : Twins R v.collapse v'.collapse := by
  cases h with
  | list hitems =>
    cases hitems with
    | nil => exact .list .nil
    | cons hv hrest =>
      cases hrest with
      | nil => exact hv
      | cons hw hrest => exact .list (.cons hv (.cons hw hrest))
  | dict hentries => exact .dict hentries
  | null => exact .null
  | bool b => exact .bool b
  | int n => exact .int n
  | float x => exact .float x
  | text hs => exact .text hs
  | field hf => exact .field hf
  | query hq => exact .query hq

theorem Twins.wrapPattern {v v' : Value} (h : Twins R v v') :
    Twins R v.wrapPattern v'.wrapPattern := by
  cases h with
  | @text s hs =>
    unfold Value.wrapPattern
    dsimp only
    by_cases hpercent : s.toList.head? = some '%' ∨ s.toList.getLast? = some '%'
    · rw [if_pos hpercent]
      exact .text hs
    · rw [if_neg hpercent]
      refine .text ?_
      rw [isUnmarked_append, isUnmarked_append]
      exact ⟨⟨by decide, hs⟩, by decide⟩
  | list hitems => exact .list hitems
  | dict hentries => exact .dict hentries
  | null => exact .null
  | bool b => exact .bool b
  | int n => exact .int n
  | float x => exact .float x
  | field hf => exact .field hf
  | query hq => exact .query hq

end Value

/-! ## Literals -/

theorem unmarked_of_numeral {s : String} (h : ∀ c ∈ s.toList, isNumeral c = true) :
    IsUnmarked s :=
  isUnmarked_of_all (by decide) h

theorem unmarked_quoted {s : String} (h : IsUnmarked s) : IsUnmarked (textLiteral false s) := by
  intro c hc
  unfold textLiteral Text.quoted at hc
  simp only [Bool.false_eq_true, if_false, String.empty_append, String.toList_ofList,
    List.cons_append, List.mem_cons, List.mem_append, List.not_mem_nil, or_false] at hc
  rcases hc with rfl | hc | rfl
  · decide
  · exact h c (Text.mem_of_mem_double hc)
  · decide

section

variable {R : Query → Query → Prop} (hR : ∀ q q', R q q' → q.Mirrors q')
include hR

theorem literal_mirrors {v v' : Value} (h : v.Twins R v') :
    Alike Mirrors (Builtin.generic.dialect.literal v) (Builtin.mysql.dialect.literal v') := by
  rw [literal_eq, literal_eq]
  cases h with
  | null => exact .ok (mirrors_self (by decide))
  | bool b => exact .ok (mirrors_self (by cases b <;> decide))
  | int n => exact .ok (mirrors_self (unmarked_of_numeral fun c hc => numeral_of_mem_int hc))
  | float x =>
    show Alike _ (floatLiteral x) (floatLiteral x)
    unfold floatLiteral
    by_cases hfinite : (Binary.ofFloat x).isFinite = true
    · rw [if_pos hfinite]
      exact .ok (mirrors_self (unmarked_of_numeral fun c hc => numeral_of_mem_float hfinite hc))
    · rw [if_neg hfinite]
      exact .error
  | text hs => exact .ok (mirrors_self (unmarked_quoted hs))
  | field hf => exact .ok (field_mirrors hf)
  | query hq => exact .ok (hR _ _ hq).sql
  | list _ => exact .error
  | dict _ => exact .error

theorem literals_mirrors {items items' : List Value} (h : Value.TwinItems R items items') :
    Alike (List.Forall₂ Mirrors) (items.mapM Builtin.generic.dialect.literal)
      (items'.mapM Builtin.mysql.dialect.literal) :=
  Alike.mapM h.forall₂ fun _ _ => literal_mirrors hR

end

end TerseSql
