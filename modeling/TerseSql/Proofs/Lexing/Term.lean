import TerseSql.Dialect.Builtin
import TerseSql.Proofs.Lexing.Number

/-!
# Names and literals as tokens

The tokens of what a dialect at hand writes: names, fields, functions of them and literals.
-/

namespace TerseSql

open Lexing

namespace Builtin

def delimiters : Builtin → Delimiters
  | mysql => .backtick
  | mssql => .bracket
  | _ => .double

theorem quote_eq (b : Builtin) (s : String) :
    b.dialect.quote s = if s = "*" then s else b.delimiters.quote s := by
  cases b <;> rfl

theorem null_eq (b : Builtin) : b.dialect.null = "NULL" := by
  cases b <;> rfl

theorem quoteText_eq (b : Builtin) (s : String) :
    b.dialect.quoteText s = textLiteral (b == mssql && !Text.isAscii s) s := by
  cases b <;> rfl

def rules (b : Builtin) (comments : Bool) : Rules :=
  ⟨b.delimiters, b == mssql, comments⟩

def literalToken (b : Builtin) (s : String) : Token :=
  .literal (b == mssql && !Text.isAscii s) s

end Builtin

def nameToken (s : String) : Token :=
  if s = "*" then .mark '*' else .name s

def Field.tokens (f : Field) : List Token :=
  List.intercalate [.mark '.'] (f.parts.map fun s => [nameToken s])

def FieldExpr.tokens (l : Lexicon) (e : FieldExpr) : List Token :=
  match e.func with
  | some func =>
    marks (FieldExpr.functionName l func ++ "(" ++ if e.distinct then "DISTINCT " else "") ++
      e.field.tokens ++ marks ")"
  | none => e.field.tokens

def Value.tokens (b : Builtin) : Value → List Token
  | .null => marks b.dialect.null
  | .bool x => marks (b.dialect.bool x)
  | .int n => marks (toString n.toInt)
  | .float x => marks (Lexicon.layout.write x)
  | .text s => [b.literalToken s]
  | .json document => [b.literalToken document.write]
  | .field f => f.tokens
  | _ => []

namespace Lexing

variable {r : Rules}

/-! ## Lists of texts -/

theorem Spells.join {sep : String} (hsep : r.isSeparator sep = true) {ss : List String}
    {tss : List (List Token)} (h : List.Forall₂ (Spells r) ss tss) :
    Spells r (Text.join sep ss) (List.intercalate (marks sep) tss) := by
  induction h with
  | nil => exact Spells.empty
  | @cons s ts ss tss hs hrest ih =>
    cases hrest with
    | nil => simpa [Text.join] using hs
    | @cons t us ss tss ht hrest =>
      rw [Text.join, List.intercalate_cons_cons]
      exact hs.joint hsep ih

theorem mem_marks {s : String} {t : Token} (h : t ∈ marks s) : ∃ c, t = .mark c := by
  unfold marks at h
  obtain ⟨c, _, rfl⟩ := List.mem_map.mp h
  exact ⟨c, rfl⟩

theorem mark_mem_marks {s : String} {c : Char} (h : .mark c ∈ marks s) : c ∈ s.toList := by
  unfold marks at h
  obtain ⟨d, hd, heq⟩ := List.mem_map.mp h
  cases heq
  exact hd

theorem mem_of_mem_intercalate {α : Type} {sep : List α} {l : List (List α)} {x : α}
    (h : x ∈ List.intercalate sep l) : x ∈ sep ∨ ∃ part ∈ l, x ∈ part := by
  induction l with
  | nil => cases h
  | cons part l ih =>
    cases l with
    | nil =>
      rw [List.intercalate_singleton] at h
      exact Or.inr ⟨part, List.mem_cons_self, h⟩
    | cons next l =>
      rw [List.intercalate_cons_cons] at h
      rcases List.mem_append.mp h with h | h
      · rcases List.mem_append.mp h with h | h
        · exact Or.inr ⟨part, List.mem_cons_self, h⟩
        · exact Or.inl h
      · rcases ih h with h | ⟨p, hp, hx⟩
        · exact Or.inl h
        · exact Or.inr ⟨p, List.mem_cons_of_mem _ hp, hx⟩

theorem mem_field_tokens {f : Field} {t : Token} (h : t ∈ f.tokens) :
    (∃ c, t = .mark c) ∨ ∃ n ∈ f.parts, t = .name n := by
  unfold Field.tokens at h
  rcases mem_of_mem_intercalate h with h | ⟨part, hpart, ht⟩
  · exact Or.inl ⟨'.', List.mem_singleton.mp h⟩
  · obtain ⟨n, hn, rfl⟩ := List.mem_map.mp hpart
    obtain rfl := List.mem_singleton.mp ht
    unfold nameToken
    by_cases hstar : n = "*"
    · exact Or.inl ⟨'*', if_pos hstar⟩
    · exact Or.inr ⟨n, hn, if_neg hstar⟩

theorem mark_of_mem_field_tokens {f : Field} {c : Char} (h : .mark c ∈ f.tokens) :
    c = '.' ∨ c = '*' := by
  unfold Field.tokens at h
  rcases mem_of_mem_intercalate h with h | ⟨part, hpart, h⟩
  · exact Or.inl (Token.mark.inj (List.mem_singleton.mp h))
  · obtain ⟨n, _, rfl⟩ := List.mem_map.mp hpart
    have hname : Token.mark c = nameToken n := List.mem_singleton.mp h
    unfold nameToken at hname
    by_cases hstar : n = "*"
    · rw [if_pos hstar] at hname
      exact Or.inr (Token.mark.inj hname)
    · rw [if_neg hstar] at hname
      cases hname

/-! ## Names -/

section

variable (b : Builtin) (comments : Bool)

theorem spells_quote (s : String) :
    Spells (b.rules comments) (b.dialect.quote s) [nameToken s] := by
  rw [Builtin.quote_eq]
  unfold nameToken
  by_cases hstar : s = "*"
  · rw [if_pos hstar, if_pos hstar, hstar]
    exact Spells.mark (c := '*') (by decide)
  · rw [if_neg hstar, if_neg hstar]
    refine ⟨?_, fun t ht => ?_, List.IsChain.singleton _⟩
    · simp [Rules.write, Token.write, Delimiters.quote, Text.quoted, Builtin.rules]
    · obtain rfl := List.mem_singleton.mp ht
      exact trivial

theorem spells_field (f : Field) :
    Spells (b.rules comments) (f.render b.dialect.toLexicon) f.tokens := by
  unfold Field.render Field.tokens
  have hsep : (b.rules comments).isSeparator "." = true := isSeparator_of_steady (by decide)
  refine Spells.join hsep ?_
  rw [List.forall₂_map_left_iff, List.forall₂_map_right_iff]
  exact List.forall₂_same.mpr fun s _ => spells_quote b comments s

/-! ## Functions -/

theorem transactFunction_lexical {f g : String} (h : transactFunction f = some g) :
    ∀ c ∈ g.toList, isLexical c = true := by
  unfold transactFunction at h
  split at h <;> cases h <;> exact List.all_eq_true.mp (by decide)

/-- What a dialect calls a function is the name in upper case, or another name of letters. -/
theorem functionName_cases (func : String) :
    FieldExpr.functionName b.dialect.toLexicon func = Text.upper func ∨
      ∃ other, transactFunction func = some other ∧
        FieldExpr.functionName b.dialect.toLexicon func = Text.upper other := by
  unfold FieldExpr.functionName
  cases b with
  | mssql =>
    have hremap : Builtin.mssql.dialect.remapFunction func = transactFunction func := rfl
    rw [hremap]
    cases hf : transactFunction func with
    | none => exact Or.inl rfl
    | some other => exact Or.inr ⟨other, rfl, rfl⟩
  | _ => exact Or.inl rfl

theorem functionName_calm {func : String} (h : ∀ c ∈ func.toList, r.isCalm c = true) :
    ∀ c ∈ (FieldExpr.functionName b.dialect.toLexicon func).toList, r.isCalm c = true := by
  rcases functionName_cases b func with hname | ⟨other, hother, hname⟩
  · rw [hname]
    exact upper_calm h
  · rw [hname]
    exact upper_calm fun c hc => calm_of_lexical r (transactFunction_lexical hother c hc)

theorem spells_fieldExpr {e : FieldExpr} (hbare : e.aliasName = none)
    (hfunc : ∀ func, e.func = some func →
      ∀ c ∈ func.toList, (b.rules comments).isCalm c = true) :
    Spells (b.rules comments) (e.render b.dialect.toLexicon) (e.tokens b.dialect.toLexicon) := by
  unfold FieldExpr.render FieldExpr.renderBare FieldExpr.tokens
  rw [hbare]
  cases hf : e.func with
  | none => exact spells_field b comments e.field
  | some func =>
    have hname := functionName_calm b (hfunc func hf)
    have hopen : (b.rules comments).isSeparator ("(" ++ if e.distinct then "DISTINCT " else "") =
        true :=
      isSeparator_of_steady (by cases e.distinct <;> decide)
    have hclose : ∀ c ∈ ")".toList, (b.rules comments).isCalm c = true :=
      calm_of_separator (isSeparator_of_steady (by decide))
    have h := ((Spells.calm hname).joint hopen (spells_field b comments e.field)).append_calm hclose
    simpa only [marks_append, String.append_assoc, List.append_assoc] using h

/-! ## Literals -/

theorem literal_eq (v : Value) : b.dialect.literal v = v.literal b.dialect.toLexicon := by
  cases b <;> rfl

theorem spells_quoteText (s : String) :
    Spells (b.rules comments) (b.dialect.quoteText s) [b.literalToken s] := by
  rw [b.quoteText_eq]
  unfold Builtin.literalToken
  refine ⟨?_, fun t ht => ?_, List.IsChain.singleton _⟩
  · cases hn : (b == Builtin.mssql && !Text.isAscii s) <;>
      simp [Rules.write, Token.write, textLiteral, Text.quoted]
  · obtain rfl := List.mem_singleton.mp ht
    intro hn
    rw [Bool.and_eq_true] at hn
    exact hn.1

theorem spells_lexical {s : String} (h : s.toList.all isLexical = true) : Spells r s (marks s) :=
  Spells.calm fun c hc => calm_of_lexical r (List.all_eq_true.mp h c hc)

theorem spells_literal {v : Value} {s : String} (h : b.dialect.literal v = .ok s)
    (hraw : ∀ sql, v ≠ .raw sql) (hquery : ∀ q, v ≠ .query q) :
    Spells (b.rules comments) s (v.tokens b) := by
  rw [literal_eq] at h
  cases v with
  | null =>
    cases h
    rw [Value.tokens, b.null_eq]
    exact spells_lexical (by decide)
  | bool x =>
    cases h
    rw [Value.tokens]
    exact spells_lexical (by cases b <;> cases x <;> decide)
  | int n =>
    cases h
    exact spells_int n.toInt
  | float x =>
    obtain ⟨hfinite, rfl⟩ := floatLiteral_eq_ok_iff.mp h
    exact spells_float hfinite
  | text t =>
    cases h
    exact spells_quoteText b comments t
  | json document =>
    cases h
    exact spells_quoteText b comments document.write
  | field f =>
    cases h
    exact spells_field b comments f
  | raw sql => exact absurd rfl (hraw sql)
  | query q => exact absurd rfl (hquery q)
  | list items => cases h
  | dict entries => cases h

end

end Lexing

end TerseSql
