import TerseSql.Clause.Assignment
import TerseSql.Proofs.Lexing.Comment
import TerseSql.Proofs.Lexing.Term
import TerseSql.Proofs.Operator.Update

/-!
# Arithmetic on fields and comments

The sign of an operation and a number stand side by side. A minus before a negative number
makes two dashes, which open a comment; no other operation and number make one.
-/

namespace TerseSql

open Lexing

namespace Arith

def sign : Arith → Char
  | add => '+'
  | sub => '-'
  | mul => '*'
  | div => '/'
  | mod => '%'

theorem symbol_eq (op : Arith) : op.symbol = String.ofList [op.sign] := by
  cases op <;> rfl

theorem sign_not_delimiter (op : Arith) : isDelimiter op.sign = false := by
  cases op <;> rfl

theorem marks_symbol (op : Arith) : marks op.symbol = [.mark op.sign] := by
  rw [symbol_eq, marks, String.toList_ofList, List.map_singleton]

def tokens (op : Arith) (n : Int) : List Token :=
  if op = .sub ∧ n < 0 then [.comment (toString n.natAbs)]
  else marks op.symbol ++ marks (toString n)

end Arith

namespace Assignment

def IsArithmetic (op : Arith) (n : Int64) (e : Key × Value) : Prop :=
  ∃ key f, e = (.name key, .int n) ∧ AssignmentTerm.ofKey key = .ok ⟨f, some op.symbol⟩

end Assignment

namespace Lexing

/-! ## What stands before the sign -/

theorem getLast_field_tokens (f : Field) : f.tokens.getLast? = some (nameToken f.name) := by
  obtain ⟨schema, table, name⟩ := f
  cases schema <;> cases table <;> rfl

theorem continued_nameToken (r : Rules) (n : String) {c : Char} (hc : isDelimiter c = false) :
    r.continued (nameToken n).closed c = none := by
  unfold nameToken
  split
  · simp [Token.closed, Rules.continued]
  · have hclosing := ((ne_of_not_delimiter hc).2 r.delimiters).2
    simp [Token.closed, Rules.continued, hclosing]

structure SpellsName (r : Rules) (s : String) (ts : List Token) : Prop extends Spells r s ts where
  last : ∃ n, ts.getLast? = some (nameToken n)

theorem SpellsName.meets {r : Rules} {s : String} {ts : List Token} (h : SpellsName r s ts)
    {c : Char} (hc : isDelimiter c = false) :
    ∀ t ∈ ts.getLast?, r.continued t.closed c = none := by
  intro t ht
  obtain ⟨n, hn⟩ := h.last
  rw [hn] at ht
  obtain rfl := Option.some.inj ht
  exact continued_nameToken r n hc

variable (b : Builtin)

theorem spellsName_field (f : Field) :
    SpellsName (b.rules true) (f.render b.dialect.toLexicon) f.tokens where
  toSpells := spells_field b true f
  last := ⟨f.name, getLast_field_tokens f⟩

theorem spellsName_assignment (f : Field) :
    SpellsName (b.rules true)
      (f.render b.dialect.toLexicon ++ "=" ++ f.render b.dialect.toLexicon)
      (f.tokens ++ marks "=" ++ f.tokens) where
  toSpells := by
    have heq : (b.rules true).isSeparator "=" = true := isSeparator_of_steady (by decide)
    exact (spells_field b true f).joint heq (spells_field b true f)
  last := by
    refine ⟨f.name, ?_⟩
    rw [List.getLast?_append, getLast_field_tokens, Option.some_or]

/-! ## Signs and numbers -/

theorem natAbs_unsigned (n : Int) : ∀ c ∈ (toString n.natAbs).toList, isUnsigned c = true := by
  intro c hc
  rw [Nat.toString_eq_repr, Nat.toList_repr] at hc
  exact unsigned_of_mem_toDigits hc

theorem toString_of_neg {n : Int} (h : n < 0) : toString n = "-" ++ toString n.natAbs := by
  cases n with
  | ofNat m => exact absurd h (by simp)
  | negSucc m => rfl

/-- A number starts with a dash only if it is negative. -/
theorem neg_of_head_int {n : Int} (h : (toString n).toList.head? = some '-') : n < 0 := by
  by_cases hneg : n < 0
  · exact hneg
  · obtain ⟨s, hs, _, hunsigned⟩ := exists_signed_int n
    rw [hs, if_neg hneg, String.empty_append] at h
    have hdash := hunsigned '-' (List.mem_of_mem_head? h)
    cases hdash

/-- A sign goes on with a second dash or with a star behind a slash only. -/
theorem continued_sign (r : Rules) {op : Arith} {c : Char} (hdash : op = .sub → c ≠ '-')
    (hstar : op = .div → c ≠ '*') : r.continued (.mark op.sign) c = none := by
  cases op with
  | sub => simp [Rules.continued, Arith.sign, hdash rfl]
  | div => simp [Rules.continued, Arith.sign, hstar rfl]
  | _ => simp [Rules.continued, Arith.sign]

/-- Only a minus and a negative number meet in a comment. -/
theorem continued_symbol (r : Rules) {op : Arith} {n : Int} (h : ¬(op = .sub ∧ n < 0))
    {t u : Token} (ht : t ∈ (marks op.symbol).getLast?) (hu : u ∈ (marks (toString n)).head?) :
    r.continued t.closed (u.first r) = none := by
  unfold marks at hu
  rw [List.head?_map] at hu
  obtain ⟨c, hc, rfl⟩ := Option.map_eq_some_iff.mp hu
  have hnumeral := numeral_of_mem_int (List.mem_of_mem_head? hc)
  rw [Arith.marks_symbol] at ht
  obtain rfl := Option.some.inj ht
  refine continued_sign r (fun hop hdash => ?_) fun _ hstar => ?_
  · subst hdash
    exact h ⟨hop, neg_of_head_int hc⟩
  · subst hstar
    cases hnumeral

section

variable {b : Builtin} {s : String} {ts : List Token}

theorem spells_sign (hs : SpellsName (b.rules true) s ts) (op : Arith) :
    Spells (b.rules true) (s ++ op.symbol) (ts ++ [.mark op.sign]) := by
  have hdelimiter := op.sign_not_delimiter
  rw [Arith.symbol_eq]
  refine hs.toSpells.append (Spells.mark hdelimiter) fun t ht u hu => ?_
  obtain rfl := Option.some.inj hu
  exact hs.meets hdelimiter t ht

theorem spells_arithmetic (hs : SpellsName (b.rules true) s ts) {op : Arith} {n : Int}
    (h : ¬(op = .sub ∧ n < 0)) :
    Spells (b.rules true) (s ++ op.symbol ++ toString n)
      (ts ++ marks op.symbol ++ marks (toString n)) := by
  rw [Arith.marks_symbol]
  refine (spells_sign hs op).append (spells_int n) fun t ht u hu => continued_symbol _ h ?_ hu
  rw [List.getLast?_concat] at ht
  rw [Arith.marks_symbol]
  exact ht

theorem opensLine_sub (hs : SpellsName (b.rules true) s ts) {n : Int} (h : n < 0) :
    OpensLine (b.rules true) (s ++ Arith.sub.symbol ++ toString n) ts
      (toString n.natAbs).toList := by
  refine ⟨s, hs.toSpells, hs.meets (by decide), ?_, fun hline => ?_⟩
  · rw [toString_of_neg h]
    simp [Arith.symbol]
  · have hunsigned := natAbs_unsigned n '\n' hline
    cases hunsigned

theorem scan_arithmetic (hs : SpellsName (b.rules true) s ts) (op : Arith) (n : Int) :
    (b.rules true).scan (s ++ op.symbol ++ toString n) = some (ts ++ op.tokens n) := by
  unfold Arith.tokens
  by_cases h : op = .sub ∧ n < 0
  · obtain ⟨rfl, hneg⟩ := h
    rw [if_pos ⟨rfl, hneg⟩, (opensLine_sub hs hneg).scan rfl, String.ofList_toList]
  · rw [if_neg h, (spells_arithmetic hs h).scan, List.append_assoc]

end

end Lexing

/-! ## Arithmetic as a term and as an assignment -/

section

variable (b : Builtin)

theorem Field.compute_int (f : Field) (op : Arith) (n : Int64) :
    f.compute b.dialect.toRenderer op (.int n) =
      .ok ⟨f.render b.dialect.toLexicon ++ op.symbol ++ toString n.toInt⟩ := by
  unfold Field.compute
  rw [literal_eq]
  rfl

theorem assignment_arithmetic (op : Arith) (field : String) (v : Value) :
    b.dialect.assignment (some op.symbol) field v = b.dialect.combination op.symbol field v := by
  have hsymbol : op.symbol ≠ "=" := by cases op <;> decide
  have hjson : Registry.normalize op.symbol ≠ "json" := by cases op <;> decide
  rw [b.assignment_eq, Option.getD_some, if_neg hsymbol, if_neg hjson]

theorem Assignment.entry_int {key : String} {f : Field} {op : Arith}
    (h : AssignmentTerm.ofKey key = .ok ⟨f, some op.symbol⟩) (n : Int64) :
    Assignment.entry b.dialect (.name key, .int n) =
      .ok (f.render b.dialect.toLexicon ++ "=" ++ f.render b.dialect.toLexicon ++ op.symbol ++
        toString n.toInt) := by
  unfold Assignment.entry AssignmentTerm.render
  dsimp only
  rw [h]
  have hrule := assignment_arithmetic b op (f.render b.dialect.toLexicon) (.int n)
  unfold Renderer.combination at hrule
  rw [literal_eq] at hrule
  exact hrule

end

end TerseSql
