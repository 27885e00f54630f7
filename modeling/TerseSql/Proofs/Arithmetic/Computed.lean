import TerseSql.Proofs.Arithmetic.Reader
import TerseSql.Proofs.Lexing.Scan

/-!
# Computed values

Arithmetic on a field takes a value, which may be arithmetic on a field again. All of it is
written side by side, with no parentheses. It reads as what was computed only if each operation
binds looser than the one behind it, and if no slash meets a star.
-/

namespace TerseSql

open Lexing Arithmetic

inductive Computed where
  | field (f : Field)
  | int (n : Int64) (hn : 0 ≤ n.toInt)
  | compute (f : Field) (op : Arith) (operand : Computed)

namespace Computed

def value (r : Renderer) : Computed → Built Value
  | field f => .ok (.field f)
  | int n _ => .ok (.int n)
  | compute f op c => do return .raw (← f.compute r op (← c.value r))

def sql (l : Lexicon) : Computed → String
  | field f => f.render l
  | int n _ => toString n.toInt
  | compute f op c => f.render l ++ op.symbol ++ c.sql l

def tree : Computed → Expr
  | field f => .operand (.field f.parts)
  | int n _ => .operand (.number n.toInt.toNat)
  | compute f op c => .binary op (.operand (.field f.parts)) c.tree

def first : Computed → Operand
  | field f | compute f _ _ => .field f.parts
  | int n _ => .number n.toInt.toNat

def rest : Computed → List (Arith × Operand)
  | field _ | int _ _ => []
  | compute _ op c => (op, c.first) :: c.rest

def series (c : Computed) : Series :=
  ⟨c.first, c.rest⟩

/-- Each operation binds looser than the one behind it. -/
def Ascends (c : Computed) : Prop :=
  c.rest.IsChain fun a b => level a.1 < level b.1

end Computed

/-! ## Readers -/

namespace Builtin

def readArithmetic? (b : Builtin) (sql : String) : Option Expr :=
  ((b.rules true).scan sql).bind arithmetic?

def readAssignment? (b : Builtin) (sql : String) : Option (Expr × Expr) :=
  ((b.rules true).scan sql).bind assignment?

end Builtin

/-! ## Comments -/

namespace Arithmetic

def Operand.isStarred : Operand → Bool
  | .field parts => parts.head? == some "*"
  | .number _ => false

def Series.opensComment (s : Series) : Bool :=
  s.rest.any fun next => next.1 == .div && next.2.isStarred

theorem Operand.exists_tokens_cons {x : Operand} (hx : x.IsWritten) :
    ∃ t ts, x.tokens = t :: ts := by
  cases x with
  | field parts =>
    obtain ⟨s, rest, rfl⟩ := List.exists_cons_of_ne_nil hx
    cases rest with
    | nil => exact ⟨_, _, rfl⟩
    | cons s' rest =>
      rw [Operand.tokens, List.map_cons, List.map_cons, List.intercalate_cons_cons]
      exact ⟨_, _, rfl⟩
  | number n =>
    obtain ⟨d, ds, hds⟩ := List.exists_cons_of_ne_nil (Nat.toDigits_ne_nil (b := 10) (n := n))
    rw [Operand.tokens, hds]
    exact ⟨_, _, rfl⟩

theorem Operand.head_tokens {x : Operand} {t : Token} (h : t ∈ x.tokens.head?) :
    (t = .mark '*' ∧ x.isStarred = true) ∨ (∃ s, t = .name s) ∨
      ∃ d, d.isDigit = true ∧ t = .mark d := by
  cases x with
  | field parts =>
    cases parts with
    | nil => cases h
    | cons s rest =>
      have ht : t = nameToken s := by
        cases rest <;> exact (Option.some.inj h).symm
      subst ht
      unfold nameToken
      by_cases hs : s = "*"
      · subst hs
        exact Or.inl ⟨rfl, rfl⟩
      · rw [if_neg hs]
        exact Or.inr (Or.inl ⟨s, rfl⟩)
  | number n =>
    rw [Operand.tokens, List.head?_map] at h
    obtain ⟨d, hd, rfl⟩ := Option.map_eq_some_iff.mp h
    have hdigit := Nat.isDigit_of_mem_toDigits (by decide) (by decide) (List.mem_of_mem_head? hd)
    exact Or.inr (Or.inr ⟨d, hdigit, rfl⟩)

theorem Operand.head_of_isStarred {x : Operand} (h : x.isStarred = true) :
    x.tokens.head? = some (.mark '*') := by
  cases x with
  | field parts =>
    cases parts with
    | nil => cases h
    | cons s rest =>
      obtain rfl : s = "*" := by simpa [isStarred] using h
      cases rest <;> rfl
  | number n => cases h

/-- A sign goes on with no operand but a star behind a slash. -/
theorem continued_operand (r : Rules) {op : Arith} {x : Operand}
    (h : (op == .div && x.isStarred) = false) {t : Token} (ht : t ∈ x.tokens.head?) :
    r.continued (.mark op.sign) (t.first r) = none := by
  rcases Operand.head_tokens ht with ⟨rfl, hstar⟩ | ⟨s, rfl⟩ | ⟨d, hd, rfl⟩
  · have hdash : '*' ≠ '-' := by decide
    refine continued_sign r (fun _ => hdash) fun hop => ?_
    rw [hop, hstar] at h
    cases h
  · have hopening : (Token.name s).first r ≠ '-' ∧ (Token.name s).first r ≠ '*' := by
      rw [Token.first]
      cases r.delimiters <;> decide
    exact continued_sign r (fun _ => hopening.1) fun _ => hopening.2
  · refine continued_sign r (fun _ => ?_) fun _ => ?_
    · rintro rfl
      cases hd
    · rintro rfl
      cases hd

end Arithmetic

/-! ## Texts of computed values -/

namespace Computed

section

variable (b : Builtin)

theorem field_parts_ne_nil (f : Field) : f.parts ≠ [] := by
  unfold Field.parts
  exact List.append_ne_nil_of_right_ne_nil _ (List.cons_ne_nil _ _)

theorem isWritten_first (c : Computed) : c.first.IsWritten := by
  cases c with
  | field f | compute f _ _ => exact field_parts_ne_nil f
  | int n hn => trivial

theorem isWritten_series (c : Computed) : c.series.IsWritten := by
  refine ⟨c.isWritten_first, ?_⟩
  change ∀ next ∈ c.rest, next.2.IsWritten
  induction c with
  | field f | int n hn => exact fun next hnext => absurd hnext List.not_mem_nil
  | compute f op c ih => exact List.forall_mem_cons.mpr ⟨c.isWritten_first, ih⟩

theorem series_tree (c : Computed) : c.tree.series = c.series := by
  induction c with
  | field f | int n hn => rfl
  | compute f op c ih =>
    rw [tree, Expr.series, ih]
    rfl

/-- What was computed needs no parentheses exactly if its operations ascend: an operation on a field
takes all that is behind it. -/
theorem isGrouped_tree_iff (c : Computed) : c.tree.IsGrouped ↔ c.Ascends := by
  induction c with
  | field f | int n hn => exact iff_of_true trivial List.IsChain.nil
  | compute f op c ih =>
    have hfield : level op ≤ (Expr.operand (.field f.parts)).level :=
      (Expr.level_lt_operand op _).le
    have hnext : level op < c.tree.level ↔ ∀ next ∈ c.rest.head?, level op < level next.1 := by
      cases c with
      | field g | int n hn =>
        exact iff_of_true (Expr.level_lt_operand op _) fun next hnext => by cases hnext
      | compute g op' c => simp [tree, rest, Expr.level]
    have hrest : (compute f op c).rest = (op, c.first) :: c.rest := rfl
    rw [tree, Expr.IsGrouped, ih, hnext, Ascends, Ascends, hrest, List.isChain_cons]
    constructor
    · intro h
      obtain ⟨-, hhead, -, htail⟩ := h
      exact ⟨hhead, htail⟩
    · intro h
      exact ⟨hfield, h.1, trivial, h.2⟩

theorem marks_int {n : Int} (hn : 0 ≤ n) :
    marks (toString n) = (Operand.number n.toNat).tokens := by
  cases n with
  | ofNat m =>
    have htext : toString (Int.ofNat m) = m.repr := rfl
    rw [htext, marks, Nat.toList_repr]
    rfl
  | negSucc m => exact absurd hn (by simp)

/-- The text starts with its first operand. -/
theorem exists_sql_eq (c : Computed) :
    ∃ s t, c.sql b.dialect.toLexicon = s ++ t ∧ Spells (b.rules true) s c.first.tokens := by
  cases c with
  | field f => exact ⟨_, "", (String.append_empty).symm, spells_field b true f⟩
  | int n hn =>
    refine ⟨_, "", (String.append_empty).symm, ?_⟩
    rw [first, ← marks_int hn]
    exact spells_int n.toInt
  | compute f op c =>
    refine ⟨f.render b.dialect.toLexicon, op.symbol ++ c.sql b.dialect.toLexicon, ?_,
      spells_field b true f⟩
    rw [sql, String.append_assoc]

theorem exists_head_sql (c : Computed) :
    ∃ t ∈ c.first.tokens.head?, (c.sql b.dialect.toLexicon).toList.head? =
      some (t.first (b.rules true)) := by
  obtain ⟨s, rest, hsql, hspells⟩ := c.exists_sql_eq b
  obtain ⟨t, ts, hts⟩ := Operand.exists_tokens_cons c.isWritten_first
  rw [hts] at hspells ⊢
  obtain ⟨tail, htail, -⟩ := write_eq_first_cons (hspells.fits.writes t List.mem_cons_self)
  refine ⟨t, rfl, ?_⟩
  rw [hsql, String.toList_append, hspells.text, Rules.write, List.flatMap_cons, htail]
  rfl

theorem scan_compute (f : Field) {op : Arith} {c : Computed}
    (h : (op == .div && c.first.isStarred) = false) :
    (b.rules true).scan ((compute f op c).sql b.dialect.toLexicon) =
      ((b.rules true).scan (c.sql b.dialect.toLexicon)).map (f.tokens ++ .mark op.sign :: ·) := by
  obtain ⟨t, ht, hhead⟩ := c.exists_head_sql b
  have hcontinued : ∀ d ∈ (c.sql b.dialect.toLexicon).toList.head?,
      (b.rules true).continued (.mark op.sign) d = none := by
    intro d hd
    rw [hhead] at hd
    obtain rfl := Option.some.inj hd
    exact continued_operand _ h ht
  unfold Rules.scan
  rw [sql, String.toList_append, (spells_sign (spellsName_field b f) op).tokensFrom_append]
  change ((b.rules true).tokensFrom (.mark op.sign) _).map _ = _
  rw [tokensFrom_mark hcontinued, Option.map_map]
  rfl

theorem exists_comment_compute (f : Field) {op : Arith} {c : Computed}
    (h : (op == .div && c.first.isStarred) = true) {ts : List Token}
    (hts : (b.rules true).scan ((compute f op c).sql b.dialect.toLexicon) = some ts) :
    ∃ s, .comment s ∈ ts := by
  rw [Bool.and_eq_true, beq_iff_eq] at h
  obtain ⟨rfl, hstar⟩ := h
  obtain ⟨t, ht, hhead⟩ := c.exists_head_sql b
  rw [Operand.head_of_isStarred hstar] at ht
  obtain rfl := Option.some.inj ht
  obtain ⟨tail, htail⟩ := List.head?_eq_some_iff.mp hhead
  unfold Rules.scan at hts
  rw [sql, String.toList_append, (spells_sign (spellsName_field b f) .div).tokensFrom_append,
    htail] at hts
  obtain ⟨us, hus, rfl⟩ := Option.map_eq_some_iff.mp hts
  have hblock : (b.rules true).continued (.mark '/') '*' = some (.block []) := by
    simp [Rules.continued, Builtin.rules]
  change (b.rules true).tokensFrom (.mark '/') ('*' :: tail) = some us at hus
  rw [Rules.tokensFrom, hblock] at hus
  obtain ⟨s, hs⟩ := exists_comment (m := .block []) rfl hus
  exact ⟨s, List.mem_append_right _ hs⟩

theorem opensComment_compute (f : Field) (op : Arith) (c : Computed) :
    (compute f op c).series.opensComment =
      ((op == .div && c.first.isStarred) || c.series.opensComment) :=
  rfl

theorem scan_sql {c : Computed} (h : c.series.opensComment = false) :
    (b.rules true).scan (c.sql b.dialect.toLexicon) = some c.series.tokens := by
  induction c with
  | field f =>
    rw [sql, (spells_field b true f).scan]
    exact congrArg some (List.append_nil _).symm
  | int n hn =>
    rw [sql, (spells_int n.toInt).scan, marks_int hn]
    exact congrArg some (List.append_nil _).symm
  | compute f op c ih =>
    rw [opensComment_compute, Bool.or_eq_false_iff] at h
    rw [scan_compute b f h.1, ih h.2]
    rfl

theorem exists_comment_sql {c : Computed} (h : c.series.opensComment = true) {ts : List Token}
    (hts : (b.rules true).scan (c.sql b.dialect.toLexicon) = some ts) :
    ∃ s, .comment s ∈ ts := by
  induction c generalizing ts with
  | field f | int n hn => cases h
  | compute f op c ih =>
    cases hstar : op == .div && c.first.isStarred with
    | true => exact exists_comment_compute b f hstar hts
    | false =>
      rw [opensComment_compute, hstar, Bool.false_or] at h
      rw [scan_compute b f hstar] at hts
      obtain ⟨us, hus, rfl⟩ := Option.map_eq_some_iff.mp hts
      obtain ⟨s, hs⟩ := ih h hus
      exact ⟨s, List.mem_append_right _ (List.mem_cons_of_mem _ hs)⟩

/-! ## Reading -/

theorem readArithmetic?_sql (c : Computed) :
    b.readArithmetic? (c.sql b.dialect.toLexicon) =
      if c.series.opensComment then none else some (group c.series) := by
  unfold Builtin.readArithmetic? arithmetic?
  cases h : c.series.opensComment with
  | true =>
    cases hscan : (b.rules true).scan (c.sql b.dialect.toLexicon) with
    | none => rfl
    | some ts =>
      obtain ⟨s, hs⟩ := exists_comment_sql b h hscan
      rw [Option.bind_some, series?_of_comment hs]
      rfl
  | false =>
    rw [scan_sql b h, Option.bind_some, series?_tokens c.isWritten_series]
    rfl

/-- The text of an assignment is read as the field and the arithmetic behind it. -/
theorem readAssignment?_eq (f : Field) (s : String) :
    b.readAssignment? (f.render b.dialect.toLexicon ++ "=" ++ s) =
      (b.readArithmetic? s).map (Prod.mk (.operand (.field f.parts))) := by
  have hcalm : (b.rules true).isCalm '=' = true := calm_of_comments (by decide)
  have htext : (f.render b.dialect.toLexicon ++ "=" ++ s).toList =
      (f.render b.dialect.toLexicon).toList ++ '=' :: s.toList := by simp
  have hname : Scans (b.rules true) (f.render b.dialect.toLexicon) f.tokens :=
    (spells_field b true f).scans
  have hscan : (b.rules true).scan (f.render b.dialect.toLexicon ++ "=" ++ s) =
      ((b.rules true).scan s).map (f.tokens ++ .mark '=' :: ·) := by
    unfold Rules.scan
    rw [htext, tokensFrom_append hcalm hname.scan hname.code,
      tokensFrom_mark fun d _ => continued_mark_of_calm hcalm (by decide) d, Option.map_map]
    rfl
  -- The equals sign is the first of its kind: no name has one as a token.
  have hno : ∀ t ∈ f.tokens, decide (t ≠ .mark '=') = true := by
    intro t ht
    rw [decide_eq_true_eq]
    rintro rfl
    rcases mark_of_mem_field_tokens ht with h | h <;> cases h
  have htarget : arithmetic? f.tokens = some (.operand (.field f.parts)) := by
    have hread := series?_tokens (field f).isWritten_series
    change series? (f.tokens ++ []) = _ at hread
    rw [List.append_nil] at hread
    rw [arithmetic?, hread]
    rfl
  unfold Builtin.readAssignment? Builtin.readArithmetic?
  rw [hscan]
  cases (b.rules true).scan s with
  | none => rfl
  | some ts =>
    rw [Option.map_some, Option.bind_some, Option.bind_some, assignment?,
      List.takeWhile_append_of_pos hno, List.dropWhile_append_of_pos hno]
    simp only [List.takeWhile_cons, List.dropWhile_cons, ne_eq, not_true_eq_false, decide_false,
      Bool.false_eq_true, if_false, List.append_nil, List.tail_cons, htarget]
    cases arithmetic? ts <;> rfl

/-! ## Building -/

theorem compute_eq (f : Field) (op : Arith) {c : Computed} {v : Value}
    (h : b.dialect.literal v = .ok (c.sql b.dialect.toLexicon)) :
    f.compute b.dialect.toRenderer op v = .ok ⟨(compute f op c).sql b.dialect.toLexicon⟩ := by
  rw [Field.compute, h]
  rfl

theorem exists_value (c : Computed) : ∃ v, c.value b.dialect.toRenderer = .ok v ∧
    b.dialect.literal v = .ok (c.sql b.dialect.toLexicon) := by
  induction c with
  | field f | int n hn =>
    refine ⟨_, rfl, ?_⟩
    rw [literal_eq]
    rfl
  | compute f op c ih =>
    obtain ⟨v, hv, hliteral⟩ := ih
    refine ⟨.raw ⟨(compute f op c).sql b.dialect.toLexicon⟩, ?_, ?_⟩
    · have hcompute := compute_eq b f op hliteral
      simp only [value, hv, hcompute, bind, Except.bind, pure, Except.pure]
    · rw [literal_eq]
      rfl

end

/-- How arithmetic on fields is read, to any depth and behind the key of an assignment: grouped by
precedence, if no slash and star open a comment. That is what was computed exactly if each
operation binds looser than the one behind it. -/
theorem read_compute (b : Builtin) (f : Field) (op : Arith) (c : Computed) :
    ∃ v sql, c.value b.dialect.toRenderer = .ok v ∧
      f.compute b.dialect.toRenderer op v = .ok ⟨sql⟩ ∧
      b.readArithmetic? sql =
        (if (compute f op c).series.opensComment then none
          else some (group (compute f op c).series)) ∧
      (b.readArithmetic? sql = some (compute f op c).tree ↔
        (compute f op c).Ascends ∧ (compute f op c).series.opensComment = false) ∧
      ∀ key, AssignmentTerm.ofKey key = .ok ⟨f, some op.symbol⟩ → ∃ set,
        Assignment.entry b.dialect (.name key, v) = .ok set ∧
        b.readAssignment? set =
          (b.readArithmetic? sql).map (Prod.mk (.operand (.field f.parts))) := by
  obtain ⟨v, hv, hliteral⟩ := c.exists_value b
  refine ⟨v, (compute f op c).sql b.dialect.toLexicon, hv, compute_eq b f op hliteral,
    readArithmetic?_sql b _, ?_, ?_⟩
  · have hgroup : group (compute f op c).series = (compute f op c).tree ↔
        (compute f op c).Ascends := by
      rw [group_eq_iff, isGrouped_tree_iff, and_iff_right (series_tree _)]
    rw [readArithmetic?_sql, ← hgroup]
    cases (compute f op c).series.opensComment with
    | true => simp
    | false => simp
  · intro key hkey
    refine ⟨f.render b.dialect.toLexicon ++ "=" ++ (compute f op c).sql b.dialect.toLexicon, ?_,
      readAssignment?_eq b f _⟩
    unfold Assignment.entry AssignmentTerm.render
    dsimp only
    rw [hkey]
    change b.dialect.assignment (some op.symbol) (f.render b.dialect.toLexicon) v = _
    rw [assignment_arithmetic, Renderer.combination, hliteral, sql, ← String.append_assoc,
      ← String.append_assoc]
    rfl

def successor : Computed :=
  compute ⟨none, none, "g"⟩ .add (int 1 (by decide))

/-- The product of `f` and the successor of `g` reads as the successor of a product. -/
theorem read_compute_successor :
    ∃ v sql set, successor.value Builtin.generic.dialect.toRenderer = .ok v ∧
      Field.compute ⟨none, none, "f"⟩ Builtin.generic.dialect.toRenderer .mul v = .ok ⟨sql⟩ ∧
      Assignment.entry Builtin.generic.dialect (.name "f[*]", v) = .ok set ∧
      (compute ⟨none, none, "f"⟩ .mul successor).tree =
        .binary .mul (.operand (.field ["f"]))
          (.binary .add (.operand (.field ["g"])) (.operand (.number 1))) ∧
      Builtin.generic.readArithmetic? sql =
        some (.binary .add
          (.binary .mul (.operand (.field ["f"])) (.operand (.field ["g"])))
          (.operand (.number 1))) ∧
      Builtin.generic.readAssignment? set =
        (Builtin.generic.readArithmetic? sql).map (Prod.mk (.operand (.field ["f"]))) := by
  obtain ⟨v, sql, hvalue, hcompute, hread, -, hset⟩ :=
    read_compute .generic ⟨none, none, "f"⟩ .mul successor
  obtain ⟨set, hentry, hassignment⟩ := hset "f[*]" rfl
  exact ⟨v, sql, set, hvalue, hcompute, hentry, rfl, hread, hassignment⟩

end Computed

end TerseSql
