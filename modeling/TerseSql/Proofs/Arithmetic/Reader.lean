import TerseSql.Proofs.Arithmetic.Grouping
import TerseSql.Proofs.Comment.Arithmetic

/-!
# Reading arithmetic

A reader takes the tokens of arithmetic one after another. Where an operand is missing a star is a
field, and behind an operand it is an operation. Operands with operations between them are read
back from their tokens.
-/

namespace TerseSql.Arithmetic

open Lexing

/-! ## Reading -/

/-- The operand at hand: nothing yet, digits, the parts of a field, or parts behind which another
one is missing. -/
inductive Cursor where
  | start
  | digits (ds : List Char)
  | named (parts : List String)
  | dotted (parts : List String)

namespace Cursor

def operand? : Cursor → Option Operand
  | digits ds => some (.number (Nat.ofDigitChars 10 ds 0))
  | named parts => some (.field parts)
  | _ => none

def name? (s : String) : Cursor → Option Cursor
  | start => some (named [s])
  | dotted parts => some (named (parts ++ [s]))
  | _ => none

def digit? (c : Char) : Cursor → Option Cursor
  | start => some (digits [c])
  | digits ds => some (digits (ds ++ [c]))
  | _ => none

def dot? : Cursor → Option Cursor
  | named parts => some (dotted parts)
  | _ => none

def mark? (c : Char) (cursor : Cursor) : Option Cursor :=
  if c = '*' then cursor.name? "*"
  else if c = '.' then cursor.dot?
  else if c.isDigit then cursor.digit? c
  else none

end Cursor

def ofSign? (c : Char) : Option Arith :=
  [Arith.add, .sub, .mul, .div, .mod].find? fun op => op.sign == c

/-- What has been read: the operands before the last operation, with that operation, and the operand
behind it. -/
structure State where
  before : Option (Series × Arith)
  cursor : Cursor

namespace State

def empty : State := ⟨none, .start⟩

def extend (s : State) (x : Operand) : Series :=
  match s.before with
  | none => ⟨x, []⟩
  | some (series, op) => ⟨series.first, series.rest ++ [(op, x)]⟩

def step (s : State) : Token → Option State
  | .name n => (s.cursor.name? n).map fun c => ⟨s.before, c⟩
  | .mark c =>
    match s.cursor.operand?, ofSign? c with
    | some x, some op => some ⟨some (s.extend x, op), .start⟩
    | _, _ => (s.cursor.mark? c).map fun c => ⟨s.before, c⟩
  | _ => none

def run (s : State) (ts : List Token) : Option State :=
  ts.foldlM step s

end State

def series? (ts : List Token) : Option Series := do
  let s ← State.empty.run ts
  return s.extend (← s.cursor.operand?)

def arithmetic? (ts : List Token) : Option Expr :=
  (series? ts).map group

def assignment? (ts : List Token) : Option (Expr × Expr) := do
  let target ← arithmetic? (ts.takeWhile (· ≠ .mark '='))
  return (target, ← arithmetic? (ts.dropWhile (· ≠ .mark '=')).tail)

/-! ## Tokens -/

def Operand.tokens : Operand → List Token
  | .field parts => List.intercalate [.mark '.'] (parts.map fun s => [nameToken s])
  | .number n => (Nat.toDigits 10 n).map .mark

namespace Series

def restTokens (rest : List (Arith × Operand)) : List Token :=
  rest.flatMap fun next => .mark next.1.sign :: next.2.tokens

def tokens (s : Series) : List Token :=
  s.first.tokens ++ restTokens s.rest

end Series

/-! ## Reading back -/

section

variable {before : Option (Series × Arith)}

theorem ofSign?_sign (op : Arith) : ofSign? op.sign = some op := by
  cases op <;> decide

theorem run_append {s t : State} {ts : List Token} (h : s.run ts = some t) (us : List Token) :
    s.run (ts ++ us) = t.run us := by
  unfold State.run at h ⊢
  rw [List.foldlM_append, h]
  rfl

theorem run_cons {s t : State} {u : Token} (h : s.step u = some t) (us : List Token) :
    s.run (u :: us) = t.run us := by
  unfold State.run
  rw [List.foldlM_cons, h]
  rfl

/-- A part of a field, which may be a star, where a part is missing. -/
theorem step_nameToken {c c' : Cursor} {s : String} (h : c.name? s = some c') :
    State.step ⟨before, c⟩ (nameToken s) = some ⟨before, c'⟩ := by
  have hoperand : c.operand? = none := by
    cases c with
    | start | dotted parts => rfl
    | digits ds | named parts => cases h
  unfold nameToken
  by_cases hs : s = "*"
  · subst hs
    simp [State.step, hoperand, Cursor.mark?, h]
  · simp [State.step, hs, h]

theorem run_parts {c : Cursor} (read : List String) {s : String} (rest : List String)
    (h : c.name? s = some (.named (read ++ [s]))) :
    State.run ⟨before, c⟩ (Operand.field (s :: rest)).tokens =
      some ⟨before, .named (read ++ s :: rest)⟩ := by
  rw [Operand.tokens]
  induction rest generalizing c read s with
  | nil => exact run_cons (step_nameToken h) []
  | cons t rest ih =>
    have hdot : State.step ⟨before, .named (read ++ [s])⟩ (.mark '.') =
        some ⟨before, .dotted (read ++ [s])⟩ := rfl
    rw [List.map_cons, List.map_cons, List.intercalate_cons_cons, List.append_assoc,
      List.singleton_append, run_cons (step_nameToken h), List.singleton_append, run_cons hdot]
    have hrest := ih (c := .dotted (read ++ [s])) (read ++ [s]) (s := t) rfl
    rw [List.append_assoc] at hrest
    exact hrest

theorem step_digit {c c' : Cursor} {d : Char} (hd : d.isDigit = true)
    (h : c.digit? d = some c') : State.step ⟨before, c⟩ (.mark d) = some ⟨before, c'⟩ := by
  have hsign : ofSign? d = none := by
    refine List.find?_eq_none.mpr fun op _ hop => ?_
    obtain rfl := beq_iff_eq.mp hop
    cases op <;> cases hd
  have hmark : c.mark? d = c.digit? d := by
    have hstar : d ≠ '*' := by
      rintro rfl
      cases hd
    have hdot : d ≠ '.' := by
      rintro rfl
      cases hd
    simp [Cursor.mark?, hstar, hdot, hd]
  have hstep : State.step ⟨before, c⟩ (.mark d) = (c.mark? d).map fun c => ⟨before, c⟩ := by
    rw [State.step, hsign]
    cases c.operand? <;> rfl
  rw [hstep, hmark, h]
  rfl

theorem run_digits {read ds : List Char} (h : ∀ d ∈ ds, d.isDigit = true) :
    State.run ⟨before, .digits read⟩ (ds.map .mark) = some ⟨before, .digits (read ++ ds)⟩ := by
  induction ds generalizing read with
  | nil =>
    rw [List.append_nil]
    rfl
  | cons d ds ih =>
    obtain ⟨hd, hds⟩ := List.forall_mem_cons.mp h
    rw [List.map_cons, run_cons (step_digit hd rfl), ih hds, List.append_assoc]
    rfl

def Operand.IsWritten : Operand → Prop
  | .field parts => parts ≠ []
  | .number _ => True

theorem run_operand (before : Option (Series × Arith)) {x : Operand} (hx : x.IsWritten) :
    ∃ c, State.run ⟨before, .start⟩ x.tokens = some ⟨before, c⟩ ∧ c.operand? = some x := by
  cases x with
  | field parts =>
    obtain ⟨s, rest, rfl⟩ := List.exists_cons_of_ne_nil hx
    exact ⟨_, run_parts [] rest rfl, rfl⟩
  | number n =>
    have hdigits : ∀ d ∈ Nat.toDigits 10 n, d.isDigit = true := fun d hd =>
      Nat.isDigit_of_mem_toDigits (by decide) (by decide) hd
    obtain ⟨d, ds, hds⟩ := List.exists_cons_of_ne_nil (Nat.toDigits_ne_nil (b := 10) (n := n))
    rw [hds] at hdigits
    obtain ⟨hd, hrest⟩ := List.forall_mem_cons.mp hdigits
    refine ⟨.digits (d :: ds), ?_, ?_⟩
    · rw [Operand.tokens, hds, List.map_cons, run_cons (step_digit hd rfl), run_digits hrest]
      rfl
    · rw [Cursor.operand?, ← hds, Nat.ofDigitChars_ten_toDigits]

theorem run_rest {s : State} {x : Operand} (hs : s.cursor.operand? = some x)
    {rest : List (Arith × Operand)} (h : ∀ next ∈ rest, next.2.IsWritten) :
    ∃ t, s.run (Series.restTokens rest) = some t ∧
      ∃ y, t.cursor.operand? = some y ∧
        t.extend y = ⟨(s.extend x).first, (s.extend x).rest ++ rest⟩ := by
  induction rest generalizing s x with
  | nil =>
    refine ⟨s, rfl, x, hs, ?_⟩
    rw [List.append_nil]
  | cons next rest ih =>
    obtain ⟨op, y⟩ := next
    obtain ⟨hy, hrest⟩ := List.forall_mem_cons.mp h
    have hstep : s.step (.mark op.sign) = some ⟨some (s.extend x, op), .start⟩ := by
      rw [State.step, hs, ofSign?_sign]
    obtain ⟨c, hc, hoperand⟩ := run_operand (some (s.extend x, op)) hy
    obtain ⟨t, ht, z, hz, hextend⟩ := ih (s := ⟨some (s.extend x, op), c⟩) hoperand hrest
    refine ⟨t, ?_, z, hz, ?_⟩
    · unfold Series.restTokens at ht ⊢
      rw [List.flatMap_cons, List.cons_append, run_cons hstep, run_append hc, ht]
    · rw [hextend]
      simp [State.extend]

end

def Series.IsWritten (s : Series) : Prop :=
  s.first.IsWritten ∧ ∀ next ∈ s.rest, next.2.IsWritten

theorem series?_tokens {s : Series} (h : s.IsWritten) : series? s.tokens = some s := by
  obtain ⟨c, hc, hoperand⟩ := run_operand none h.1
  obtain ⟨t, ht, y, hy, hextend⟩ := run_rest (s := ⟨none, c⟩) hoperand h.2
  unfold series? Series.tokens State.empty
  rw [run_append hc, ht, Option.bind_eq_bind, Option.bind_some, hy]
  exact congrArg some hextend

/-- Tokens with a comment are no arithmetic. -/
theorem series?_of_comment {ts : List Token} {c : String} (h : .comment c ∈ ts) :
    series? ts = none := by
  have hrun : ∀ s : State, s.run ts = none := by
    intro s
    induction ts generalizing s with
    | nil => cases h
    | cons t ts ih =>
      unfold State.run at ih ⊢
      rw [List.foldlM_cons]
      rcases List.mem_cons.mp h with rfl | h
      · rfl
      · cases s.step t with
        | none => rfl
        | some s' => exact ih h s'
  unfold series?
  rw [hrun]
  rfl

end TerseSql.Arithmetic
