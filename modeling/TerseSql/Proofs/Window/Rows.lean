import TerseSql.Proofs.Reading.Tree
import TerseSql.Proofs.Window.Fragment

/-!
# Rows of windows

Which rows of a statement, counted from one, a fragment admits. A clause passes over some rows
and takes some; a predicate compares the number of a row. The clauses admit the rows of the
window, and a range of row numbers also admits the last of the rows before it.
-/

namespace TerseSql

open Lexing Reading

/-! ## Reading fragments -/

namespace Reading

def Lexeme.number? : Lexeme → Option Nat
  | .word w => if w.toList.all Char.isDigit then some (Nat.ofDigitChars 10 w.toList 0) else none
  | _ => none

/-- How many rows a clause passes over, and how many it takes. -/
def clause? : List Lexeme → Option (Nat × Nat)
  | [.word "TOP", n] => do return (0, ← n.number?)
  | [.word "LIMIT", n] => do return (0, ← n.number?)
  | [.word "LIMIT", n, .word "OFFSET", m] => do return (← m.number?, ← n.number?)
  | [.word "OFFSET", m, .word "ROWS", .word "FETCH", .word "NEXT", n, .word "ROWS",
      .word "ONLY"] => do return (← m.number?, ← n.number?)
  | _ => none

def compare (row : Nat) : List Lexeme → Truth
  | [.word "ROWNUM", .sign '<', .sign '=', n] => bounded n (row ≤ ·)
  | [.word "ROWNUM", .sign '>', .sign '=', n] => bounded n (· ≤ row)
  | [.word "ROWNUM", .sign '<', n] => bounded n (row < ·)
  | [.word "ROWNUM", .sign '>', n] => bounded n (· < row)
  | _ => .unknown
where
  bounded (n : Lexeme) (p : Nat → Bool) : Truth :=
    match n.number? with
    | some n => if p n then .yes else .no
    | none => .unknown

end Reading

/-- Whether a fragment admits the row of a number. In WHERE it is a predicate, and elsewhere a
clause. -/
def Builtin.admits (b : Builtin) (p : Pagination) (row : Nat) : Bool :=
  match p.placement with
  | .inWhere => (b.read p.sql).any fun φ => φ.eval (compare row) == .yes
  | _ =>
    (((b.rules false).scan p.sql).bind (clause? <| words ·)).any fun (skip, take) =>
      skip < row && row ≤ skip + take

/-! ## Fragments as rows -/

namespace Reading

variable {b : Builtin} {p : Pagination} {row : Nat}

@[simp]
theorem number?_repr (n : Nat) : (Lexeme.word n.repr).number? = some n := by
  have hall : n.repr.toList.all Char.isDigit = true := by
    rw [Nat.toList_repr, List.all_eq_true]
    exact fun _ hc => Nat.isDigit_of_mem_toDigits (by decide) (by decide) hc
  rw [Lexeme.number?, if_pos hall, Nat.toList_repr, Nat.ofDigitChars_ten_toDigits]

@[simp]
theorem number?_number (n : UInt64) :
    (Lexeme.word (Pagination.number n)).number? = some n.toNat :=
  number?_repr n.toNat

theorem compare_bound (row n : Nat) :
    (compare row (bound '<' n) = .yes ↔ row ≤ n) ∧ (compare row (bound '>' n) = .yes ↔ n ≤ row) := by
  simp [compare, compare.bounded, bound]

theorem admits_clause (ws : List String) (hplacement : p.placement ≠ .inWhere)
    (htext : p.sql = Text.join " " ws) (hws : ∀ w ∈ ws, IsWord w) {skip take : Nat}
    (hclause : clause? (ws.map .word) = some (skip, take)) :
    b.admits p row = true ↔ skip < row ∧ row ≤ skip + take := by
  obtain ⟨ts, hts, hwords⟩ := lexed_words b hws
  rw [← htext] at hts
  unfold Builtin.admits
  split
  · next hwhere => exact absurd hwhere hplacement
  · simp [hts.scan, hwords, hclause]

theorem admits_predicate (hplacement : p.placement = .inWhere) {φ : Formula}
    (h : ReadsBy IsSentence b p.sql φ) :
    b.admits p row = true ↔ φ.eval (compare row) = .yes := by
  obtain ⟨ψ, hread, heval⟩ := read_of_readsBy h
  unfold Builtin.admits
  rw [hplacement, hread]
  simp [heval]

end Reading

/-! ## Windows as rows -/

namespace Window

variable {v : Value} {w : Window} {row : Nat}

theorem admits_limitOffset (b : Builtin) (w : Window) :
    b.admits ⟨Pagination.limitOffset w.count w.offset, .append⟩ row = true ↔
      w.skipped < row ∧ row ≤ w.last := by
  unfold skipped last skipped
  cases w.offset with
  | none =>
    apply admits_clause ["LIMIT", Pagination.number w.count] (by simp)
    · apply String.toList_injective
      simp [Pagination.limitOffset, Text.join]
    · simp only [List.forall_mem_cons]
      exact ⟨by decide, isWord_number _, by simp⟩
    · simp [clause?]
  | some m =>
    apply admits_clause
      ["LIMIT", Pagination.number w.count, "OFFSET", Pagination.number m] (by simp)
    · apply String.toList_injective
      simp [Pagination.limitOffset, Text.join]
    · simp only [List.forall_mem_cons]
      exact ⟨by decide, isWord_number _, by decide, isWord_number _, by simp⟩
    · simp [clause?]

theorem admits_offsetFetch (b : Builtin) {m : UInt64} (hm : w.offset = some m) :
    b.admits ⟨Pagination.offsetFetch w.count m, .append⟩ row = true ↔
      w.skipped < row ∧ row ≤ w.last := by
  unfold skipped last skipped
  rw [hm]
  apply admits_clause ["OFFSET", Pagination.number m, "ROWS", "FETCH", "NEXT",
    Pagination.number w.count, "ROWS", "ONLY"] (by simp)
  · apply String.toList_injective
    simp [Pagination.offsetFetch, Text.join]
  · simp only [List.forall_mem_cons]
    exact ⟨by decide, isWord_number _, by decide, by decide, by decide, isWord_number _,
      by decide, by decide, by simp⟩
  · simp [clause?]

theorem admits_top (b : Builtin) (hnone : w.offset = none) :
    b.admits ⟨"TOP " ++ Pagination.number w.count, .index 1⟩ row = true ↔
      w.skipped < row ∧ row ≤ w.last := by
  unfold skipped last skipped
  rw [hnone]
  apply admits_clause ["TOP", Pagination.number w.count] (by simp)
  · apply String.toList_injective
    simp [Text.join]
  · simp only [List.forall_mem_cons]
    exact ⟨by decide, isWord_number _, by simp⟩
  · simp [clause?]

theorem admits_of_ne_oracle {b : Builtin} (hb : b ≠ .oracle) (w : Window) :
    b.admits (w.fragment b.dialect.toLexicon) row = true ↔ w.skipped < row ∧ row ≤ w.last := by
  cases b with
  | oracle => exact absurd rfl hb
  | mssql =>
    cases hm : w.offset with
    | none =>
      rw [fragment_top hm]
      exact admits_top .mssql hm
    | some m =>
      rw [fragment_offset hm]
      exact admits_offsetFetch .mssql hm
  | generic => exact admits_limitOffset .generic w
  | sqlite => exact admits_limitOffset .sqlite w
  | mysql => exact admits_limitOffset .mysql w
  | postgres => exact admits_limitOffset .postgres w

/-- A range of row numbers admits both of its ends. -/
theorem admits_oracle (h : ofValue v = .ok w) :
    Builtin.oracle.admits (w.fragment Builtin.oracle.dialect.toLexicon) row = true ↔
      w.skipped ≤ row ∧ row ≤ w.last := by
  have hread := readsBy_rowNumbers .oracle h
  rw [admits_predicate rfl hread, formula, bounds, skipped]
  obtain ⟨hhigh, -⟩ := compare_bound row w.last
  rw [Formula.eval, Truth.all_eq_yes]
  cases w.offset with
  | none => simp [Formula.eval, Formula.evalAll, hhigh]
  | some m =>
    obtain ⟨-, hlow⟩ := compare_bound row m.toNat
    simp [Formula.eval, Formula.evalAll, hhigh, hlow]

theorem skipped_pos {m : UInt64} (hm : w.offset = some m) : 0 < w.skipped := by
  have hzero : m ≠ 0 := by
    rintro rfl
    exact w.offset_ne_zero hm
  rw [skipped, hm]
  show 0 < m.toNat
  exact Nat.pos_of_ne_zero fun h => hzero (UInt64.toNat_inj.mp h)

/-- A window is the same rows in every dialect but Oracle's, which admits one row more if there
is an offset: the last row before the window. So all of them agree exactly if there is none. -/
theorem admits_fragment (h : ofValue v = .ok w) :
    asked v = some ((w.count.toNat : Int), (w.skipped : Int)) ∧
    (∀ b ≠ Builtin.oracle, ∀ row, b.admits (w.fragment b.dialect.toLexicon) row = true ↔
      w.skipped < row ∧ row ≤ w.skipped + w.count.toNat) ∧
    (∀ row, Builtin.oracle.admits (w.fragment Builtin.oracle.dialect.toLexicon) row = true ↔
      w.skipped ≤ row ∧ row ≤ w.skipped + w.count.toNat) ∧
    ((∀ b b' : Builtin, ∀ row > 0, b.admits (w.fragment b.dialect.toLexicon) row =
      b'.admits (w.fragment b'.dialect.toLexicon) row) ↔ w.offset = none) := by
  refine ⟨asked_of_ofValue h, fun b hb _ => admits_of_ne_oracle hb w, fun _ => admits_oracle h, ?_⟩
  constructor
  · intro hsame
    cases hm : w.offset with
    | none => rfl
    | some m =>
      -- Only a range admits the last row before the window.
      have hlast := hsame .generic .oracle w.skipped (skipped_pos hm)
      rw [Bool.eq_iff_iff, admits_of_ne_oracle (by decide), admits_oracle h, last] at hlast
      omega
  · intro hnone b b' row hrow
    have hzero : w.skipped = 0 := by rw [skipped, hnone]; rfl
    have hrows : ∀ b : Builtin, b.admits (w.fragment b.dialect.toLexicon) row = true ↔
        row ≤ w.last := by
      intro b
      by_cases hb : b = .oracle
      · rw [hb, admits_oracle h, hzero]
        simp
      · rw [admits_of_ne_oracle hb, hzero]
        simp [hrow]
    rw [Bool.eq_iff_iff, hrows, hrows]

/-- One row after two: the second row is admitted too where rows have numbers. -/
theorem admits_fragment_one_after_two :
    ofValue (.list [.int 1, .int 2]) = .ok (make 1 (some 2)) ∧
      Builtin.generic.admits ((make 1 (some 2)).fragment Builtin.generic.dialect.toLexicon) 2 =
        false ∧
      Builtin.oracle.admits ((make 1 (some 2)).fragment Builtin.oracle.dialect.toLexicon) 2 =
        true ∧
      ¬∀ b b' : Builtin, ∀ row > 0,
        b.admits ((make 1 (some 2)).fragment b.dialect.toLexicon) row =
          b'.admits ((make 1 (some 2)).fragment b'.dialect.toLexicon) row := by
  have hvalue : ofValue (.list [.int 1, .int 2]) = .ok (make 1 (some 2)) := rfl
  obtain ⟨-, hclauses, hrange, hall⟩ := admits_fragment hvalue
  refine ⟨hvalue, ?_, (hrange 2).mpr (by decide), fun hsame => nomatch hall.mp hsame⟩
  rw [Bool.eq_false_iff]
  intro hadmits
  exact absurd ((hclauses .generic (by decide) 2).mp hadmits) (by decide)

end Window

end TerseSql
