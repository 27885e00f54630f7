import TerseSql.Clause.Window
import TerseSql.Proofs.Reading.Rule

/-!
# Fragments of windows

The counts that a window is asked for with are below 2 ^ 63, so the end of a window is the
exact sum of its offset and its count. A fragment is read as its keywords and these numbers.
-/

namespace TerseSql

open Lexing Reading

/-! ## Counts -/

namespace Window

def skipped (w : Window) : Nat :=
  (w.offset.map UInt64.toNat).getD 0

/-- The number of the last row of the window, where rows are counted from one. -/
def last (w : Window) : Nat :=
  w.skipped + w.count.toNat

/-- The numbers that a value asks for: of rows, and of rows before them. -/
def asked : Value → Option (Int × Int)
  | .int n | .list [.int n] => some (n.toInt, 0)
  | .list [.int n, .int m] => some (n.toInt, m.toInt)
  | _ => none

theorem fragment_top {w : Window} (h : w.offset = none) :
    w.fragment Builtin.mssql.dialect.toLexicon =
      ⟨"TOP " ++ Pagination.number w.count, .index 1⟩ := by
  show Builtin.mssql.dialect.paginate w.count w.offset = _
  rw [h]
  rfl

theorem fragment_offset {w : Window} {m : UInt64} (h : w.offset = some m) :
    w.fragment Builtin.mssql.dialect.toLexicon =
      ⟨Pagination.offsetFetch w.count m, .append⟩ := by
  show Builtin.mssql.dialect.paginate w.count w.offset = _
  rw [h]
  rfl

theorem int_of_countOf {v : Value} {n : UInt64} (h : countOf v = .ok n) :
    ∃ i : Int64, v = .int i ∧ (n.toNat : Int) = i.toInt := by
  cases v with
  | int i =>
    rw [countOf] at h
    by_cases hi : i < 0
    · rw [if_pos hi] at h
      cases h
    · rw [if_neg hi] at h
      cases h
      have hnonneg : 0 ≤ i := Int64.not_lt.mp hi
      refine ⟨i, rfl, ?_⟩
      rw [Int64.toNat_toUInt64_of_le hnonneg]
      exact Int.toNat_of_nonneg (Int64.le_iff_toInt_le.mp hnonneg)
  | _ => cases h

theorem skipped_make (count : UInt64) (offset : Option UInt64) :
    (make count offset).skipped = (offset.map UInt64.toNat).getD 0 := by
  cases offset with
  | none => rfl
  | some m => by_cases hm : m = 0 <;> simp [make, skipped, Option.filter, hm]

theorem ofValue_cases {v : Value} {w : Window} (h : ofValue v = .ok w) :
    (∃ i n, (v = .int i ∨ v = .list [.int i]) ∧ (n.toNat : Int) = i.toInt ∧ w = make n none) ∨
    ∃ i j n m, v = .list [.int i, .int j] ∧ (n.toNat : Int) = i.toInt ∧
      (m.toNat : Int) = j.toInt ∧ w = make n (some m) := by
  have hmake : ∀ {c : Value}, (do return make (← countOf c) none) = Except.ok w →
      ∃ i n, c = .int i ∧ (n.toNat : Int) = i.toInt ∧ w = make n none := by
    intro c hc
    obtain ⟨n, hn, hc⟩ := Built.exists_of_bind hc
    cases hc
    obtain ⟨i, hi, hint⟩ := int_of_countOf hn
    exact ⟨i, n, hi, hint, rfl⟩
  unfold ofValue at h
  split at h
  · obtain ⟨i, n, hi, hint, hw⟩ := hmake h
    exact Or.inl ⟨i, n, Or.inl hi, hint, hw⟩
  · obtain ⟨i, n, rfl, hint, hw⟩ := hmake h
    exact Or.inl ⟨i, n, Or.inr rfl, hint, hw⟩
  · next count offset =>
    obtain ⟨n, hn, h⟩ := Built.exists_of_bind h
    obtain ⟨m, hm, h⟩ := Built.exists_of_bind h
    cases h
    obtain ⟨i, rfl, hi⟩ := int_of_countOf hn
    obtain ⟨j, rfl, hj⟩ := int_of_countOf hm
    exact Or.inr ⟨i, j, n, m, rfl, hi, hj, rfl⟩
  · cases h
  · cases h

theorem asked_of_ofValue {v : Value} {w : Window} (h : ofValue v = .ok w) :
    asked v = some ((w.count.toNat : Int), (w.skipped : Int)) := by
  rcases ofValue_cases h with ⟨i, n, hv, hn, rfl⟩ | ⟨i, j, n, m, rfl, hn, hm, rfl⟩
  · rw [skipped_make, make, hn]
    rcases hv with rfl | rfl <;> rfl
  · rw [skipped_make, make, hn, Option.map_some, Option.getD_some, hm]
    rfl

/-- Both numbers of a window that can be asked for are below 2 ^ 63. -/
theorem last_lt_size {v : Value} {w : Window} (h : ofValue v = .ok w) : w.last < UInt64.size := by
  unfold last
  rcases ofValue_cases h with ⟨i, n, -, hn, rfl⟩ | ⟨i, j, n, m, -, hn, hm, rfl⟩
  · have hi := i.toInt_lt
    rw [skipped_make]
    show 0 + n.toNat < 18446744073709551616
    omega
  · have hi := i.toInt_lt
    have hj := j.toInt_lt
    rw [skipped_make]
    show m.toNat + n.toNat < 18446744073709551616
    omega

end Window

namespace Pagination

theorem toNat_saturatingAdd {a b : UInt64} (h : a.toNat + b.toNat < UInt64.size) :
    (saturatingAdd a b).toNat = a.toNat + b.toNat := by
  rw [saturatingAdd, if_pos h, UInt64.toNat_add]
  exact Nat.mod_eq_of_lt h

end Pagination

theorem Window.toNat_end {v : Value} {w : Window} {m : UInt64} (h : ofValue v = .ok w)
    (hm : w.offset = some m) : (Pagination.saturatingAdd m w.count).toNat = w.last := by
  have hstart : w.skipped = m.toNat := by rw [skipped, hm]; rfl
  have hfits := last_lt_size h
  rw [last, hstart] at hfits ⊢
  exact Pagination.toNat_saturatingAdd hfits

/-! ## Lexemes -/

namespace Reading

variable {r : Rules}

def IsWord (s : String) : Prop :=
  s.toList ≠ [] ∧ s.toList.all isLexical = true

instance (s : String) : Decidable (IsWord s) :=
  inferInstanceAs (Decidable (s.toList ≠ [] ∧ s.toList.all isLexical = true))

theorem IsWord.words {s : String} (h : IsWord s) : words (marks s) = [.word s] :=
  words_lexical h.1 (List.all_eq_true.mp h.2)

theorem IsWord.lexed {s : String} (h : IsWord s) : Lexed r s [.word s] :=
  ⟨marks s, spells_lexical h.2, h.words⟩

theorem toList_number (n : UInt64) : (Pagination.number n).toList = Nat.toDigits 10 n.toNat :=
  Nat.toList_repr

theorem digit_of_mem_number {n : UInt64} {c : Char} (h : c ∈ (Pagination.number n).toList) :
    c.isDigit = true := by
  rw [toList_number] at h
  exact Nat.isDigit_of_mem_toDigits (by decide) (by decide) h

theorem isWord_number (n : UInt64) : IsWord (Pagination.number n) := by
  constructor
  · rw [toList_number]
    exact Nat.toDigits_ne_nil
  · rw [List.all_eq_true]
    exact fun _ hc => lexical_of_digit (digit_of_mem_number hc)

theorem inert_number (n : UInt64) : (Lexeme.word (Pagination.number n)).isInert = true := by
  have hnumeral : ∀ c ∈ (Pagination.number n).toList, isNumeral c = true := by
    intro c hc
    simp [isNumeral, digit_of_mem_number hc]
  apply inert_of_numeral hnumeral
  rw [(isWord_number n).words]
  exact List.mem_singleton.mpr rfl

theorem lexed_words (b : Builtin) {ws : List String}
    (h : ∀ w ∈ ws, IsWord w) :
    Lexed (b.rules false) (Text.join " " ws) (ws.map .word) := by
  have hspace : (b.rules false).isSeparator " " = true := isSeparator_of_steady (by decide)
  have hall : List.Forall₂ (Lexed (b.rules false)) ws (ws.map fun w => [.word w]) := by
    rw [List.forall₂_map_right_iff, List.forall₂_same]
    exact fun w hw => (h w hw).lexed
  have htext := Lexed.join hspace (by decide) hall
  have hblank : words (marks " ") = [] := by decide
  have hflat : ∀ ws : List String,
      List.intercalate [] (ws.map fun w => [Lexeme.word w]) = ws.map .word := by
    intro ws
    induction ws with
    | nil => rfl
    | cons w ws ih =>
      cases ws with
      | nil => rfl
      | cons u ws => simpa using ih
  rwa [hblank, hflat] at htext

/-! ## Bounds of row numbers -/

def bound (op : Char) (n : Nat) : List Lexeme :=
  [.word "ROWNUM", .sign op, .sign '=', .word (toString n)]

theorem isPlainAtom_bound {op : Char} (h : op = '<' ∨ op = '>') (n : UInt64) :
    IsPlainAtom (bound op n.toNat) := by
  refine ⟨.word "ROWNUM", [.sign op, .sign '=', .word (Pagination.number n)], rfl, by decide, ?_⟩
  intro l hl
  have hcases : l = .sign op ∨ l = .sign '=' ∨ l = .word (Pagination.number n) := by simpa using hl
  rcases hcases with rfl | rfl | rfl
  · rcases h with rfl | rfl <;> decide
  · decide
  · exact inert_number n

theorem lexed_bound {op : Char} {sign : String}
    (hsign : words (marks sign) = [.sign op, .sign '=']) (hsep : r.isSeparator sign = true)
    (hgap : isGap sign = true) (n : UInt64) :
    Lexed r ("ROWNUM" ++ sign ++ Pagination.number n) (bound op n.toNat) := by
  have hword : IsWord "ROWNUM" := by decide
  have htext := hword.lexed.joint hsep hgap (isWord_number n).lexed
  rwa [hsign] at htext

end Reading

namespace Window

variable {v : Value} {w : Window}

def bounds (w : Window) : List (List Lexeme) :=
  (w.offset.map fun m => bound '>' m.toNat).toList ++ [bound '<' w.last]

def formula (w : Window) : Formula :=
  .all (w.bounds.map .atom)

def boundTexts (w : Window) : List String :=
  (w.offset.map fun m => "ROWNUM" ++ " >= " ++ Pagination.number m).toList ++
    ["ROWNUM" ++ " <= " ++ Pagination.number
      (match w.offset with
      | some m => Pagination.saturatingAdd m w.count
      | none => w.count)]

theorem rowNumbers_eq (w : Window) : Pagination.rowNumbers w.count w.offset =
    Text.join Connective.and.separator w.boundTexts := by
  apply String.toList_injective
  unfold boundTexts
  cases w.offset with
  | none => simp [Pagination.rowNumbers, Text.join]
  | some m => simp [Pagination.rowNumbers, Text.join, Connective.separator]

/-- Each bound is an atom of its own, and the end is the exact sum. -/
theorem lexed_boundTexts (b : Builtin) (comments : Bool) (h : ofValue v = .ok w) :
    List.Forall₂ (fun s ls => IsPlainAtom ls ∧ Lexed (b.rules comments) s ls) w.boundTexts
      w.bounds := by
  have hlow : ∀ n, Lexed (b.rules comments) ("ROWNUM" ++ " >= " ++ Pagination.number n)
      (bound '>' n.toNat) :=
    lexed_bound (by decide) (isSeparator_of_steady (by decide)) (by decide)
  have hhigh : ∀ n, Lexed (b.rules comments) ("ROWNUM" ++ " <= " ++ Pagination.number n)
      (bound '<' n.toNat) :=
    lexed_bound (by decide) (isSeparator_of_steady (by decide)) (by decide)
  unfold boundTexts bounds
  cases hm : w.offset with
  | none =>
    have hlast : w.count.toNat = w.last := by simp [last, skipped, hm]
    rw [← hlast]
    exact .cons ⟨isPlainAtom_bound (Or.inl rfl) _, hhigh w.count⟩ .nil
  | some m =>
    rw [← toNat_end h hm]
    exact .cons ⟨isPlainAtom_bound (Or.inr rfl) _, hlow m⟩
      (.cons ⟨isPlainAtom_bound (Or.inl rfl) _, hhigh _⟩ .nil)

theorem isPlainAtom_bounds (h : ofValue v = .ok w) : ∀ ls ∈ w.bounds, IsPlainAtom ls :=
  (List.forall₂_and_left _ _).mp (lexed_boundTexts .oracle false h).flip |>.1

theorem units_boundTexts (b : Builtin) (h : ofValue v = .ok w) :
    List.Forall₂ (ReadsBy IsUnit b) w.boundTexts (w.bounds.map .atom) := by
  rw [List.forall₂_map_right_iff]
  refine (lexed_boundTexts b false h).imp fun s ls hs => ?_
  exact ⟨ls, .atom ls, hs.2, hs.1.isAtom.isOperand.isUnit, fun _ => rfl⟩

theorem boundTexts_ne_nil (w : Window) : w.boundTexts ≠ [] := by
  simp [boundTexts]

theorem lexed_rowNumbers (b : Builtin) (comments : Bool) (h : ofValue v = .ok w) :
    Lexed (b.rules comments) (Pagination.rowNumbers w.count w.offset)
      (List.intercalate [.word "AND"] w.bounds) := by
  have hsep : (b.rules comments).isSeparator Connective.and.separator = true :=
    isSeparator_of_steady (by decide)
  rw [rowNumbers_eq]
  exact Lexed.join hsep (by decide) ((lexed_boundTexts b comments h).imp fun _ _ hs => hs.2)

theorem readsBy_rowNumbers (b : Builtin) (h : ofValue v = .ok w) :
    ReadsBy IsSentence b (Pagination.rowNumbers w.count w.offset) w.formula := by
  rw [rowNumbers_eq]
  exact readsBy_join .and (units_boundTexts b h) w.boundTexts_ne_nil

end Window

end TerseSql
