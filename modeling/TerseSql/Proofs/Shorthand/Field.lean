import TerseSql.Proofs.Name.Blank
import TerseSql.Term.Build

/-!
# Fields in shorthand

A field is spelled as one to three words with points between them, and a function as a word,
perhaps behind a point that asks for distinct values. Readers take such a path as it is, and
it is built into the field whose parts are its words.
-/

namespace TerseSql.Shorthand

structure Gap where
  chars : List Char
  isBlank : IsBlank chars

structure Word where
  chars : List Char
  ne_nil : chars ≠ []
  isWord : ∀ c ∈ chars, Text.isWord c = true

def Word.text (w : Word) : String := String.ofList w.chars

inductive Path where
  | name (name : Word)
  | inTable (table name : Word)
  | inSchema (schema table name : Word)

namespace Path

def words : Path → List Word
  | name n => [n]
  | inTable t n => [t, n]
  | inSchema s t n => [s, t, n]

def chars (p : Path) : List Char :=
  Text.joinChars '.' (p.words.map Word.chars)

def field : Path → Field
  | name n => ⟨none, none, n.text⟩
  | inTable t n => ⟨none, some t.text, n.text⟩
  | inSchema s t n => ⟨some s.text, some t.text, n.text⟩

end Path

structure Func where
  distinct : Bool
  name : Word

def Func.chars (f : Func) : List Char :=
  (if f.distinct then ['.'] else []) ++ f.name.chars

def expr (p : Path) (f : Option Func) : FieldExpr where
  field := p.field
  func := f.map fun f => f.name.text
  distinct := f.any fun f => f.distinct
  aliasName := none

/-! ## Characters -/

theorem mem_joinChars {sep c : Char} {parts : List (List Char)}
    (h : c ∈ Text.joinChars sep parts) : c = sep ∨ ∃ part ∈ parts, c ∈ part := by
  induction parts with
  | nil => cases h
  | cons part parts ih =>
    cases parts with
    | nil => exact .inr ⟨part, List.mem_cons_self, h⟩
    | cons next rest =>
      rw [Text.joinChars, List.mem_append, List.mem_cons] at h
      rcases h with h | h | h
      · exact .inr ⟨part, List.mem_cons_self, h⟩
      · exact .inl h
      · rcases ih h with h | ⟨part, hpart, h⟩
        · exact .inl h
        · exact .inr ⟨part, List.mem_cons_of_mem _ hpart, h⟩

theorem Word.no_point (w : Word) : '.' ∉ w.chars := by
  intro hpoint
  have hword := w.isWord '.' hpoint
  revert hword
  decide

theorem Word.exists_cons (w : Word) : ∃ c cs, w.chars = c :: cs ∧ c ≠ '.' := by
  cases hw : w.chars with
  | nil => exact absurd hw w.ne_nil
  | cons c cs =>
    refine ⟨c, cs, rfl, ?_⟩
    rintro rfl
    exact w.no_point (hw ▸ List.mem_cons_self)

theorem Word.dotted (w : Word) : ∀ c ∈ w.chars, Grammar.isSortFunction c = true := by
  intro c hc
  simp [Grammar.isSortFunction, w.isWord c hc]

theorem Path.dotted (p : Path) : ∀ c ∈ p.chars, Grammar.isSortFunction c = true := by
  intro c hc
  rcases mem_joinChars hc with rfl | ⟨part, hpart, hc⟩
  · decide
  · obtain ⟨w, -, rfl⟩ := List.mem_map.mp hpart
    exact w.dotted c hc

theorem Func.dotted (f : Func) : ∀ c ∈ f.chars, Grammar.isSortFunction c = true := by
  intro c hc
  rcases List.mem_append.mp hc with hc | hc
  · cases hdistinct : f.distinct with
    | false => simp [hdistinct] at hc
    | true =>
      have hpoint : c = '.' := by simpa [hdistinct] using hc
      rw [hpoint]
      decide
  · exact f.name.dotted c hc

theorem not_blank_of_dotted {cs : List Char} (h : ∀ c ∈ cs, Grammar.isSortFunction c = true) :
    ∀ c ∈ cs, Text.isBlank c = false := by
  intro c hc
  apply blank_of_pathText
  have hdotted := h c hc
  unfold Grammar.isSortFunction at hdotted
  simp [isPathText, hdotted]

theorem Path.trim_chars (p : Path) :
    Text.trim (String.ofList p.chars) = String.ofList p.chars := by
  apply Text.trim_of_not_blank
  rw [String.toList_ofList]
  exact not_blank_of_dotted p.dotted

theorem Path.chars_ne_nil (p : Path) : p.chars ≠ [] := by
  cases p with
  | name n => exact n.ne_nil
  | inTable t n => simp [chars, words, Text.joinChars]
  | inSchema s t n => simp [chars, words, Text.joinChars]

theorem Func.chars_ne_nil (f : Func) : f.chars ≠ [] := by
  simp [chars, f.name.ne_nil]

/-! ## Reading -/

theorem path_word {n : Nat} {word rest : List Char} (hword : word ≠ [])
    (hchars : ∀ c ∈ word, Text.isWord c = true) (hrest : ∀ c ∈ rest.head?, isPathText c = false) :
    Grammar.path n (word ++ rest) = some (word, rest) := by
  have hstop : ∀ c ∈ rest.head?, Text.isWord c = false := by
    intro c hc
    have hnot := hrest c hc
    simp [isPathText] at hnot
    exact hnot.1.1
  unfold Grammar.path
  rw [takeWhile_span hchars hstop, dropWhile_span hchars hstop]
  cases word with
  | nil => exact absurd rfl hword
  | cons c word =>
    cases rest with
    | nil => rfl
    | cons d rest =>
      have hpoint : d ≠ '.' := by
        rintro rfl
        have hnot := hrest '.' rfl
        revert hnot
        decide
      simp [hpoint]

theorem path_point (n : Nat) (word : Word) (rest : List Char) :
    Grammar.path (n + 1) (word.chars ++ '.' :: rest) =
      (Grammar.path n rest).map fun (tail, left) => (word.chars ++ '.' :: tail, left) := by
  have hstop : ∀ c ∈ ('.' :: rest).head?, Text.isWord c = false := by
    intro c hc
    cases hc
    decide
  conv_lhs => unfold Grammar.path
  rw [takeWhile_span word.isWord hstop, dropWhile_span word.isWord hstop]
  obtain ⟨c, cs, hword, -⟩ := word.exists_cons
  rw [hword]
  rfl

/-- Words are taken one after another up to a character that belongs to no path. -/
theorem path_words {n : Nat} {w : Word} {ws : List Word} (hlength : ws.length ≤ n)
    {rest : List Char} (hrest : ∀ c ∈ rest.head?, isPathText c = false) :
    Grammar.path n (Text.joinChars '.' ((w :: ws).map Word.chars) ++ rest) =
      some (Text.joinChars '.' ((w :: ws).map Word.chars), rest) := by
  induction ws generalizing n w with
  | nil => exact path_word w.ne_nil w.isWord hrest
  | cons v ws ih =>
    cases n with
    | zero => cases hlength
    | succ n =>
      have hjoin : Text.joinChars '.' ((w :: v :: ws).map Word.chars) =
          w.chars ++ '.' :: Text.joinChars '.' ((v :: ws).map Word.chars) := rfl
      rw [hjoin, List.append_assoc, List.cons_append, path_point,
        ih (Nat.le_of_succ_le_succ hlength)]
      rfl

theorem path_chars (p : Path) {rest : List Char} (hrest : ∀ c ∈ rest.head?, isPathText c = false) :
    Grammar.path 2 (p.chars ++ rest) = some (p.chars, rest) := by
  cases p with
  | name n => exact path_words (w := n) (Nat.zero_le 2) hrest
  | inTable t n => exact path_words (w := t) (Nat.le_succ 1) hrest
  | inSchema s t n => exact path_words (w := s) (Nat.le_refl 2) hrest

/-! ## Building -/

theorem ofPath_chars (p : Path) : Field.ofPath (String.ofList p.chars) = .ok p.field := by
  have hsplit : Text.split '.' (String.ofList p.chars) = p.words.map Word.text := by
    have hne : p.words.map Word.chars ≠ [] := by cases p <;> simp [Path.words]
    have hpoint : ∀ part ∈ p.words.map Word.chars, '.' ∉ part := by
      intro part hpart
      obtain ⟨w, -, rfl⟩ := List.mem_map.mp hpart
      exact w.no_point
    unfold Text.split
    rw [String.toList_ofList, Path.chars, Text.splitChars_joinChars hne hpoint, List.map_map]
    rfl
  unfold Field.ofPath Field.make
  rw [hsplit]
  cases p <;> rfl

theorem readFunction_chars (f : Func) (before after : Gap) :
    FieldExpr.readFunction (some (String.ofList (before.chars ++ (f.chars ++ after.chars)))) =
      (some f.name.text, f.distinct) := by
  unfold FieldExpr.readFunction
  rw [Option.map_some, Text.trim_blank before.isBlank after.isBlank (not_blank_of_dotted f.dotted),
    String.toList_ofList]
  obtain ⟨distinct, w⟩ := f
  cases distinct with
  | true => rfl
  | false =>
    obtain ⟨c, cs, hw, hpoint⟩ := w.exists_cons
    have hchars : (Func.mk false w).chars = c :: cs := hw
    have htext : w.text = String.ofList (c :: cs) := congrArg String.ofList hw
    rw [hchars, htext]
    simp [hpoint]

theorem make_chars (p : Path) (f : Option Func) {path : String} {func : Option String}
    (hpath : Text.trim path = String.ofList p.chars)
    (hfunc : FieldExpr.readFunction func =
      (f.map fun f => f.name.text, f.any fun f => f.distinct)) :
    FieldExpr.make path func none = .ok (expr p f) := by
  unfold FieldExpr.make
  rw [hfunc, hpath, ofPath_chars]
  rfl

end TerseSql.Shorthand
