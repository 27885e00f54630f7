import TerseSql.Proofs.Lexing.Term
import TerseSql.Proofs.Name.Path

/-!
# Qualified names

A qualified name is read part by part, with a point between each two: a part is a bare star, or
a name between the marks of the dialect with the closing mark doubled inside. No text can be
read in two ways, so what tables and fields are written as gives back the parts that they were
built from.
-/

namespace TerseSql

namespace Text

/-- What stands before the first mark that is not doubled, and what follows that mark. -/
def unquote (mark : Char) : List Char → Option (List Char × List Char)
  | [] => none
  | [c] => if c = mark then some ([], []) else none
  | c :: d :: rest =>
    if c = mark then
      if d = mark then (unquote mark rest).map fun found => (mark :: found.1, found.2)
      else some ([], d :: rest)
    else (unquote mark (d :: rest)).map fun found => (c :: found.1, found.2)

theorem unquote_cons {mark c : Char} (h : c ≠ mark) {cs : List Char} (hcs : cs ≠ []) :
    unquote mark (c :: cs) = (unquote mark cs).map fun found => (c :: found.1, found.2) := by
  cases cs with
  | nil => exact absurd rfl hcs
  | cons d rest => rw [unquote, if_neg h]

/-- A text is over at its closing mark, unless another one follows. -/
theorem unquote_double {mark : Char} {left : List Char} (h : left.head? ≠ some mark)
    (s : List Char) : unquote mark (double mark s ++ mark :: left) = some (s, left) := by
  induction s with
  | nil =>
    cases left with
    | nil => simp [double, unquote]
    | cons d rest =>
      have hd : d ≠ mark := fun heq => h (congrArg some heq)
      simp [double, unquote, hd]
  | cons c s ih =>
    by_cases hc : c = mark
    · simp [double, unquote, hc, ih]
    · rw [double, if_neg hc, List.cons_append,
        unquote_cons hc (List.append_ne_nil_of_right_ne_nil _ (List.cons_ne_nil _ _)), ih]
      rfl

end Text

namespace Delimiters

/-! ## Reading -/

inductive ReadsPart (m : Delimiters) : List Char → String → Prop where
  | star : ReadsPart m ['*'] "*"
  | quoted {inner name : List Char} : Text.undouble m.closing inner = some name →
    ReadsPart m (m.opening :: inner ++ [m.closing]) (String.ofList name)

inductive Reads (m : Delimiters) : List Char → List String → Prop where
  | single {cs : List Char} {name : String} : m.ReadsPart cs name → Reads m cs [name]
  | dotted {cs rest : List Char} {name : String} {names : List String} :
    m.ReadsPart cs name → Reads m rest names → Reads m (cs ++ '.' :: rest) (name :: names)

variable {m : Delimiters}

theorem opening_ne_star : m.opening ≠ '*' := by
  cases m <;> decide

theorem closing_ne_point : m.closing ≠ '.' := by
  cases m <;> decide

theorem ReadsPart.unique {cs ds left right : List Char} {name other : String}
    (h : m.ReadsPart cs name) (h' : m.ReadsPart ds other) (hleft : left.head? ≠ some m.closing)
    (hright : right.head? ≠ some m.closing) (heq : cs ++ left = ds ++ right) :
    name = other ∧ left = right := by
  cases h with
  | star =>
    cases h' with
    | star => exact ⟨rfl, (List.cons.inj heq).2⟩
    | quoted _ => exact absurd (List.cons.inj heq).1.symm opening_ne_star
  | @quoted _ name hname =>
    cases h' with
    | star => exact absurd (List.cons.inj heq).1 opening_ne_star
    | quoted hother =>
      rw [Text.undouble_eq_some_iff.mp hname, Text.undouble_eq_some_iff.mp hother] at heq
      simp only [List.cons_append, List.append_assoc, List.nil_append, List.cons.injEq,
        true_and] at heq
      have hread := Text.unquote_double hleft name
      rw [heq, Text.unquote_double hright] at hread
      cases hread
      exact ⟨rfl, rfl⟩

/-- Neither a closing mark nor a point, so that a qualified name is over before it. -/
def EndsName (m : Delimiters) (left : List Char) : Prop :=
  left.head? ≠ some m.closing ∧ left.head? ≠ some '.'

theorem endsName_nil : m.EndsName [] :=
  ⟨fun h => (nomatch h), fun h => (nomatch h)⟩

/-- What stands at the start of a text is read as one list of names only. -/
theorem Reads.unique_append {cs ds left right : List Char} {names others : List String}
    (h : m.Reads cs names) (h' : m.Reads ds others) (hleft : m.EndsName left)
    (hright : m.EndsName right) (heq : cs ++ left = ds ++ right) :
    names = others ∧ left = right := by
  have hpoint : ∀ rest : List Char, ('.' :: rest).head? ≠ some m.closing :=
    fun rest heq => closing_ne_point (Option.some.inj heq).symm
  induction h generalizing ds others with
  | @single cs name hpart =>
    cases h' with
    | single hpart' =>
      obtain ⟨rfl, hrest⟩ := hpart.unique hpart' hleft.1 hright.1 heq
      exact ⟨rfl, hrest⟩
    | @dotted ds rest _ _ hpart' _ =>
      rw [List.append_assoc, List.cons_append] at heq
      obtain ⟨-, rfl⟩ := hpart.unique hpart' hleft.1 (hpoint _) heq
      exact absurd rfl hleft.2
  | @dotted cs rest name names hpart _ ih =>
    rw [List.append_assoc, List.cons_append] at heq
    cases h' with
    | single hpart' =>
      obtain ⟨-, rfl⟩ := hpart.unique hpart' (hpoint _) hright.1 heq
      exact absurd rfl hright.2
    | @dotted ds rest' _ _ hpart' hrest' =>
      rw [List.append_assoc, List.cons_append] at heq
      obtain ⟨rfl, htail⟩ := hpart.unique hpart' (hpoint _) (hpoint _) heq
      obtain ⟨rfl, hrest⟩ := ih hrest' (List.cons.inj htail).2
      exact ⟨rfl, hrest⟩

/-- A text is read as one list of names only. -/
theorem Reads.unique {cs : List Char} {names others : List String} (h : m.Reads cs names)
    (h' : m.Reads cs others) : names = others :=
  (h.unique_append h' endsName_nil endsName_nil rfl).1

/-! ## Names as they are written -/

section

variable (b : Builtin)

theorem readsPart_quote (s : String) :
    b.delimiters.ReadsPart (b.dialect.quote s).toList s := by
  rw [Builtin.quote_eq]
  by_cases hstar : s = "*"
  · rw [if_pos hstar, hstar]
    exact .star
  · rw [if_neg hstar]
    have hinner : Text.undouble b.delimiters.closing (Text.double b.delimiters.closing s.toList) =
        some s.toList := Text.undouble_eq_some_iff.mpr rfl
    have hread := ReadsPart.quoted hinner
    rw [String.ofList_toList] at hread
    rw [quote, Text.quoted, String.toList_ofList]
    exact hread

theorem reads_join :
    ∀ {parts : List String}, parts ≠ [] →
      b.delimiters.Reads (Text.join "." (parts.map b.dialect.quote)).toList parts
  | [], h => absurd rfl h
  | [part], _ => .single (readsPart_quote b part)
  | part :: next :: rest, _ => by
    have hrest : b.delimiters.Reads (Text.join "." ((next :: rest).map b.dialect.quote)).toList
        (next :: rest) := reads_join (List.cons_ne_nil _ _)
    have hread := Reads.dotted (readsPart_quote b part) hrest
    rw [List.map_cons, List.map_cons, Text.join, String.toList_append, String.toList_append,
      List.append_assoc]
    exact hread

theorem reads_join_iff {parts names : List String} (h : parts ≠ []) :
    b.delimiters.Reads (Text.join "." (parts.map b.dialect.quote)).toList names ↔
      names = parts := by
  constructor
  · intro hnames
    exact hnames.unique (reads_join b h)
  · rintro rfl
    exact reads_join b h

end

end Delimiters

/-! ## Tables and fields -/

theorem Table.render_eq_join (l : Lexicon) (t : Table) :
    t.render l = Text.join "." (t.parts.map l.quote) := by
  unfold render parts
  cases t.schema <;> rfl

/-- A field, or a table, is built from the parts of a path with the qualifiers that are given
beside it, as long as there are not too many of them, and what it is written as can be read as
these parts only. -/
theorem Builtin.names_read_back (b : Builtin) (path : String) (table schema : Option String) :
    ∃ parts, (∀ found, IsDotted path found ↔ found = parts) ∧
      ((∃ f, Field.make path table schema = .ok f) ↔
        parts.length = 1 ∨ parts.length = 2 ∧ table = none ∨
          parts.length = 3 ∧ table = none ∧ schema = none) ∧
      (∀ f, Field.make path table schema = .ok f →
        ∀ names, b.delimiters.Reads (f.render b.dialect.toLexicon).toList names ↔
          names = schema.toList ++ table.toList ++ parts) ∧
      ((∃ t, Table.make path schema = .ok t) ↔
        parts.length = 1 ∨ parts.length = 2 ∧ schema = none) ∧
      ∀ t, Table.make path schema = .ok t →
        ∀ names, b.delimiters.Reads (t.render b.dialect.toLexicon).toList names ↔
          names = schema.toList ++ parts := by
  refine ⟨Text.split '.' path, fun _ => isDotted_iff, Field.exists_make_iff, ?_,
    Table.exists_make_iff, ?_⟩
  · intro f hf names
    rw [← Field.parts_make hf]
    exact Delimiters.reads_join_iff b (List.append_ne_nil_of_right_ne_nil _ (List.cons_ne_nil _ _))
  · intro t ht names
    rw [← Table.parts_make ht, Table.render_eq_join]
    exact Delimiters.reads_join_iff b (List.append_ne_nil_of_right_ne_nil _ (List.cons_ne_nil _ _))

/-- A schema with a point in it, a table with the closing mark in it, and a star. -/
theorem Builtin.names_read_back_marks :
    Field.make "a]b.*" none (some "s.t") = .ok ⟨some "s.t", some "a]b", "*"⟩ ∧
      Field.render mssql.dialect.toLexicon ⟨some "s.t", some "a]b", "*"⟩ = "[s.t].[a]]b].*" ∧
      ∀ names, mssql.delimiters.Reads "[s.t].[a]]b].*".toList names ↔
        names = ["s.t", "a]b", "*"] := by
  have hmake : Field.make "a]b.*" none (some "s.t") = .ok ⟨some "s.t", some "a]b", "*"⟩ := rfl
  have hrender : Field.render mssql.dialect.toLexicon ⟨some "s.t", some "a]b", "*"⟩ =
      "[s.t].[a]]b].*" := by decide
  obtain ⟨parts, hparts, -, hfield, -⟩ := names_read_back mssql "a]b.*" none (some "s.t")
  have hsplit : ["a]b", "*"] = parts := (hparts _).mp (isDotted_iff.mpr (by decide))
  have hread := hfield _ hmake
  rw [hrender, ← hsplit] at hread
  exact ⟨hmake, hrender, hread⟩

end TerseSql
