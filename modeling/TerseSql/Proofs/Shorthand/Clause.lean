import TerseSql.Dialect.Builtin
import TerseSql.Proofs.Shorthand.Condition
import TerseSql.Statement.Clause

/-!
# One shorthand in every clause

A field in shorthand, perhaps with white space around it, is read in select lists, sort orders,
conditions, assignments and groupings, each of which has a grammar of its own. All of them take
it for the same field and write the same text (`same_in_every_clause`).
-/

namespace TerseSql.Shorthand

structure FieldText where
  before : Gap
  path : Path
  func : Option Func
  after : Gap

namespace FieldText

def funcChars (t : FieldText) : List Char :=
  match t.func with
  | some f => '|' :: f.chars
  | none => []

def chars (t : FieldText) : List Char :=
  t.before.chars ++ (t.path.chars ++ (t.funcChars ++ t.after.chars))

def text (t : FieldText) : String :=
  String.ofList t.chars

def expr (t : FieldText) : FieldExpr :=
  Shorthand.expr t.path t.func

end FieldText

/-! ## Parts -/

theorem Gap.not_pathText (gap : Gap) : ∀ c ∈ gap.chars.head?, isPathText c = false := by
  intro c hc
  exact not_pathText_of_blank (gap.isBlank c (List.mem_of_mem_head? hc))

theorem trimLeft_dotted {cs : List Char} (hne : cs ≠ [])
    (h : ∀ c ∈ cs, Grammar.isSortFunction c = true) (rest : List Char) :
    Text.trimLeft (cs ++ rest) = cs ++ rest := by
  cases cs with
  | nil => exact absurd rfl hne
  | cons c cs => exact trimLeft_cons (not_blank_of_dotted h c List.mem_cons_self) _

theorem function_chars (f : Func) (after : Gap) :
    Grammar.function ('|' :: (f.chars ++ after.chars)) = some (some f.chars, after.chars) := by
  have hstop : ∀ c ∈ after.chars.head?, Text.isWord c = false := by
    intro c hc
    have hnot := after.not_pathText c hc
    simp [isPathText] at hnot
    exact hnot.1.1
  have htake := takeWhile_span f.name.isWord hstop
  have hdrop := dropWhile_span f.name.isWord hstop
  have htrim := trimLeft_dotted f.chars_ne_nil f.dotted after.chars
  obtain ⟨distinct, w⟩ := f
  obtain ⟨c, cs, hw, hpoint⟩ := w.exists_cons
  dsimp only at htake hdrop
  rw [hw, List.cons_append] at htake hdrop
  simp only [Grammar.function, htrim]
  cases distinct with
  | true => simp [Func.chars, hw, htake, hdrop]
  | false => simp [Func.chars, hw, htake, hdrop, hpoint]

namespace FieldText

/-- Every reader but that of conditions starts with the path. -/
theorem path_trimLeft (t : FieldText) : Grammar.path 2 (Text.trimLeft t.text.toList) =
    some (t.path.chars, t.funcChars ++ t.after.chars) := by
  have hstop : ∀ c ∈ (t.funcChars ++ t.after.chars).head?, isPathText c = false := by
    unfold funcChars
    cases t.func with
    | none => exact t.after.not_pathText
    | some f =>
      intro c hc
      cases hc
      decide
  rw [text, String.toList_ofList, chars, trimLeft_append t.before.isBlank,
    trimLeft_dotted t.path.chars_ne_nil t.path.dotted, path_chars t.path hstop]

theorem trimLeft_func (t : FieldText) : Text.trimLeft (t.funcChars ++ t.after.chars) =
    match t.func with
    | some f => '|' :: (f.chars ++ t.after.chars)
    | none => [] := by
  unfold funcChars
  cases t.func with
  | none => exact trimLeft_of_blank t.after.isBlank
  | some f => exact trimLeft_cons (by decide) _

/-! ## Clauses -/

theorem make_expr (t : FieldText) : FieldExpr.make (String.ofList t.path.chars)
    (t.func.map fun f => String.ofList f.chars) none = .ok t.expr := by
  refine make_chars t.path t.func ?_ ?_
  · exact t.path.trim_chars
  · cases t.func with
    | none => rfl
    | some f =>
      have hread := readFunction_chars f ⟨[], isBlank_nil⟩ ⟨[], isBlank_nil⟩
      rwa [List.nil_append, List.append_nil] at hread

theorem ofText_text (t : FieldText) : FieldExpr.ofText t.text = .ok t.expr := by
  have hkey : Grammar.field? t.text = some ⟨String.ofList t.path.chars,
      t.func.map fun f => String.ofList f.chars, none⟩ := by
    unfold Grammar.field?
    rw [t.path_trimLeft]
    dsimp only [Option.bind_eq_bind, Option.bind_some]
    rw [t.trimLeft_func]
    cases t.func with
    | none => rfl
    | some f =>
      dsimp only
      rw [function_chars, Option.bind_some, trimLeft_of_blank t.after.isBlank]
      rfl
  unfold FieldExpr.ofText
  rw [hkey]
  exact t.make_expr

theorem ofEntry_text (t : FieldText) : OrderTerm.ofEntry t.text .null = .ok ⟨t.expr, .asc⟩ := by
  have hkey : Grammar.sort? t.text = some ⟨String.ofList t.path.chars,
      t.func.map fun f => String.ofList f.chars⟩ := by
    unfold Grammar.sort?
    rw [t.path_trimLeft]
    dsimp only [Option.bind_eq_bind, Option.bind_some]
    rw [t.trimLeft_func]
    cases t.func with
    | none => rfl
    | some f =>
      have hstop : ∀ c ∈ t.after.chars.head?, Grammar.isSortFunction c = false := by
        intro c hc
        have hnot := t.after.not_pathText c hc
        simp [isPathText] at hnot
        simp [Grammar.isSortFunction, hnot]
      have hend : Grammar.atEnd t.after.chars = true := List.all_eq_true.mpr t.after.isBlank
      simp [takeWhile_span f.dotted hstop, dropWhile_span f.dotted hstop, f.chars_ne_nil, hend]
  exact OrderTerm.ofEntry_eq_ok_iff.mpr ⟨_, _, .asc, hkey, t.make_expr, rfl, rfl⟩

def conditionKey (t : FieldText) : ConditionKey where
  mark := none
  beforePath := t.before
  path := t.path
  func := t.func.map fun f => (⟨[], isBlank_nil⟩, ⟨[], isBlank_nil⟩, f)
  operator := none
  beforeEnd := t.after
  comment := none

theorem ofKey_text (t : FieldText) : ConditionTerm.ofKey t.text = .ok ⟨false, t.expr, none⟩ := by
  have hchars : t.text = String.ofList t.conditionKey.chars := by
    unfold text chars ConditionKey.chars
    unfold conditionKey funcChars
    cases t.func <;> rfl
  have hterm : t.conditionKey.term = ⟨false, t.expr, none⟩ := by
    unfold conditionKey expr ConditionKey.term
    cases t.func <;> rfl
  rw [hchars, ofKey_written, hterm]

theorem assignment_text (t : FieldText) (h : t.func = none) :
    AssignmentTerm.ofKey t.text = .ok ⟨t.path.field, none⟩ := by
  have hkey : Grammar.assignment? t.text = some ⟨String.ofList t.path.chars, none⟩ := by
    unfold Grammar.assignment?
    rw [t.path_trimLeft]
    dsimp only [Option.bind_eq_bind, Option.bind_some]
    rw [t.trimLeft_func, h]
    rfl
  exact AssignmentTerm.ofKey_eq_ok_iff.mpr ⟨_, _, hkey, ofPath_chars t.path, rfl⟩

theorem trim_text (t : FieldText) (h : t.func = none) :
    Text.trim t.text = String.ofList t.path.chars := by
  have htext : t.text = String.ofList (t.before.chars ++ (t.path.chars ++ t.after.chars)) := by
    unfold text chars funcChars
    rw [h]
    rfl
  rw [htext]
  exact Text.trim_blank t.before.isBlank t.after.isBlank (not_blank_of_dotted t.path.dotted)

theorem no_comma (t : FieldText) : ',' ∉ t.text.toList := by
  have hgap : ∀ gap : Gap, ',' ∉ gap.chars := by
    intro gap hcomma
    have hblank := gap.isBlank ',' hcomma
    revert hblank
    decide
  have hdotted : ∀ cs : List Char, (∀ c ∈ cs, Grammar.isSortFunction c = true) → ',' ∉ cs := by
    intro cs hcs hcomma
    have hcomma := hcs ',' hcomma
    revert hcomma
    decide
  have hfunc : ',' ∉ t.funcChars := by
    unfold funcChars
    cases t.func with
    | none => exact fun hcomma => nomatch hcomma
    | some f => simp [hdotted f.chars f.dotted]
  rw [text, String.toList_ofList, chars]
  simp [hgap, hdotted t.path.chars t.path.dotted, hfunc]

/-- A text with commas and a list of names give the path as the one column. -/
theorem columns_text (t : FieldText) (h : t.func = none) :
    Column.listOfText t.text = [.name (String.ofList t.path.chars)] ∧
      Column.listOfNames [t.text] = [.name (String.ofList t.path.chars)] := by
  constructor
  · unfold Column.listOfText Text.splitNames
    rw [Text.split_of_not_mem t.no_comma, List.map_singleton, List.map_singleton, t.trim_text h]
  · unfold Column.listOfNames Column.ofName
    rw [List.map_singleton, t.trim_text h]

theorem groupBy_path (d : Dialect) (p : Path) (s : Statement) :
    (Statement.groupBy d [.name (String.ofList p.chars)]).run s =
      .ok () (s.push ["GROUP BY", p.field.render d.toLexicon]) := by
  have hlist : Statement.groupList d [.name (String.ofList p.chars)] =
      .ok (p.field.render d.toLexicon) := by
    unfold Statement.groupList
    rw [List.mapM_cons, Statement.grouped, ofPath_chars]
    rfl
  unfold Statement.groupBy
  rw [hlist]
  rfl

end FieldText

/-- A field in shorthand means the same expression in every clause. What a select list writes
for it stands before the direction of a sort order and is the field of a condition. Without a
function it is also what an assignment sets and what a grouping groups by. -/
theorem same_in_every_clause (d : Dialect) (t : FieldText) :
    FieldExpr.ofText t.text = .ok t.expr ∧
      (∃ o, OrderTerm.ofEntry t.text .null = .ok o ∧
        o.render d.toLexicon = t.expr.render d.toLexicon ++ " ASC") ∧
      (∃ c, ConditionTerm.ofKey t.text = .ok c ∧
        c.field.render d.toLexicon = t.expr.render d.toLexicon ∧
          ∀ v, c.render d v = d.condition none (t.expr.render d.toLexicon) v) ∧
      (t.func = none →
        (∃ a, AssignmentTerm.ofKey t.text = .ok a ∧
          a.field.render d.toLexicon = t.expr.render d.toLexicon ∧
            ∀ v, a.render d v = d.assignment none (t.expr.render d.toLexicon) v) ∧
        ∀ columns ∈ [Column.listOfText t.text, Column.listOfNames [t.text]], ∀ s,
          (Statement.groupBy d columns).run s =
            .ok () (s.push ["GROUP BY", t.expr.render d.toLexicon])) := by
  refine ⟨t.ofText_text, ⟨_, t.ofEntry_text, ?_⟩, ⟨_, t.ofKey_text, rfl, fun v => ?_⟩,
    fun h => ?_⟩
  · unfold OrderTerm.render
    rw [String.append_assoc]
    rfl
  · unfold ConditionTerm.render
    dsimp only
    cases d.condition none (t.expr.render d.toLexicon) v <;> rfl
  · -- Assignments and groupings read the path alone, which is all there is without a function.
    have hfield : t.expr.render d.toLexicon = t.path.field.render d.toLexicon := by
      unfold FieldText.expr expr
      rw [h]
      rfl
    obtain ⟨htext, hnames⟩ := t.columns_text h
    rw [hfield, htext, hnames]
    refine ⟨⟨_, t.assignment_text h, rfl, fun v => rfl⟩, ?_⟩
    intro columns hcolumns s
    rw [List.mem_pair, or_self] at hcolumns
    rw [hcolumns]
    exact FieldText.groupBy_path d t.path s

/-- White space around the name of a column is no part of the name. -/
theorem same_in_every_clause_of_name :
    (∃ a, AssignmentTerm.ofKey " id\t" = .ok a ∧
      ∀ v, a.render Builtin.generic.dialect v =
        Builtin.generic.dialect.assignment none "\"id\"" v) ∧
      (Statement.groupBy Builtin.generic.dialect (Column.listOfText " id\t")).run .empty =
        .ok () (Statement.empty.push ["GROUP BY", "\"id\""]) := by
  have hword : ∀ c ∈ ['i', 'd'], Text.isWord c = true := List.all_eq_true.mp (by decide)
  have hspace : IsBlank [' '] := by decide
  have htab : IsBlank ['\t'] := by decide
  obtain ⟨-, -, -, hplain⟩ := same_in_every_clause Builtin.generic.dialect
    ⟨⟨[' '], hspace⟩, .name ⟨['i', 'd'], by simp, hword⟩, none, ⟨['\t'], htab⟩⟩
  obtain ⟨⟨a, hkey, -, hassign⟩, hgroup⟩ := hplain rfl
  have hfield : Field.render Builtin.generic.dialect.toLexicon ⟨none, none, "id"⟩ = "\"id\"" := by
    decide
  have hgroup := hgroup _ List.mem_cons_self .empty
  rw [← hfield]
  exact ⟨⟨a, hkey, hassign⟩, hgroup⟩

end TerseSql.Shorthand
