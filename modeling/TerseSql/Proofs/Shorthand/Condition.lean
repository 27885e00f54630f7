import TerseSql.Proofs.Condition.Grammar
import TerseSql.Proofs.Shorthand.Field
import TerseSql.Proofs.Shorthand.Term

/-!
# Conditions in shorthand

A key of a condition is written as its parts, each with white space before it. Reading it
gives the parts back (`ofKey_written`), although white space belongs to the field and the
function too, and marks of one part may stand in the text of another.
-/

namespace TerseSql.Shorthand

structure OperatorText where
  chars : List Char
  not_blank : ¬IsBlank chars
  no_bracket : ']' ∉ chars
  one_line : '\n' ∉ chars

structure CommentText where
  chars : List Char
  one_line : '\n' ∉ chars

/-- The parts of a key with the white space before each: a mark of negation, a path, a
function with the bar before it, an operator, and a comment or the end. -/
structure ConditionKey where
  mark : Option Gap
  beforePath : Gap
  path : Path
  func : Option (Gap × Gap × Func)
  operator : Option (Gap × OperatorText)
  beforeEnd : Gap
  comment : Option CommentText

namespace ConditionKey

def markChars (k : ConditionKey) : List Char :=
  match k.mark with
  | some gap => gap.chars ++ ['!']
  | none => []

def funcChars (k : ConditionKey) : List Char :=
  match k.func with
  | some (bar, before, f) => bar.chars ++ '|' :: (before.chars ++ f.chars)
  | none => []

def operatorChars (k : ConditionKey) : List Char :=
  match k.operator with
  | some (gap, op) => gap.chars ++ '[' :: (op.chars ++ [']'])
  | none => []

def endChars (k : ConditionKey) : List Char :=
  match k.comment with
  | some c => k.beforeEnd.chars ++ '#' :: c.chars
  | none => k.beforeEnd.chars

def chars (k : ConditionKey) : List Char :=
  k.markChars ++ (k.beforePath.chars ++ (k.path.chars ++
    (k.funcChars ++ (k.operatorChars ++ k.endChars))))

def term (k : ConditionKey) : ConditionTerm where
  negated := k.mark.isSome
  field := expr k.path (k.func.map fun (_, _, f) => f)
  operator := k.operator.map fun (_, op) => String.ofList op.chars

end ConditionKey

/-! ## Operators and comments -/

theorem upTo_of_not_mem {α : Type} {closing : Char} {rest : List Char → Option α}
    {inner left : List Char} {a : α} (hclosing : closing ∉ inner) (hline : '\n' ∉ inner)
    (hrest : rest left = some a) (taken : List Char) :
    Grammar.upTo closing false rest taken (inner ++ closing :: left) =
      some (taken.reverse ++ inner, a) := by
  induction inner generalizing taken with
  | nil => simp [Grammar.upTo, hrest]
  | cons c inner ih =>
    rw [List.mem_cons, not_or] at hclosing hline
    rw [List.cons_append, Grammar.upTo, if_neg fun h => hclosing.1 h.1.symm]
    simp [Ne.symm hline.1, ih hclosing.2 hline.2]

theorem comment?_endChars (k : ConditionKey) : Grammar.comment? k.endChars = some () := by
  unfold Grammar.comment? ConditionKey.endChars
  cases k.comment with
  | none =>
    dsimp only
    rw [trimLeft_of_blank k.beforeEnd.isBlank]
  | some c =>
    dsimp only
    rw [trimLeft_append k.beforeEnd.isBlank, trimLeft_cons (by decide)]
    simp [c.one_line]

/-- Behind white space the operator and the comment are read back. -/
theorem exists_operator (k : ConditionKey) : ∃ (gap : Gap) (rest : List Char),
    k.operatorChars ++ k.endChars = gap.chars ++ rest ∧
      (∀ c ∈ rest.head?, Grammar.isConditionText c = false) ∧ rest.head? ≠ some '|' ∧
      Grammar.operator? rest = some (k.operator.map fun (_, op) => op.chars) := by
  have hend := comment?_endChars k
  unfold ConditionKey.operatorChars
  cases k.operator with
  | some given =>
    obtain ⟨gap, op⟩ := given
    refine ⟨gap, '[' :: (op.chars ++ ']' :: k.endChars), by simp, ?_, by simp, ?_⟩
    · intro c hc
      cases hc
      decide
    · rw [Grammar.operator?, upTo_of_not_mem op.no_bracket op.one_line hend]
      rfl
  | none =>
    unfold ConditionKey.endChars
    cases k.comment with
    | none => exact ⟨k.beforeEnd, [], by simp, by simp, by simp, rfl⟩
    | some c =>
      refine ⟨k.beforeEnd, '#' :: c.chars, by simp, ?_, by simp, ?_⟩
      · intro d hd
        cases hd
        decide
      · simp [Grammar.operator?, Grammar.comment?, trimLeft_cons (c := '#') (by decide), c.one_line]

/-! ## Keys -/

theorem isField_gaps {before cs after rest : List Char} (hbefore : IsBlank before)
    (hne : cs ≠ []) (hcs : ∀ c ∈ cs, Grammar.isSortFunction c = true) (hafter : IsBlank after)
    (hstop : ∀ c ∈ rest.head?, Grammar.isConditionText c = false) :
    Grammar.IsField (before ++ (cs ++ after)) rest where
  ne_nil := by simp [hne]
  text := by
    have hdotted : ∀ c ∈ cs, Grammar.isConditionText c = true := by
      intro c hc
      have hc := hcs c hc
      simp only [Grammar.isSortFunction, Bool.or_eq_true] at hc
      rcases hc with hc | hc <;> simp [Grammar.isConditionText, hc]
    intro c hc
    rcases List.mem_append.mp hc with hc | hc
    · exact Grammar.conditionText_of_blank hbefore c hc
    · rcases List.mem_append.mp hc with hc | hc
      · exact hdotted c hc
      · exact Grammar.conditionText_of_blank hafter c hc
  stop := hstop

theorem readsMark_chars (k : ConditionKey) : Grammar.ReadsMark k.chars k.mark.isSome
    (k.beforePath.chars ++ (k.path.chars ++ (k.funcChars ++ (k.operatorChars ++ k.endChars)))) := by
  unfold ConditionKey.chars ConditionKey.markChars
  cases k.mark with
  | some gap =>
    refine .negated ?_
    rw [List.append_assoc, trimLeft_append gap.isBlank]
    exact trimLeft_cons (by decide) _
  | none =>
    refine .plain ?_
    rw [List.nil_append, trimLeft_append k.beforePath.isBlank]
    cases hpath : k.path.chars with
    | nil => exact absurd hpath k.path.chars_ne_nil
    | cons c cs =>
      have hdotted : Grammar.isSortFunction c = true := k.path.dotted c (hpath ▸ List.mem_cons_self)
      have hblank : Text.isBlank c = false :=
        not_blank_of_dotted k.path.dotted c (hpath ▸ List.mem_cons_self)
      rw [List.cons_append, trimLeft_cons hblank]
      rintro hhead
      rw [Option.some.inj hhead] at hdotted
      revert hdotted
      decide

/-- Behind the mark, the path and the function are taken with the white space around them. -/
theorem exists_body (k : ConditionKey) : ∃ name func,
    Grammar.ReadsBody
        (k.beforePath.chars ++ (k.path.chars ++ (k.funcChars ++ (k.operatorChars ++ k.endChars))))
        name func (k.operator.map fun (_, op) => op.chars) ∧
      Text.trim (String.ofList name) = String.ofList k.path.chars ∧
      FieldExpr.readFunction (func.map String.ofList) =
        (k.term.field.func, k.term.field.distinct) := by
  obtain ⟨gap, rest, hrest, hstop, hbar, hop⟩ := exists_operator k
  have hblank := not_blank_of_dotted k.path.dotted
  rw [hrest]
  unfold ConditionKey.funcChars
  cases hfunc : k.func with
  | none =>
    -- The white space behind the path is part of the field as it is read, until it is trimmed.
    refine ⟨k.beforePath.chars ++ (k.path.chars ++ gap.chars), none, ?_, ?_, ?_⟩
    · have hbody := Grammar.ReadsBody.bare
        (isField_gaps k.beforePath.isBlank k.path.chars_ne_nil k.path.dotted gap.isBlank hstop)
        hbar hop
      simpa using hbody
    · exact Text.trim_blank k.beforePath.isBlank gap.isBlank hblank
    · simp [ConditionKey.term, expr, hfunc, FieldExpr.readFunction]
  | some given =>
    obtain ⟨bar, before, f⟩ := given
    refine ⟨k.beforePath.chars ++ (k.path.chars ++ bar.chars),
      some (before.chars ++ (f.chars ++ gap.chars)), ?_, ?_, ?_⟩
    · have hbar : ∀ c ∈ ('|' :: (before.chars ++ (f.chars ++ gap.chars) ++ rest)).head?,
          Grammar.isConditionText c = false := by
        intro c hc
        cases hc
        decide
      have hbody := Grammar.ReadsBody.under
        (isField_gaps k.beforePath.isBlank k.path.chars_ne_nil k.path.dotted bar.isBlank hbar)
        (isField_gaps before.isBlank f.chars_ne_nil f.dotted gap.isBlank hstop) hop
      simpa using hbody
    · exact Text.trim_blank k.beforePath.isBlank bar.isBlank hblank
    · rw [Option.map_some, readFunction_chars f before gap]
      simp [ConditionKey.term, expr, hfunc]

theorem exists_condition? (k : ConditionKey) : ∃ key : Grammar.ConditionKey,
    Grammar.condition? (String.ofList k.chars) = some key ∧ key.negated = k.mark.isSome ∧
      Text.trim key.path = String.ofList k.path.chars ∧
      FieldExpr.readFunction key.func = (k.term.field.func, k.term.field.distinct) ∧
      key.operator = k.term.operator := by
  obtain ⟨name, func, hbody, hpath, hfunc⟩ := exists_body k
  have hmark := readsMark_chars k
  have hoperator : (k.operator.map fun (_, op) => op.chars).map String.ofList =
      k.term.operator := by
    rw [Option.map_map]
    rfl
  refine ⟨_, Grammar.condition?_eq_some_iff.mpr ⟨_, _, name, func, _, ?_, hbody, rfl⟩,
    rfl, hpath, hfunc, hoperator⟩
  rw [String.toList_ofList]
  exact hmark

theorem OperatorText.not_allBlank (op : OperatorText) :
    Text.isAllBlank (String.ofList op.chars) = false := by
  apply Bool.of_not_eq_true
  intro hall
  unfold Text.isAllBlank at hall
  rw [String.toList_ofList, List.all_eq_true] at hall
  exact op.not_blank hall

/-- A key is read back as its parts: whether it is negated, the field, the function and whether
it takes distinct values, and the operator with its text as it is. -/
theorem ofKey_written (k : ConditionKey) :
    ConditionTerm.ofKey (String.ofList k.chars) = .ok k.term := by
  obtain ⟨key, hkey, hnegated, hpath, hfunc, hoperator⟩ := exists_condition? k
  have htrim : Text.trim (Text.trim key.path) = String.ofList k.path.chars := by
    rw [hpath, k.path.trim_chars]
  have hfield : FieldExpr.make (Text.trim key.path) key.func none = .ok k.term.field :=
    make_chars k.path _ htrim hfunc
  have hfilter : (key.operator.filter fun op => !Text.isAllBlank op) = k.term.operator := by
    rw [hoperator]
    unfold ConditionKey.term
    cases k.operator with
    | none => rfl
    | some given => simp [Option.filter, given.2.not_allBlank]
  refine ConditionTerm.ofKey_eq_ok_iff.mpr ⟨key, _, hkey, hfield, ?_⟩
  rw [hnegated, hfilter]
  rfl

/-- The mark of a comment may stand in an operator, and brackets in a comment. -/
example : ConditionTerm.ofKey " ! t.f | .count [>#] # [x]" =
    .ok ⟨true, ⟨⟨none, some "t", "f"⟩, some "count", true, none⟩, some ">#"⟩ := rfl

end TerseSql.Shorthand
