import TerseSql.Dialect.Builtin

/-!
# How operators are written

Every operator that a dialect at hand knows writes its condition by one of a few rules. Which
rule that is depends on the dialect and the token alone, neither on the field nor on the
value.
-/

namespace TerseSql

inductive Rule where
  | member (op listOp : String)
  | pattern (op joiner : String)
  | range (op : String)
  | null
  | plain (op : String)
deriving DecidableEq, Repr

def Rule.apply (rule : Rule) (r : Renderer) : String → Value → Built String :=
  match rule with
  | member op listOp => r.membership op listOp
  | pattern op joiner => r.pattern op joiner
  | range op => r.range op
  | null => Renderer.nullTest
  | plain op => Handler.infixed op r

def Rule.named : List Rule :=
  [.member "=" "IN", .member "<>" "NOT IN", .pattern "LIKE" " OR ", .pattern "NOT LIKE" " AND ",
   .range "BETWEEN", .range "NOT BETWEEN", .null, .plain "GLOB", .plain "REGEXP", .plain "~",
   .plain "!~", .pattern "ILIKE" " OR ", .pattern "NOT ILIKE" " AND "]

def Rule.words : Rule → List String
  | member op listOp => [op, listOp]
  | pattern op joiner => [op, joiner]
  | range op => [op]
  | null => []
  | plain op => [op]

def Operator.rule : Operator → Rule
  | eq => .member "=" "IN"
  | ne => .member "<>" "NOT IN"
  | like => .pattern "LIKE" " OR "
  | notLike => .pattern "NOT LIKE" " AND "
  | between => .range "BETWEEN"
  | notBetween => .range "NOT BETWEEN"
  | isNull => .null

namespace Builtin

def ownRules : Builtin → List (String × Rule)
  | sqlite => [("glob", .plain "GLOB")]
  | mysql => [("regexp", .plain "REGEXP")]
  | postgres =>
    [("~~", .pattern "ILIKE" " OR "), ("!~~", .pattern "NOT ILIKE" " AND "),
     ("regexp", .plain "~"), ("!regexp", .plain "!~")]
  | _ => []

/-- The rule of an operator. No operator, or a blank one, means equality, and one that the
dialect does not know is written as it is. -/
def rule (b : Builtin) (token : Option String) : Rule :=
  let token := (token.filter fun t => !Text.isAllBlank t).getD "="
  match b.ownRules.lookup (Registry.normalize token) with
  | some rule => rule
  | none =>
    match Operator.ofToken? token with
    | some op => op.rule
    | none => .plain token

end Builtin

def isSymbol (c : Char) : Bool :=
  c == '+' || c == '-' || c == '*' || c == '/' || c == '%' || c == '<' || c == '>' || c == '='

def isSymbolic (token : String) : Bool :=
  !token.toList.isEmpty && token.toList.all isSymbol

/-- An operator that a dialect knows: one with a handler of its own, one that every dialect
knows, or one of symbols. -/
def Builtin.Knows (b : Builtin) (token : String) : Prop :=
  (b.dialect.operators.find? token).isSome = true ∨ (Operator.ofToken? token).isSome = true ∨
    isSymbolic token = true

/-! ## Dispatch -/

theorem lookup_map {α β γ : Type} [BEq α] (f : β → γ) (l : List (α × β)) (a : α) :
    (l.map fun e => (e.1, f e.2)).lookup a = (l.lookup a).map f := by
  induction l with
  | nil => rfl
  | cons e l ih =>
    obtain ⟨k, v⟩ := e
    rw [List.map_cons, List.lookup_cons, List.lookup_cons, ih]
    cases a == k <;> rfl

theorem find?_operators (b : Builtin) (token : String) :
    b.dialect.operators.find? token =
      (b.ownRules.lookup (Registry.normalize token)).map Rule.apply := by
  have hhandlers : b.dialect.operators.handlers = b.ownRules.map fun e => (e.1, e.2.apply) := by
    cases b <;> rfl
  unfold Registry.find?
  rw [hhandlers, lookup_map]

theorem render_operator (b : Builtin) (op : Operator) :
    op.render b.dialect = op.rule.apply b.dialect.toRenderer := by
  cases op <;> cases b <;> rfl

theorem forall_symbol {p : Char → Bool}
    (hp : ['+', '-', '*', '/', '%', '<', '>', '='].all p = true) {c : Char}
    (hc : isSymbol c = true) : p c = true := by
  refine List.all_eq_true.mp hp c ?_
  simpa [isSymbol, or_assoc] using hc

theorem lowerAfter_symbols {cs : List Char} (h : ∀ c ∈ cs, isSymbol c = true)
    (before : List Char) : Text.lowerAfter before cs = cs := by
  induction cs generalizing before with
  | nil => rfl
  | cons c cs ih =>
    have hc : isSymbol c = true := h c List.mem_cons_self
    have hcs : ∀ d ∈ cs, isSymbol d = true := fun d hd => h d (List.mem_cons_of_mem _ hd)
    have hsigma : c ≠ 'Σ' := by
      rintro rfl
      cases hc
    have hself : Text.lowerChar c = [c] := by
      have h := forall_symbol (p := fun d => Text.lowerChar d == [d]) (by decide) hc
      exact beq_iff_eq.mp h
    rw [Text.lowerAfter, if_neg fun hand => hsigma hand.1, hself, ih hcs]
    rfl

/-- A quantified operator ends in a letter. -/
theorem not_quantified_of_symbolic {token : String} (h : isSymbolic token = true) :
    isQuantified token = false := by
  unfold isSymbolic at h
  rw [Bool.and_eq_true, List.all_eq_true] at h
  have hlower : (Text.lower token).toList = token.toList := by
    unfold Text.lower
    rw [String.toList_ofList, lowerAfter_symbols h.2]
  have hnot : ∀ tail : String, (∃ c ∈ tail.toList, isSymbol c = false) →
      Text.endsWith (Text.lower token) tail = false := by
    intro tail htail
    obtain ⟨c, hc, hsymbol⟩ := htail
    refine Bool.eq_false_iff.mpr fun hends => ?_
    unfold Text.endsWith at hends
    rw [hlower, List.isSuffixOf_iff_suffix] at hends
    rw [h.2 c (hends.subset hc)] at hsymbol
    cases hsymbol
  unfold isQuantified
  dsimp only
  rw [hnot "any" ⟨'y', by decide, by decide⟩, hnot "all" ⟨'l', by decide, by decide⟩,
    hnot "some" ⟨'e', by decide, by decide⟩]
  rfl

theorem defaultOperator_eq (b : Builtin) :
    b.dialect.defaultOperator = b.dialect.toRenderer.infixed := by
  cases b <;>
    simp only [Builtin.dialect, Builtin.genericDialect, Builtin.sqliteDialect,
      Builtin.mysqlDialect, Builtin.postgresDialect, Builtin.mssqlDialect,
      Builtin.oracleDialect]

theorem defaultOperator_of_symbolic (b : Builtin) {token : String}
    (h : isSymbolic token = true) :
    b.dialect.defaultOperator token = (Rule.plain token).apply b.dialect.toRenderer := by
  funext field v
  rw [defaultOperator_eq, Renderer.infixed, not_quantified_of_symbolic h, if_neg Bool.false_ne_true]
  rfl

/-- What a token means once the absence of one has been settled. -/
theorem knows_getD {b : Builtin} {token : Option String} (h : ∀ t, token = some t → b.Knows t) :
    b.Knows ((token.filter fun t => !Text.isAllBlank t).getD "=") := by
  cases hfilter : token.filter fun t => !Text.isAllBlank t with
  | none => exact Or.inr (Or.inl rfl)
  | some t => exact h t (Option.filter_eq_some_iff.mp hfilter).1

theorem condition_eq {b : Builtin} {token : Option String}
    (h : ∀ t, token = some t → b.Knows t) :
    b.dialect.condition token = (b.rule token).apply b.dialect.toRenderer := by
  have hknows := knows_getD h
  funext field v
  unfold Dialect.condition Builtin.rule
  dsimp only
  generalize (token.filter fun t => !Text.isAllBlank t).getD "=" = t at hknows
  rw [find?_operators]
  cases hown : b.ownRules.lookup (Registry.normalize t) with
  | some rule => rfl
  | none =>
    rw [Option.map_none]
    cases hop : Operator.ofToken? t with
    | some op => exact congrFun (congrFun (render_operator b op) field) v
    | none =>
      have hsymbolic : isSymbolic t = true := by
        rcases hknows with hk | hk | hk
        · rw [find?_operators, hown] at hk
          cases hk
        · rw [hop] at hk
          cases hk
        · exact hk
      exact congrFun (congrFun (defaultOperator_of_symbolic b hsymbolic) field) v

/-- The rule of an operator has a name, or it is a token that has no other rule. -/
theorem rule_mem_named (b : Builtin) (token : Option String) :
    b.rule token ∈ Rule.named ∨
      ∃ t, (token.filter fun t => !Text.isAllBlank t).getD "=" = t ∧
        b.dialect.operators.find? t = none ∧ Operator.ofToken? t = none ∧
        b.rule token = .plain t := by
  unfold Builtin.rule
  dsimp only
  generalize (token.filter fun t => !Text.isAllBlank t).getD "=" = t
  cases hown : b.ownRules.lookup (Registry.normalize t) with
  | some rule =>
    left
    obtain ⟨before, after, hsplit, _⟩ := List.lookup_eq_some_iff.mp hown
    have hmem : rule ∈ b.ownRules.map Prod.snd := by
      rw [hsplit]
      simp
    have hall : ∀ rule ∈ b.ownRules.map Prod.snd, rule ∈ Rule.named := by
      cases b <;> decide
    exact hall rule hmem
  | none =>
    cases hop : Operator.ofToken? t with
    | some op =>
      left
      have hall : ∀ op : Operator, op.rule ∈ Rule.named := by
        intro op
        cases op <;> decide
      exact hall op
    | none =>
      right
      refine ⟨t, rfl, ?_, hop, rfl⟩
      rw [find?_operators, hown, Option.map_none]

/-- What holds of the words of rules with names holds of those of every rule, if it holds of the
operator. -/
theorem forall_words {P : String → Prop} (b : Builtin)
    (hnamed : ∀ rule ∈ Rule.named, ∀ w ∈ rule.words, P w) {token : Option String}
    (h : ∀ op, token = some op → P op) : ∀ w ∈ (b.rule token).words, P w := by
  rcases rule_mem_named b token with hrule | ⟨t, ht, _, hop, hrule⟩
  · exact hnamed _ hrule
  · intro w hw
    rw [hrule] at hw
    obtain rfl := List.mem_singleton.mp hw
    cases hfilter : token.filter fun t => !Text.isAllBlank t with
    | none =>
      rw [hfilter] at ht
      subst ht
      cases hop
    | some t =>
      rw [hfilter] at ht
      obtain rfl : t = w := ht
      exact h t (Option.filter_eq_some_iff.mp hfilter).1

def Rule.condition (rule : Rule) (r : Renderer) : String → Value → Built String :=
  match rule with
  | plain op => r.infixed op
  | rule => rule.apply r

theorem Rule.condition_of_named {rule : Rule} (h : rule ∈ named) (r : Renderer) :
    rule.condition r = rule.apply r := by
  have hplain : ∀ op, isQuantified op = false → r.infixed op = (plain op).apply r := by
    intro op hop
    funext field v
    rw [Renderer.infixed, hop, if_neg Bool.false_ne_true]
    rfl
  have hquantified : ∀ op, plain op ∈ named → isQuantified op = false := by
    intro op hop
    simp only [named, List.mem_cons, Rule.plain.injEq, reduceCtorEq, List.not_mem_nil, false_or,
      or_false] at hop
    rcases hop with rfl | rfl | rfl | rfl <;> decide
  cases rule with
  | plain op => exact hplain op (hquantified op h)
  | _ => rfl

/-- Every condition is written by a rule, whether its operator is known or not. -/
theorem condition_eq_rule (b : Builtin) (token : Option String) :
    b.dialect.condition token = (b.rule token).condition b.dialect.toRenderer := by
  funext field v
  unfold Dialect.condition
  dsimp only
  rw [find?_operators]
  rcases rule_mem_named b token with hnamed | ⟨t, ht, hfind, hop, hrule⟩
  · rw [Rule.condition_of_named hnamed]
    revert hnamed
    unfold Builtin.rule
    dsimp only
    generalize (token.filter fun t => !Text.isAllBlank t).getD "=" = t
    cases b.ownRules.lookup (Registry.normalize t) with
    | some rule => exact fun _ => rfl
    | none =>
      cases Operator.ofToken? t with
      | some op => exact fun _ => congrFun (congrFun (render_operator b op) field) v
      | none =>
        intro h
        rw [← Rule.condition_of_named h]
        exact congrFun (congrFun (congrFun (defaultOperator_eq b) t) field) v
  · rw [find?_operators] at hfind
    rw [hrule, ht, hfind, hop]
    exact congrFun (congrFun (congrFun (defaultOperator_eq b) t) field) v

theorem rule_cases {b : Builtin} {token : Option String} (h : ∀ t, token = some t → b.Knows t) :
    b.rule token ∈ Rule.named ∨ ∃ t, isSymbolic t = true ∧ b.rule token = .plain t := by
  rcases rule_mem_named b token with hnamed | ⟨t, ht, hfind, hop, hrule⟩
  · exact Or.inl hnamed
  · have hknows := knows_getD h
    rw [ht] at hknows
    rcases hknows with hk | hk | hk
    · rw [hfind] at hk
      cases hk
    · rw [hop] at hk
      cases hk
    · exact Or.inr ⟨t, hk, hrule⟩

/-- The operators that every dialect knows have rules with names. -/
theorem rule_mem_named_of_operator {b : Builtin} {token : Option String}
    (h : ∀ t, token = some t → (Operator.ofToken? t).isSome = true) :
    b.rule token ∈ Rule.named := by
  rcases rule_mem_named b token with hnamed | ⟨t, ht, _, hop, _⟩
  · exact hnamed
  · have hsome : (Operator.ofToken? t).isSome = true := by
      rw [← ht]
      cases hfilter : token.filter fun t => !Text.isAllBlank t with
      | none => rfl
      | some t' => exact h t' (Option.filter_eq_some_iff.mp hfilter).1
    rw [hop] at hsome
    cases hsome

end TerseSql
