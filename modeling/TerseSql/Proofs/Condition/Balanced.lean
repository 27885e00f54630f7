import TerseSql.Proofs.Blank.Shape
import TerseSql.Proofs.Reading.Literal
import TerseSql.Proofs.Result

/-!
# Balanced conditions

A reader of parentheses that comes to a balanced text outside quotes leaves it outside quotes,
with as many parentheses open as before. Names, literals and conditions on a field are balanced
whatever is in quotes, so a tree of conditions is, and the parentheses around a balanced text
close each other.
-/

namespace TerseSql

open Lexing

/-! ## Parentheses that close wherever the text stands -/

namespace Condition

/-- A text that a reader of parentheses passes over, wherever it stands outside quotes. -/
def Balanced (s : String) : Prop :=
  ∀ depth rest, closesWithin none depth (s.toList ++ rest) = closesWithin none depth rest

namespace Balanced

variable {s t : String}

theorem append (hs : Balanced s) (ht : Balanced t) : Balanced (s ++ t) := by
  intro depth rest
  rw [String.toList_append, List.append_assoc, hs, ht]

theorem plain (h : IsPlainName s) : Balanced s :=
  fun depth rest => closesWithin_uncounted depth (fun c hc => uncounted_of_plain (h c hc)) rest

theorem parens (hs : Balanced s) : Balanced ("(" ++ s ++ ")") := by
  intro depth rest
  have hopen : ∀ cs, closesWithin none depth ('(' :: cs) = closesWithin none (depth + 1) cs :=
    fun cs => rfl
  have hclose : closesWithin none (depth + 1) (')' :: rest) = closesWithin none depth rest := rfl
  have hchars : ("(" ++ s ++ ")").toList ++ rest = '(' :: (s.toList ++ ')' :: rest) := by simp
  rw [hchars, hopen, hs, hclose]

theorem join {sep : String} (hsep : IsPlainName sep) {ss : List String}
    (h : ∀ s ∈ ss, Balanced s) : Balanced (Text.join sep ss) := by
  induction ss with
  | nil => exact fun _ _ => rfl
  | cons s ss ih =>
    have hs := h s List.mem_cons_self
    have hrest := ih fun t ht => h t (List.mem_cons_of_mem _ ht)
    cases ss with
    | nil => exact hs
    | cons t ss => exact (hs.append (plain hsep)).append hrest

theorem inside (hs : Balanced s) : inside? ("(" ++ s ++ ")") = some s := by
  refine inside?_eq_some_iff.mpr ⟨by simp, ?_⟩
  have hcloses := hs 0 []
  rw [List.append_nil] at hcloses
  exact hcloses

end Balanced

/-! ## Tokens -/

theorem balanced_of_spells {r : Rules} {s : String} {ts : List Token} (h : Spells r s ts)
    (hmarks : ∀ c, .mark c ∈ ts → c ≠ '(' ∧ c ≠ ')')
    (hnames : ∀ n, .name n ∈ ts → r.delimiters = .bracket → IsPlainName n) : Balanced s := by
  intro depth rest
  have hwrites := h.fits.writes
  rw [h.text]
  clear h
  unfold Rules.write
  induction ts with
  | nil => rfl
  | cons t ts ih =>
    have hrest := ih (fun c hc => hmarks c (List.mem_cons_of_mem _ hc))
      (fun n hn => hnames n (List.mem_cons_of_mem _ hn))
      fun u hu => hwrites u (List.mem_cons_of_mem _ hu)
    rw [List.flatMap_cons, List.append_assoc]
    cases t with
    | name n =>
      rw [closesWithin_name depth (not_misleads_name (hnames n List.mem_cons_self)), hrest]
    | literal n u => rw [closesWithin_literal, hrest]
    | mark c =>
      have hplain : ∀ d ∈ [c], isCounted d = false := by
        intro d hd
        obtain rfl := List.mem_singleton.mp hd
        exact uncounted_of_plain ⟨hwrites _ List.mem_cons_self, hmarks d List.mem_cons_self⟩
      rw [Token.write, closesWithin_uncounted depth hplain, hrest]
    | comment u => exact absurd (hwrites _ List.mem_cons_self) id

theorem plain_upper {s : String} (h : IsPlainName s) : IsPlainName (Text.upper s) :=
  forall_upper (fun u hu => plain_of_all (p := isLexical) (by decide) (s := String.ofList [u])
    (by simpa using hu) u (by simp)) h

end Condition

/-! ## Fields and literals -/

namespace Builtin

/-- A value that is SQL already only as a field, whose name is plain where parentheses in names
would be taken for parentheses. -/
def IsSealed (b : Builtin) : Value → Prop
  | .raw _ | .query _ => False
  | .field f => ∀ n ∈ f.parts, b.delimiters = .bracket → Condition.IsPlainName n
  | _ => True

def SealsAll (b : Builtin) (v : Value) : Prop :=
  ∀ x ∈ v.leaves, b.IsSealed x

structure SealedLeaf (b : Builtin) (name : String) (v : Value) : Prop where
  operator {t : ConditionTerm} : ConditionTerm.ofKey name = .ok t →
    ∀ op, t.operator = some op → Condition.IsPlainName op
  values : b.SealsAll v

theorem sealedLeaf_of_key {b : Builtin} {name : String} {t : ConditionTerm} {v : Value}
    (hkey : ConditionTerm.ofKey name = .ok t)
    (hop : ∀ op, t.operator = some op → Condition.IsPlainName op) (hv : b.SealsAll v) :
    b.SealedLeaf name v where
  operator := by
    intro t' ht
    rw [hkey] at ht
    cases ht
    exact hop
  values := hv

namespace SealsAll

variable {b : Builtin} {v : Value}

theorem self (h : b.SealsAll v) : b.IsSealed v := by
  cases v with
  | list items => exact trivial
  | _ => exact h _ List.mem_cons_self

theorem collapse (h : b.SealsAll v) : b.SealsAll v.collapse := by
  unfold SealsAll
  rwa [Value.leaves_collapse]

theorem of_mem {items : List Value} (h : b.SealsAll (.list items)) {item : Value}
    (hitem : item ∈ items) : b.SealsAll item :=
  fun x hx => h x (Value.mem_leaves_list hitem hx)

end SealsAll

theorem IsSealed.wrapPattern {b : Builtin} {v : Value} (h : b.IsSealed v) :
    b.IsSealed v.wrapPattern := by
  cases v with
  | text s =>
    unfold Value.wrapPattern
    dsimp only
    split <;> exact trivial
  | _ => exact h

end Builtin

namespace Condition

variable {b : Builtin}

theorem balanced_field {f : Field}
    (h : ∀ n ∈ f.parts, b.delimiters = .bracket → IsPlainName n) :
    Balanced (f.render b.dialect.toLexicon) := by
  refine balanced_of_spells (spells_field b false f) (fun c hc => ?_) fun n hn hd => ?_
  · rcases mark_of_mem_field_tokens hc with rfl | rfl <;> decide
  · rcases mem_field_tokens hn with ⟨c, hc⟩ | ⟨m, hm, heq⟩
    · cases hc
    · obtain rfl := Token.name.inj heq
      exact h n hm hd

theorem balanced_literal {v : Value} (hv : b.IsSealed v) :
    Gives Balanced (b.dialect.literal v) := by
  intro s hs
  have hquoted : ∀ t : String, Balanced (b.dialect.quoteText t) := fun t =>
    balanced_of_spells (spells_quoteText b false t)
      (fun c hc => nomatch List.mem_singleton.mp hc) fun n hn => nomatch List.mem_singleton.mp hn
  rw [literal_eq] at hs
  cases v with
  | null =>
    cases hs
    exact .plain (plain_of_all (p := isLexical) (by decide)
      (List.all_eq_true.mp (by cases b <;> decide)))
  | bool x =>
    cases hs
    exact .plain (plain_of_all (p := isLexical) (by decide)
      (List.all_eq_true.mp (by cases b <;> cases x <;> decide)))
  | int n =>
    cases hs
    exact .plain (plain_of_all (p := isNumeral) (by decide) fun c hc => numeral_of_mem_int hc)
  | float x =>
    obtain ⟨hfinite, rfl⟩ := floatLiteral_eq_ok_iff.mp hs
    exact .plain (plain_of_all (p := isNumeral) (by decide)
      fun c hc => numeral_of_mem_float hfinite hc)
  | text t =>
    cases hs
    exact hquoted t
  | json document =>
    cases hs
    exact hquoted document.write
  | field f =>
    cases hs
    exact balanced_field hv
  | raw sql => exact absurd hv id
  | query q => exact absurd hv id
  | list items => cases hs
  | dict entries => cases hs

theorem plain_functionName {func : String} (h : IsPlainName func) :
    IsPlainName (FieldExpr.functionName b.dialect.toLexicon func) := by
  rcases functionName_cases b func with hname | ⟨other, hother, hname⟩
  · rw [hname]
    exact plain_upper h
  · rw [hname]
    exact plain_upper (plain_of_all (p := isLexical) (by decide)
      (transactFunction_lexical hother))

/-- The field of a condition, under a function or not. -/
theorem balanced_ofKey {key : String} {t : ConditionTerm} (h : ConditionTerm.ofKey key = .ok t) :
    Balanced (t.field.render b.dialect.toLexicon) := by
  obtain ⟨hbare, hparts, hfunc⟩ := field_of_ofKey h
  have hfield : Balanced (t.field.field.render b.dialect.toLexicon) :=
    balanced_field fun n hn _ => plain_of_conditionText (hparts n hn)
  unfold FieldExpr.render FieldExpr.renderBare
  rw [hbare]
  cases hf : t.field.func with
  | none => exact hfield
  | some func =>
    have hname := plain_functionName (b := b) (plain_of_conditionText (hfunc func hf))
    have hdistinct : IsPlainName (if t.field.distinct then "DISTINCT " else "") := by
      cases t.field.distinct <;> decide
    have hcall := (Balanced.plain hname).append ((Balanced.plain hdistinct).append hfield).parens
    simpa only [String.append_assoc] using hcall

end Condition

/-! ## Conditions on a field -/

namespace Condition

variable {b : Builtin}

theorem gives_nonEmpty (field : String) (items : List Value) :
    Gives (· = items) (Renderer.nonEmpty field items) := by
  cases items with
  | nil => exact .error _
  | cons item rest => exact .pure rfl

section

variable {field : String} (hfield : Balanced field)
include hfield

theorem Balanced.infixed {op s : String} (hop : IsPlainName op) (hs : Balanced s) :
    Balanced (field ++ " " ++ op ++ " " ++ s) := by
  have hspace : Balanced " " := .plain (by decide)
  exact (((hfield.append hspace).append (.plain hop)).append hspace).append hs

theorem Balanced.enclosed {op s : String} (hop : IsPlainName op) (hs : Balanced s) :
    Balanced (field ++ " " ++ op ++ " (" ++ s ++ ")") := by
  have hopen : " (" = " " ++ "(" := rfl
  simpa only [hopen, String.append_assoc] using hfield.infixed hop hs.parens

theorem balanced_membership {op listOp : String} (hop : IsPlainName op)
    (hlist : IsPlainName listOp) {v : Value} (hv : b.SealsAll v) :
    Gives Balanced (b.dialect.membership op listOp field v) := by
  unfold Renderer.membership
  have hcollapse := hv.collapse
  generalize v.collapse = w at hcollapse
  cases w with
  | list items =>
    refine .bind (gives_nonEmpty field items) fun _ hitems => ?_
    subst hitems
    refine .bind (.mapM fun item hitem => balanced_literal (hcollapse.of_mem hitem).self)
      fun ss hss => .pure ?_
    have hcomma : IsPlainName "," := by decide
    exact hfield.enclosed hlist (Balanced.join hcomma hss)
  | query q => exact absurd hcollapse.self id
  | _ => exact .bind (balanced_literal hcollapse.self) fun s hs => .pure (hfield.infixed hop hs)

theorem balanced_matchOne {op : String} (hop : IsPlainName op) {v : Value} (hv : b.SealsAll v) :
    Gives Balanced (b.dialect.matchOne op field v) :=
  .bind (balanced_literal hv.self.wrapPattern) fun _ hs => .pure (hfield.infixed hop hs)

theorem balanced_pattern {op joiner : String} (hop : IsPlainName op) (hjoiner : IsPlainName joiner)
    {v : Value} (hv : b.SealsAll v) :
    Gives Balanced (b.dialect.pattern op joiner field v) := by
  unfold Renderer.pattern
  have hcollapse := hv.collapse
  generalize v.collapse = w at hcollapse
  cases w with
  | list items =>
    refine .bind (gives_nonEmpty field items) fun _ hitems => ?_
    subst hitems
    exact .bind (.mapM fun item hitem => balanced_matchOne hfield hop (hcollapse.of_mem hitem))
      fun ss hss => .pure (Balanced.join hjoiner hss).parens
  | _ => exact balanced_matchOne hfield hop hcollapse

theorem balanced_range {op : String} (hop : IsPlainName op) {v : Value} (hv : b.SealsAll v) :
    Gives Balanced (b.dialect.range op field v) := by
  unfold Renderer.range
  split
  · next low high =>
    refine .bind (balanced_literal (hv.of_mem List.mem_cons_self).self) fun s hs => ?_
    refine .bind (balanced_literal (hv.of_mem (List.mem_cons_of_mem _ List.mem_cons_self)).self)
      fun t ht => .pure ?_
    have hand : Balanced " AND " := .plain (by decide)
    exact ((hfield.infixed hop hs).append hand).append ht
  · exact .error _

theorem balanced_infixed {op : String} (hop : IsPlainName op) {v : Value} (hv : b.SealsAll v) :
    Gives Balanced (b.dialect.infixed op field v) := by
  unfold Renderer.infixed
  by_cases hq : isQuantified op = true
  · rw [if_pos hq]
    cases v with
    | field f => exact .pure (hfield.enclosed (plain_upper hop) (balanced_field hv.self))
    | raw sql => exact absurd hv.self id
    | query q => exact absurd hv.self id
    | _ => exact .error _
  · rw [if_neg hq]
    exact .bind (balanced_literal hv.self) fun s hs => .pure (hfield.infixed hop hs)

theorem balanced_nullTest (v : Value) : Gives Balanced (Renderer.nullTest field v) := by
  have htest : Balanced " IS NULL" := .plain (by decide)
  unfold Renderer.nullTest
  split
  · exact .pure (hfield.append htest)
  · exact .error _

theorem balanced_condition {token : Option String} (h : ∀ op, token = some op → IsPlainName op)
    {v : Value} (hv : b.SealsAll v) : Gives Balanced (b.dialect.condition token field v) := by
  have hnamed : ∀ rule ∈ Rule.named, ∀ w ∈ rule.words, IsPlainName w := by decide
  have hwords := forall_words b hnamed h
  rw [condition_eq_rule]
  generalize b.rule token = rule at hwords
  unfold Rule.condition
  cases rule with
  | member op listOp =>
    exact balanced_membership hfield (hwords _ List.mem_cons_self)
      (hwords _ (List.mem_cons_of_mem _ List.mem_cons_self)) hv
  | pattern op joiner =>
    exact balanced_pattern hfield (hwords _ List.mem_cons_self)
      (hwords _ (List.mem_cons_of_mem _ List.mem_cons_self)) hv
  | range op => exact balanced_range hfield (hwords _ List.mem_cons_self) hv
  | null => exact balanced_nullTest hfield v
  | plain op => exact balanced_infixed hfield (hwords _ List.mem_cons_self) hv

end

theorem balanced_leaf {name : String} {v : Value} (h : b.SealedLeaf name v) :
    Gives Balanced (leaf b.dialect name v) := by
  intro s hs
  obtain ⟨t, u, ht, hu, rfl⟩ := exists_of_leaf hs
  have hbalanced := balanced_condition (balanced_ofKey ht) (h.operator ht) h.values u hu
  by_cases hneg : t.negated = true
  · rw [if_pos hneg]
    exact (Balanced.plain (by decide)).append hbalanced
  · rwa [if_neg hneg]

/-! ## Trees -/

theorem balanced_group (c : Connective) {ss : List String} (h : ∀ s ∈ ss, Balanced s) :
    Balanced (c.group ss) := by
  have hsep : IsPlainName c.separator := by cases c <;> decide
  unfold Connective.group
  split
  · exact h _ List.mem_cons_self
  · exact (Balanced.join hsep h).parens

namespace Tree

mutual

theorem balanced_render : ∀ t : Tree, t.Every b.SealedLeaf → Gives Balanced (t.render b.dialect)
  | raw _, h => absurd h id
  | broken e, _ => by
    rw [render]
    exact .error e
  | leaf name v, h => by
    rw [render]
    exact balanced_leaf h
  | group c members, h => by
    rw [render]
    exact .bind (balanced_renderAll members h) fun ss hss => .pure (balanced_group c hss)

theorem balanced_renderAll : ∀ ts : List Tree, EveryOf b.SealedLeaf ts →
    Gives (fun ss => ∀ s ∈ ss, Balanced s) (renderAll b.dialect ts)
  | [], _ => by
    rw [renderAll]
    exact .pure fun s hs => nomatch hs
  | t :: rest, h => by
    rw [renderAll]
    refine .bind (balanced_render t h.1) fun s hs => ?_
    refine .bind (balanced_renderAll rest h.2) fun ss hss => .pure ?_
    exact List.forall_mem_cons.mpr ⟨hs, hss⟩

end

end Tree

end Condition

end TerseSql
