import TerseSql.Proofs.Added
import TerseSql.Proofs.Condition.Inside
import TerseSql.Proofs.Condition.Rule
import TerseSql.Proofs.Condition.Tree
import TerseSql.Proofs.Lexing.Term

/-!
# Texts that are no keywords

The place of a window in WHERE is found by terms that are keywords. A text with a character
that no keyword is spelled with cannot be mistaken for one, and quoted names have such
characters, so only raw SQL and queries can.
-/

namespace TerseSql

open Statement

/-! ## Keywords -/

def keywords : List String :=
  ["WHERE", "UNION", "UNION ALL", "ORDER BY", "GROUP BY", "HAVING"]

namespace Text

/-- A character that is no parenthesis and that no keyword is spelled with. -/
def isForeign (c : Char) : Bool :=
  c != '(' && c != ')' && keywords.all fun k => !k.toList.contains c

def hasForeign (s : String) : Bool :=
  s.toList.any isForeign

@[simp]
theorem hasForeign_append (s t : String) : hasForeign (s ++ t) = (hasForeign s || hasForeign t) := by
  simp [hasForeign]

theorem not_keyword_of_foreign {s : String} (h : hasForeign s = true) : s ∉ keywords := by
  intro hs
  obtain ⟨c, hc, hforeign⟩ := List.any_eq_true.mp h
  unfold isForeign at hforeign
  rw [Bool.and_eq_true] at hforeign
  have hnot := List.all_eq_true.mp hforeign.2 s hs
  simp [hc] at hnot

theorem not_keyword_of_spaces {s : String} (h : 2 ≤ s.toList.count ' ') : s ∉ keywords := by
  have hall : ∀ k ∈ keywords, k.toList.count ' ' ≤ 1 := by decide
  intro hs
  have := hall s hs
  omega

theorem any_join {p : Char → Bool} {sep s : String} {ss : List String} (hs : s ∈ ss)
    (h : s.toList.any p = true) : (join sep ss).toList.any p = true := by
  induction ss with
  | nil => cases hs
  | cons t ss ih =>
    cases ss with
    | nil =>
      obtain rfl := List.mem_singleton.mp hs
      exact h
    | cons u ss =>
      simp only [join, String.toList_append, List.any_append, Bool.or_eq_true]
      rcases List.mem_cons.mp hs with rfl | hs
      · exact Or.inl (Or.inl h)
      · exact Or.inr (ih hs)

theorem hasForeign_join {sep s : String} {ss : List String} (hs : s ∈ ss)
    (h : hasForeign s = true) : hasForeign (join sep ss) = true :=
  any_join hs h

theorem join_not_keyword {sep : String} (hsep : hasForeign sep = true) {ss : List String}
    (h : ∀ s ∈ ss, s ∉ keywords) : join sep ss ∉ keywords := by
  cases ss with
  | nil =>
    show "" ∉ keywords
    decide
  | cons s ss =>
    cases ss with
    | nil => exact h s List.mem_cons_self
    | cons t ss =>
      apply not_keyword_of_foreign
      rw [join, hasForeign_append, hasForeign_append, hsep]
      simp

end Text

open Text

/-! ## Names -/

namespace Text

def isNaming (c : Char) : Bool :=
  c == '*' || c == '"' || c == '\x60' || c == '['

def hasNaming (s : String) : Bool :=
  s.toList.any isNaming

@[simp]
theorem hasNaming_append (s t : String) : hasNaming (s ++ t) = (hasNaming s || hasNaming t) := by
  simp [hasNaming]

theorem hasNaming_join {sep s : String} {ss : List String} (hs : s ∈ ss)
    (h : hasNaming s = true) : hasNaming (join sep ss) = true :=
  any_join hs h

theorem hasForeign_of_naming {s : String} (h : hasNaming s = true) : hasForeign s = true := by
  have hall : ∀ c, isNaming c = true → isForeign c = true := by
    intro c hc
    simp only [isNaming, Bool.or_eq_true, beq_iff_eq] at hc
    rcases hc with ((rfl | rfl) | rfl) | rfl <;> decide
  unfold hasForeign
  rw [List.any_eq_true]
  obtain ⟨c, hc, hnaming⟩ := List.any_eq_true.mp h
  exact ⟨c, hc, hall c hnaming⟩

end Text

section

variable (b : Builtin)

@[simp]
theorem hasNaming_quote (s : String) : hasNaming (b.dialect.quote s) = true := by
  have hopening : isNaming b.delimiters.opening = true := by cases b <;> decide
  rw [Builtin.quote_eq]
  by_cases hstar : s = "*"
  · rw [if_pos hstar, hstar]
    decide
  · rw [if_neg hstar]
    simp [Delimiters.quote, Text.quoted, hasNaming, hopening]

@[simp]
theorem hasNaming_field (f : Field) : hasNaming (f.render b.dialect.toLexicon) = true := by
  have hname : b.dialect.quote f.name ∈ f.parts.map b.dialect.quote :=
    List.mem_map_of_mem (by simp [Field.parts])
  exact hasNaming_join hname (hasNaming_quote b f.name)

theorem hasNaming_fieldExpr (e : FieldExpr) :
    hasNaming (e.render b.dialect.toLexicon) = true := by
  have hbare : hasNaming (e.renderBare b.dialect.toLexicon) = true := by
    unfold FieldExpr.renderBare
    cases e.func <;> simp
  unfold FieldExpr.render
  cases e.aliasName <;> simp [hbare]

@[simp]
theorem hasForeign_quote (s : String) : hasForeign (b.dialect.quote s) = true :=
  hasForeign_of_naming (hasNaming_quote b s)

@[simp]
theorem hasForeign_table (t : Table) : hasForeign (t.render b.dialect.toLexicon) = true := by
  unfold Table.render
  cases t.schema <;> simp

@[simp]
theorem hasForeign_aliasedTable (t : AliasedTable) :
    hasForeign (t.render b.dialect.toLexicon) = true := by
  unfold AliasedTable.render
  cases t.aliasName <;> simp

@[simp]
theorem hasForeign_field (f : Field) : hasForeign (f.render b.dialect.toLexicon) = true :=
  hasForeign_of_naming (hasNaming_field b f)

@[simp]
theorem hasForeign_fieldExpr (e : FieldExpr) :
    hasForeign (e.render b.dialect.toLexicon) = true :=
  hasForeign_of_naming (hasNaming_fieldExpr b e)

end

/-! ## Conditions on a field -/

section

variable {r : Renderer} {field : String} (hfield : hasForeign field = true)
include hfield

theorem foreign_infixed (op : String) (v : Value) :
    Gives (hasForeign · = true) (Handler.infixed op r field v) :=
  Gives.after _ fun _ => Gives.pure (by simp [hfield])

theorem foreign_membership (op listOp : String) (v : Value) :
    Gives (hasForeign · = true) (r.membership op listOp field v) := by
  unfold Renderer.membership
  split
  · refine Gives.after _ fun items => ?_
    exact Gives.after _ fun _ => Gives.pure (by simp [hfield])
  · exact Gives.pure (by simp [hfield])
  · exact Gives.after _ fun _ => Gives.pure (by simp [hfield])

theorem foreign_matchOne (op : String) (v : Value) :
    Gives (hasForeign · = true) (r.matchOne op field v) :=
  Gives.after _ fun _ => Gives.pure (by simp [hfield])

theorem foreign_pattern (op joiner : String) (v : Value) :
    Gives (hasForeign · = true) (r.pattern op joiner field v) := by
  unfold Renderer.pattern
  split
  · next items _ =>
    cases items with
    | nil => exact Gives.error _
    | cons item rest =>
      show Gives _ (do
        let matches_ ← (item :: rest).mapM (r.matchOne op field)
        return "(" ++ Text.join joiner matches_ ++ ")")
      rw [List.mapM_cons, bind_assoc]
      refine Gives.bind (foreign_matchOne hfield op item) fun first hfirst => ?_
      rw [bind_assoc]
      refine Gives.after _ fun others => ?_
      have hjoin : hasForeign (Text.join joiner (first :: others)) = true :=
        hasForeign_join List.mem_cons_self hfirst
      exact Gives.pure (by simp [hjoin])
  · exact foreign_matchOne hfield op _

theorem foreign_range (op : String) (v : Value) :
    Gives (hasForeign · = true) (r.range op field v) := by
  unfold Renderer.range
  split
  · refine Gives.after _ fun low => ?_
    exact Gives.after _ fun _ => Gives.pure (by simp [hfield])
  · exact Gives.error _

theorem foreign_nullTest (v : Value) :
    Gives (hasForeign · = true) (Renderer.nullTest field v) := by
  unfold Renderer.nullTest
  by_cases hv : v.isNull = true
  · rw [if_pos hv]
    exact Gives.pure (by simp [hfield])
  · rw [if_neg hv]
    exact Gives.error _

theorem foreign_rule (rule : Rule) (v : Value) :
    Gives (hasForeign · = true) (rule.apply r field v) := by
  cases rule with
  | member op listOp => exact foreign_membership hfield op listOp v
  | pattern op joiner => exact foreign_pattern hfield op joiner v
  | range op => exact foreign_range hfield op v
  | null => exact foreign_nullTest hfield v
  | plain op => exact foreign_infixed hfield op v

theorem foreign_default (op : String) (v : Value) :
    Gives (hasForeign · = true) (r.infixed op field v) := by
  unfold Renderer.infixed
  by_cases hop : isQuantified op = true
  · rw [if_pos hop]
    cases r.term? v with
    | none => exact Gives.error _
    | some term => exact Gives.pure (by simp [hfield])
  · rw [if_neg hop]
    exact foreign_infixed hfield op v

end

theorem foreign_condition (b : Builtin) (token : Option String) {field : String}
    (hfield : hasForeign field = true) (v : Value) :
    Gives (hasForeign · = true) (b.dialect.condition token field v) := by
  unfold Dialect.condition
  dsimp only
  generalize (token.filter fun t => !Text.isAllBlank t).getD "=" = t
  rw [find?_operators]
  cases b.ownRules.lookup (Registry.normalize t) with
  | some rule => exact foreign_rule hfield rule v
  | none =>
    rw [Option.map_none]
    cases Operator.ofToken? t with
    | some op =>
      dsimp only
      rw [render_operator]
      exact foreign_rule hfield op.rule v
    | none =>
      dsimp only
      rw [defaultOperator_eq]
      exact foreign_default hfield t v

theorem foreign_leaf (b : Builtin) (name : String) (v : Value) :
    Gives (hasForeign · = true) (Condition.leaf b.dialect name v) := by
  refine Gives.after _ fun t => ?_
  refine Gives.bind (foreign_condition b t.operator (hasForeign_fieldExpr b t.field) v)
    fun s hs => ?_
  refine Gives.pure ?_
  by_cases hneg : t.negated = true
  · simp [hneg, hs]
  · simp [hneg, hs]

/-! ## Trees of conditions -/

/-- A text that is no keyword, and would be none without parentheses around it. -/
structure Shielded (s : String) : Prop where
  bare : s ∉ keywords
  inside {inner : String} : Condition.inside? s = some inner → inner ∉ keywords

theorem foreign_inside {s inner : String} (h : hasForeign s = true)
    (hinner : Condition.inside? s = some inner) : hasForeign inner = true := by
  obtain ⟨hs, -⟩ := Condition.inside?_eq_some_iff.mp hinner
  -- A foreign character is no parenthesis, so it is found inside of them.
  unfold hasForeign at h ⊢
  have hopen : isForeign '(' = false := by decide
  have hclose : isForeign ')' = false := by decide
  rw [hs] at h
  simpa [hopen, hclose] using h

theorem Shielded.of_foreign {s : String} (h : hasForeign s = true) : Shielded s where
  bare := not_keyword_of_foreign h
  inside hinner := not_keyword_of_foreign (foreign_inside h hinner)

theorem parens_not_keyword (s : String) : "(" ++ s ++ ")" ∉ keywords := by
  have hall : ∀ k ∈ keywords, '(' ∉ k.toList := by decide
  intro hs
  exact hall _ hs (by simp)

theorem connective_not_keyword (c : Connective) {ss : List String}
    (h : ∀ s, ss ≠ [s]) : Text.join c.separator ss ∉ keywords := by
  rcases ss with _ | ⟨s, _ | ⟨t, ss⟩⟩
  · show "" ∉ keywords
    decide
  · exact absurd rfl (h s)
  · have hsep : c.separator.toList.count ' ' = 2 := by cases c <;> decide
    apply not_keyword_of_spaces
    simp only [Text.join, String.toList_append, List.count_append]
    omega

/-- A group is shielded, unless its text is that of a single member. -/
theorem Shielded.group (c : Connective) {ss : List String} (h : ∀ s, ss = [s] → Shielded s) :
    Shielded (c.group ss) := by
  by_cases hsingle : ∃ s, ss = [s]
  · obtain ⟨s, rfl⟩ := hsingle
    exact h s rfl
  · have hmany : ∀ s, ss ≠ [s] := fun s hs => hsingle ⟨s, hs⟩
    rw [c.group_eq_parens hmany]
    refine ⟨parens_not_keyword _, fun {inner} hinner => ?_⟩
    rw [Condition.eq_of_inside? hinner]
    exact connective_not_keyword c hmany

theorem conjoin_not_keyword {ss : List String} (h : ∀ s, ss = [s] → Shielded s) :
    Condition.conjoin ss ∉ keywords := by
  unfold Condition.conjoin
  split
  · next s =>
    have hs := h s rfl
    cases hinside : Condition.inside? s with
    | none => exact hs.bare
    | some inner => exact hs.inside hinside
  · next hmany => exact connective_not_keyword .and fun s hs => hmany s hs

namespace Condition.Tree

mutual

/-- The raw piece that a tree is made of, if there is nothing else in it. -/
def lone? : Tree → Option Raw
  | raw r => some r
  | group _ members => loneOf? members
  | leaf _ _ | broken _ => none

def loneOf? : List Tree → Option Raw
  | [t] => lone? t
  | _ => none

end

variable (b : Builtin)

mutual

theorem shielded_tree : ∀ t : Tree, (∀ r, t.lone? = some r → Shielded r.sql) →
    Gives Shielded (t.render b.dialect)
  | .raw r, h => by
    rw [render]
    exact Gives.pure (h r (by rw [lone?]))
  | .leaf name v, _ => by
    rw [render]
    exact fun s hs => Shielded.of_foreign (foreign_leaf b name v s hs)
  | .group c members, h => by
    rw [render]
    rw [lone?] at h
    refine Gives.bind (shielded_members members h) fun ss hss => ?_
    exact Gives.pure (Shielded.group c hss)
  | .broken e, _ => by
    rw [render]
    exact Gives.error e

theorem shielded_members : ∀ ts : List Tree, (∀ r, loneOf? ts = some r → Shielded r.sql) →
    Gives (fun ss => ∀ s, ss = [s] → Shielded s) (renderAll b.dialect ts)
  | [], _ => by
    rw [renderAll]
    exact Gives.pure fun s hs => nomatch hs
  | [t], h => by
    rw [renderAll, renderAll]
    rw [loneOf?] at h
    refine Gives.bind (shielded_tree t h) fun s hs => ?_
    refine Gives.pure fun s' hs' => ?_
    cases hs'
    exact hs
  | t :: u :: rest, _ => by
    rw [renderAll, renderAll]
    refine Gives.after _ fun s => ?_
    refine Gives.bind (P := fun ss => ss ≠ []) ?_ fun ss hss => ?_
    · refine Gives.after _ fun first => ?_
      exact Gives.after _ fun others => Gives.pure (List.cons_ne_nil _ _)
    · exact Gives.pure fun s' hs' => absurd (List.cons.inj hs').2 hss

end

/-- A predicate is no keyword, unless it is raw. -/
theorem predicate_not_keyword {conditions : Dict Value}
    (h : ∀ r, loneOf? (ofDict conditions) = some r → Shielded r.sql) :
    Gives (· ∉ keywords) (Condition.render b.dialect conditions) := by
  intro s hs
  obtain ⟨ss, hall, rfl⟩ := exists_of_render hs
  exact conjoin_not_keyword (shielded_members b _ h ss hall)

end Condition.Tree

/-! ## Lists of columns and sources -/

section

variable (b : Builtin)

theorem selectList_not_keyword {columns : List Column}
    (h : ∀ r, .raw r ∈ columns → r.sql ∉ keywords) :
    Gives (· ∉ keywords) (selectList b.dialect columns) := by
  have hcolumn : ∀ c ∈ columns, Gives (· ∉ keywords) (selected b.dialect c) := by
    intro c hc
    unfold selected
    split
    · exact Gives.pure (by decide)
    · refine Gives.after _ fun e => ?_
      exact Gives.pure (not_keyword_of_foreign (hasForeign_fieldExpr b e))
    · next r => exact Gives.pure (h r hc)
    · next f => exact Gives.pure (not_keyword_of_foreign (hasForeign_field b f))
  have hcomma : hasForeign "," = true := by decide
  unfold selectList
  by_cases hempty : columns.isEmpty = true
  · rw [if_pos hempty]
    exact Gives.pure (join_not_keyword hcomma (by decide))
  · rw [if_neg hempty]
    refine Gives.bind (Gives.mapM hcolumn) fun ss hss => ?_
    exact Gives.pure (join_not_keyword hcomma hss)

theorem selectList_named {columns : List Column} (h : ∀ r, .raw r ∉ columns) :
    Gives (hasNaming · = true) (selectList b.dialect columns) := by
  have hcolumn : ∀ c ∈ columns, Gives (hasNaming · = true) (selected b.dialect c) := by
    intro c hc
    unfold selected
    split
    · exact Gives.pure (by decide)
    · exact Gives.after _ fun e => Gives.pure (hasNaming_fieldExpr b e)
    · next r => exact absurd hc (h r)
    · next f => exact Gives.pure (hasNaming_field b f)
  unfold selectList
  cases columns with
  | nil => exact Gives.pure (by decide)
  | cons c rest =>
    rw [List.isEmpty_cons, if_neg Bool.false_ne_true, List.mapM_cons, bind_assoc]
    refine Gives.bind (hcolumn c List.mem_cons_self) fun first hfirst => ?_
    rw [bind_assoc]
    refine Gives.after _ fun others => ?_
    exact Gives.pure (hasNaming_join List.mem_cons_self hfirst)

theorem sourceList_not_keyword {sources : List Source}
    (hraw : ∀ r, .raw r ∈ sources → r.sql ∉ keywords)
    (hquery : ∀ q, .query q ∈ sources → q.sql ∉ keywords) :
    Gives (fun source => source.1 ∉ keywords) (sourceList b.dialect sources) := by
  have hsource : ∀ x ∈ sources, Gives (fun source => source.1 ∉ keywords) (source b.dialect x) := by
    intro x hx
    unfold source
    split
    · refine Gives.after _ fun t => ?_
      exact Gives.pure (not_keyword_of_foreign (hasForeign_aliasedTable b t))
    · next q => exact Gives.pure (hquery q hx)
    · next r => exact Gives.pure (hraw r hx)
  have hcomma : hasForeign "," = true := by decide
  unfold sourceList
  refine Gives.bind (Gives.mapM hsource) fun ss hss => ?_
  split
  · exact Gives.error _
  · next first primary rest =>
    refine Gives.pure ?_
    show Text.join "," (first :: rest.map (·.1)) ∉ keywords
    refine join_not_keyword hcomma fun s hs => ?_
    rcases List.mem_cons.mp hs with rfl | hs
    · exact hss _ List.mem_cons_self
    · obtain ⟨source, hsource, rfl⟩ := List.mem_map.mp hs
      exact hss source (List.mem_cons_of_mem _ hsource)

theorem groupList_not_keyword {columns : List Column}
    (h : ∀ r, .raw r ∈ columns → r.sql ∉ keywords) :
    Gives (· ∉ keywords) (groupList b.dialect columns) := by
  have hcolumn : ∀ c ∈ columns, Gives (· ∉ keywords) (grouped b.dialect c) := by
    intro c hc
    unfold grouped
    split
    · refine Gives.after _ fun f => ?_
      exact Gives.pure (not_keyword_of_foreign (hasForeign_field b f))
    · next r => exact Gives.pure (h r hc)
    · next f => exact Gives.pure (not_keyword_of_foreign (hasForeign_field b f))
  have hcomma : hasForeign "," = true := by decide
  refine Gives.bind (Gives.mapM hcolumn) fun ss hss => ?_
  exact Gives.pure (join_not_keyword hcomma hss)

theorem order_not_keyword (orders : Dict Value) :
    Gives (· ∉ keywords) (Order.render b.dialect.toLexicon orders) := by
  have hdirection : ∀ direction : Direction, hasForeign direction.sql = true := by
    intro direction
    cases direction <;> decide
  have hentry : ∀ e ∈ orders.entries, Gives (· ∉ keywords) (Order.entry b.dialect.toLexicon e) := by
    intro e _
    unfold Order.entry
    split
    · refine Gives.after _ fun direction => ?_
      exact Gives.pure (not_keyword_of_foreign (by simp [hdirection]))
    · refine Gives.after _ fun t => ?_
      exact Gives.pure (not_keyword_of_foreign (by simp [OrderTerm.render, hdirection]))
  have hcomma : hasForeign "," = true := by decide
  refine Gives.bind (Gives.mapM hentry) fun ss hss => ?_
  exact Gives.pure (join_not_keyword hcomma hss)

theorem joins_not_keyword (primary : Option Primary) (joins : Dict Value) :
    Gives (· ∉ keywords) (Join.render b.dialect.toLexicon primary joins) := by
  have hentry : ∀ e ∈ joins.entries,
      Gives (hasForeign · = true) (Join.entry b.dialect.toLexicon primary e) := by
    intro e _
    unfold Join.entry
    split
    · exact Gives.error _
    · refine Gives.after _ fun t => ?_
      unfold JoinTerm.render
      split
      · exact Gives.pure (by simp)
      · exact Gives.error _
  refine Gives.bind (Gives.mapM hentry) fun ss hss => ?_
  refine Gives.pure ?_
  cases ss with
  | nil =>
    show "" ∉ keywords
    decide
  | cons s ss =>
    apply not_keyword_of_foreign
    exact hasForeign_join List.mem_cons_self (hss s List.mem_cons_self)

end

end TerseSql
