import TerseSql.Proofs.Added
import TerseSql.Proofs.Blank.Condition
import TerseSql.Proofs.Comment.Line
import TerseSql.Proofs.Condition.Inside

/-!
# Updates and comments

An update by arithmetic on fields keeps its predicate outside comments unless it subtracts a
negative number. Then the assignment opens a comment that the predicate is in.
-/

namespace TerseSql

open Lexing Condition Statement

namespace Lexing

/-! ## Predicates -/

/-- A text that spells tokens, whatever the other text is. -/
def spelled (r : Rules) : TextRelation r where
  holds s _ _ := ∃ ts, Spells r s ts
  empty := ⟨[], Spells.empty⟩
  joint := by
    intro s s' t t' sep a b ⟨ts, hs⟩ hsep ⟨us, ht⟩
    exact ⟨_, hs.joint hsep ht⟩

end Lexing

namespace Builtin

variable (b : Builtin)

/-- A value that is no raw SQL. What a query in it is made of opens no comment. -/
def IsTame : Value → Prop
  | .raw _ => False
  | .query q => ∃ ts, Spells (b.rules true) q.sql ts
  | _ => True

def TameLeaf (name : String) (v : Value) : Prop :=
  (∀ t, ConditionTerm.ofKey name = .ok t → ∀ token, t.operator = some token →
    (Operator.ofToken? token).isSome = true) ∧ ∀ x ∈ v.leaves, b.IsTame x

theorem spelled_suits : (spelled (b.rules true)).Suits where
  text s _ := ⟨_, spells_quoteText b true s⟩
  field := by
    intro key t ht
    obtain ⟨hbare, _, hfunc⟩ := field_of_ofKey ht
    exact ⟨_, spells_fieldExpr b true hbare fun func hf c hc =>
      calm_of_conditionText _ (hfunc func hf c hc)⟩

theorem spelled_admits {v : Value} (h : b.IsTame v) : (spelled (b.rules true)).Admits v := by
  have hself : Alike ((spelled (b.rules true)).holds · · []) (b.dialect.literal v)
      (b.dialect.literal v) := by
    cases hv : b.dialect.literal v with
    | error e => exact .error
    | ok s =>
      refine .ok ?_
      cases v with
      | query q =>
        rw [literal_eq] at hv
        cases hv
        exact h
      | raw sql => exact absurd h id
      | _ => exact ⟨_, spells_literal b true hv (by simp) (by simp)⟩
  cases v with
  | text s => exact trivial
  | list items => exact trivial
  | dict entries => exact trivial
  | _ => exact hself

theorem tameLeaf_admits {name : String} {v : Value} (h : b.TameLeaf name v) :
    (spelled (b.rules true)).AdmitsLeaf name v where
  knows := fun t ht token htoken => Or.inr (Or.inl (h.1 t ht token htoken))
  separates := fun ht => named_separates (rule_mem_named_of_operator (h.1 _ ht))
  covers := fun x hx => b.spelled_admits (h.2 x hx)

theorem spells_predicate {conditions : Dict Value}
    (h : Tree.EveryOf b.TameLeaf (Tree.ofDict conditions)) {predicate : String}
    (hrender : Condition.render b.dialect conditions = .ok predicate) :
    ∃ ts, Spells (b.rules true) predicate ts := by
  have htrees := trees_alike b.spelled_suits (Tree.ofDict conditions)
    (Tree.everyOf_imp (fun _ _ => b.tameLeaf_admits) _ h)
  have hand : (b.rules true).isSeparator " AND " = true := isSeparator_of_steady (by decide)
  obtain ⟨ss, hall, rfl⟩ := Tree.exists_of_render hrender
  rw [hall] at htrees
  generalize Tree.renderAll b.dialect (Tree.blankAll (Tree.ofDict conditions)) = blank at htrees
  generalize Tree.textsOf b (Tree.ofDict conditions) = texts at htrees
  obtain ⟨hss⟩ := htrees
  have hjoin := TextRelation.join hand hss
  cases hss with
  | nil => exact hjoin
  | @cons s _ ss _ _ _ hfirst hrest =>
    cases hrest with
    | cons _ _ => exact hjoin
    | nil =>
      obtain ⟨ts, hs⟩ := hfirst
      rw [conjoin]
      cases hinside : inside? s with
      | none => exact ⟨ts, hs⟩
      | some inner =>
        obtain ⟨mid, _, hmid⟩ := spells_inner hs (inside?_eq_some_iff.mp hinside).1
        exact ⟨mid, hmid⟩

end Builtin

/-! ## Assignments -/

namespace Assignment

/-- An entry of SET that subtracts a negative number. -/
def SubtractsNegative (e : Key × Value) : Prop :=
  ∃ n : Int64, n.toInt < 0 ∧ IsArithmetic .sub n e

variable {b : Builtin}

/-- A text of assignments on one line, which opens a comment exactly if one of them subtracts a
negative number. -/
structure IsSetText (b : Builtin) (entries : List (Key × Value)) (s : String) : Prop where
  oneLine : IsOneLine s
  opens : (∃ e ∈ entries, SubtractsNegative e) → ∃ ts body, OpensLine (b.rules true) s ts body
  spells : (¬∃ e ∈ entries, SubtractsNegative e) → ∃ ts, Spells (b.rules true) s ts

theorem isSetText_nil : IsSetText b [] "" where
  oneLine := by decide
  opens := fun ⟨_, he, _⟩ => nomatch he
  spells := fun _ => ⟨[], Spells.empty⟩

theorem IsSetText.cons {e : Key × Value} {entries : List (Key × Value)} {s t : String}
    (hs : IsSetText b [e] s) (ht : IsSetText b entries t) :
    IsSetText b (e :: entries) (s ++ "," ++ t) where
  oneLine := (hs.oneLine.append (by decide)).append ht.oneLine
  opens := by
    intro hbad
    have hcomma : (b.rules true).isSeparator "," = true := isSeparator_of_steady (by decide)
    by_cases hfirst : ∃ e' ∈ [e], SubtractsNegative e'
    · obtain ⟨ts, body, hopens⟩ := hs.opens hfirst
      exact ⟨ts, _, (hopens.append (by decide)).append ht.oneLine⟩
    · obtain ⟨e', he', hneg⟩ := hbad
      have hrest : e' ∈ entries := by
        rcases List.mem_cons.mp he' with rfl | hrest
        · exact absurd ⟨e', List.mem_cons_self, hneg⟩ hfirst
        · exact hrest
      obtain ⟨us, hus⟩ := hs.spells hfirst
      obtain ⟨ts, body, hopens⟩ := ht.opens ⟨e', hrest, hneg⟩
      exact ⟨_, body, hopens.joint hus hcomma⟩
  spells := by
    intro hnot
    have hcomma : (b.rules true).isSeparator "," = true := isSeparator_of_steady (by decide)
    obtain ⟨us, hus⟩ := hs.spells fun ⟨e', he', hneg⟩ =>
      hnot ⟨e', List.mem_cons.mpr (Or.inl (List.mem_singleton.mp he')), hneg⟩
    obtain ⟨ts, hts⟩ := ht.spells fun ⟨e', he', hneg⟩ =>
      hnot ⟨e', List.mem_cons_of_mem _ he', hneg⟩
    exact ⟨_, hus.joint hcomma hts⟩

theorem exists_entry {e : Key × Value} (h : ∃ op n, IsArithmetic op n e) :
    ∃ s, entry b.dialect e = .ok s ∧ IsSetText b [e] s := by
  obtain ⟨op, n, harith⟩ := h
  obtain ⟨key, f, rfl, hkey⟩ := harith
  have hentry := entry_int b hkey n
  refine ⟨_, hentry, oneLine_arithmetic b ⟨key, f, rfl, hkey⟩ hentry, ?_, fun hnot => ?_⟩
  · rintro ⟨e, he, m, hneg, key', f', rfl, hkey'⟩
    cases List.mem_singleton.mp he
    rw [hkey] at hkey'
    have hop : op = .sub := by
      injection hkey' with hterm
      injection hterm with _ hoperator
      injection hoperator with hsymbol
      revert hsymbol
      cases op <;> decide
    subst hop
    exact ⟨_, _, opensLine_sub (spellsName_assignment b f) hneg⟩
  · have hgood : ¬(op = .sub ∧ n.toInt < 0) := by
      rintro ⟨rfl, hneg⟩
      exact hnot ⟨_, List.mem_singleton_self _, n, hneg, key, f, rfl, hkey⟩
    exact ⟨_, spells_arithmetic (spellsName_assignment b f) hgood⟩

theorem exists_render {entries : List (Key × Value)}
    (h : ∀ e ∈ entries, ∃ op n, IsArithmetic op n e) :
    ∃ ss, entries.mapM (entry b.dialect) = .ok ss ∧ ss.length = entries.length ∧
      IsSetText b entries (Text.join "," ss) := by
  induction entries with
  | nil => exact ⟨[], rfl, rfl, isSetText_nil⟩
  | cons e rest ih =>
    obtain ⟨s, hs, htext⟩ := exists_entry (b := b) (h e List.mem_cons_self)
    obtain ⟨ss, hss, hlength, hrest⟩ := ih fun e' he' => h e' (List.mem_cons_of_mem _ he')
    have hall : (e :: rest).mapM (entry b.dialect) = .ok (s :: ss) := by
      rw [List.mapM_cons, hs, hss]
      rfl
    refine ⟨s :: ss, hall, congrArg (· + 1) hlength, ?_⟩
    cases ss with
    | nil =>
      obtain rfl := List.length_eq_zero_iff.mp hlength.symm
      exact htext
    | cons t ss => exact htext.cons hrest

end Assignment

/-! ## Updates -/

theorem spells_table (b : Builtin) (t : Table) :
    ∃ ts, Spells (b.rules true) (t.render b.dialect.toLexicon) ts := by
  have hdot : (b.rules true).isSeparator "." = true := isSeparator_of_steady (by decide)
  unfold Table.render
  cases t.schema with
  | some schema => exact ⟨_, (spells_quote b true schema).joint hdot (spells_quote b true t.name)⟩
  | none => exact ⟨_, spells_quote b true t.name⟩

theorem exists_spells_join {r : Rules} {sep : String} (hsep : r.isSeparator sep = true) :
    ∀ {ss : List String}, (∀ s ∈ ss, ∃ ts, Spells r s ts) → ∃ ts, Spells r (Text.join sep ss) ts
  | [], _ => ⟨[], Spells.empty⟩
  | [s], h => h s List.mem_cons_self
  | s :: t :: rest, h => by
    obtain ⟨ts, hs⟩ := h s List.mem_cons_self
    obtain ⟨us, hrest⟩ := exists_spells_join hsep fun u hu => h u (List.mem_cons_of_mem s hu)
    exact ⟨_, hs.joint hsep hrest⟩

theorem run_update {d : Dialect} {s : Statement} {table : String} {sets conditions : Dict Value}
    (hne : conditions.isEmpty = false)
    (hok : (Call.run d s (.update table sets (some conditions))).error = none) :
    ∃ t assignments predicate, Table.ofText table = .ok t ∧
      Assignment.render d sets = .ok assignments ∧
      Condition.render d conditions = .ok predicate ∧
      (Call.run d s (.update table sets (some conditions))).statement =
        s.push ["UPDATE", t.render d.toLexicon, "SET", assignments, "WHERE", predicate] := by
  have hupdate : ((Clause.update table).add d).Adds (tableTerms d "UPDATE" table) :=
    adds_withTable d "UPDATE" table
  have hset : ((Clause.set sets).add d).Adds (setTerms d sets) := adds_set d sets
  have hfilter : ((Clause.filter conditions).add d).Adds (predicateTerms d "WHERE" conditions) :=
    adds_withPredicate d "WHERE" conditions
  have hrun : Call.run d s (.update table sets (some conditions)) =
      Plan.run d [.ok (.update table), .ok (.set sets), .ok (.filter conditions)] s := rfl
  rw [hrun] at hok ⊢
  -- The call is three clauses, each of which adds its terms and leaves the rest of the plan.
  obtain ⟨first, hfirst, hrest⟩ := Plan.exists_terms hupdate hok
  rw [hrest] at hok ⊢
  obtain ⟨second, hsecond, hrest⟩ := Plan.exists_terms hset hok
  rw [hrest] at hok ⊢
  obtain ⟨third, hthird, hrest⟩ := Plan.exists_terms hfilter hok
  rw [hrest]
  unfold tableTerms at hfirst
  unfold setTerms at hsecond
  unfold predicateTerms at hthird
  rw [if_neg (Bool.eq_false_iff.mp hne)] at hthird
  obtain ⟨t, ht, hfirst⟩ := Built.exists_of_bind hfirst
  obtain ⟨assignments, ha, hsecond⟩ := Built.exists_of_bind hsecond
  obtain ⟨predicate, hp, hthird⟩ := Built.exists_of_bind hthird
  cases hfirst
  cases hsecond
  cases hthird
  refine ⟨t, assignments, predicate, ht, ha, hp, ?_⟩
  simp [Plan.run, Statement.push]

section

variable {b : Builtin} {target assignments predicate : String}

theorem spells_update (htarget : ∃ ts, Spells (b.rules true) target ts)
    (hassignments : ∃ ts, Spells (b.rules true) assignments ts)
    (hpredicate : ∃ ts, Spells (b.rules true) predicate ts) {terms : List String}
    (hterms : terms ⊆ ["UPDATE", target, "SET", assignments, "WHERE", predicate]) :
    ∃ ts, Spells (b.rules true) (Text.join " " terms) ts := by
  have hspace : (b.rules true).isSeparator " " = true := isSeparator_of_steady (by decide)
  refine exists_spells_join hspace fun term hterm => ?_
  have hmem := hterms hterm
  simp only [List.mem_cons, List.not_mem_nil, or_false] at hmem
  rcases hmem with rfl | rfl | rfl | rfl | rfl | rfl
  · exact ⟨_, spells_lexical (by decide)⟩
  · exact htarget
  · exact ⟨_, spells_lexical (by decide)⟩
  · exact hassignments
  · exact ⟨_, spells_lexical (by decide)⟩
  · exact hpredicate

/-- What follows the assignments is in a comment exactly if one of them subtracts a negative
number. -/
theorem hides_update {entries : List (Key × Value)}
    (htarget : ∃ ts, Spells (b.rules true) target ts)
    (htext : Assignment.IsSetText b entries assignments) :
    (b.rules true).hides (Text.join " " ["UPDATE", target, "SET", assignments]) = true ↔
      ∃ e ∈ entries, Assignment.SubtractsNegative e := by
  have hspace : (b.rules true).isSeparator " " = true := isSeparator_of_steady (by decide)
  constructor
  · intro hhides
    by_cases hbad : ∃ e ∈ entries, Assignment.SubtractsNegative e
    · exact hbad
    · obtain ⟨ts, hhead⟩ := spells_update htarget (htext.spells hbad) htarget
        (List.take_subset 4 _)
      have hnot : (b.rules true).hides
          (Text.join " " ["UPDATE", target, "SET", assignments]) = false := hhead.not_hides
      rw [hnot] at hhides
      cases hhides
  · intro hbad
    obtain ⟨us, htarget⟩ := htarget
    obtain ⟨ts, body, hline⟩ := htext.opens hbad
    have hset := hline.joint (spells_lexical (s := "SET") (by decide)) hspace
    have hupdate := (hset.joint htarget hspace).joint (spells_lexical (s := "UPDATE") (by decide)) hspace
    exact hupdate.hides rfl

end

/-- How arithmetic with integers is read. It opens a comment exactly where a negative number is
subtracted, and then the predicate of an update is in that comment. -/
theorem Arith.comments (b : Builtin) :
    (∀ (f : Field) (op : Arith) (n : Int64), ∃ sql,
      f.compute b.dialect.toRenderer op (.int n) = .ok ⟨sql⟩ ∧
        (b.rules true).scan sql = some (f.tokens ++ op.tokens n.toInt)) ∧
    (∀ (key : String) (f : Field) (op : Arith) (n : Int64),
      AssignmentTerm.ofKey key = .ok ⟨f, some op.symbol⟩ → ∃ sql,
        Assignment.entry b.dialect (.name key, .int n) = .ok sql ∧
          (b.rules true).scan sql =
            some (f.tokens ++ marks "=" ++ f.tokens ++ op.tokens n.toInt)) ∧
    ∀ (s : Statement) (table : String) (sets conditions : Dict Value),
      (∀ e ∈ sets.entries, ∃ op n, Assignment.IsArithmetic op n e) →
      conditions.isEmpty = false → Tree.EveryOf b.TameLeaf (Tree.ofDict conditions) →
      (Call.run b.dialect s (.update table sets (some conditions))).error = none →
      ∃ target assignments predicate,
        (Call.run b.dialect s (.update table sets (some conditions))).statement =
          s.push ["UPDATE", target, "SET", assignments, "WHERE", predicate] ∧
        ((b.rules true).hides (Text.join " " ["UPDATE", target, "SET", assignments]) = true ↔
          ∃ e ∈ sets.entries, Assignment.SubtractsNegative e) ∧
        ((¬∃ e ∈ sets.entries, Assignment.SubtractsNegative e) → ∃ ts,
          (b.rules true).scan (Text.join " "
            ["UPDATE", target, "SET", assignments, "WHERE", predicate]) = some ts ∧
          ∀ text, .comment text ∉ ts) := by
  refine ⟨fun f op n => ?_, fun key f op n hkey => ?_, ?_⟩
  · exact ⟨_, f.compute_int b op n, scan_arithmetic (spellsName_field b f) op n.toInt⟩
  · exact ⟨_, Assignment.entry_int b hkey n,
      scan_arithmetic (spellsName_assignment b f) op n.toInt⟩
  · intro s table sets conditions hsets hne hconditions hok
    obtain ⟨t, assignments, predicate, _, hassign, hpredicate, hstatement⟩ := run_update hne hok
    have htarget := spells_table b t
    have hpredicate := b.spells_predicate hconditions hpredicate
    obtain ⟨ss, hss, _, htext⟩ := Assignment.exists_render (b := b) hsets
    have hassignments : assignments = Text.join "," ss := by
      unfold Assignment.render at hassign
      rw [hss] at hassign
      exact (Except.ok.inj hassign).symm
    rw [← hassignments] at htext
    refine ⟨_, assignments, predicate, hstatement, hides_update htarget htext, fun hgood => ?_⟩
    obtain ⟨ts, hall⟩ := spells_update htarget (htext.spells hgood) hpredicate
      (List.Subset.refl _)
    exact ⟨ts, hall.scan, fun text hcomment => hall.fits.writes _ hcomment⟩

/-- Adding one by subtracting minus one loses the predicate. -/
theorem Arith.comments_of_minus_one :
    ∃ target assignments predicate,
      (Call.run Builtin.generic.dialect .empty
        (.update "t" ⟨[(.name "n[-]", .int (-1))]⟩ (some ⟨[(.name "id", .int 1)]⟩))).statement =
          Statement.empty.push ["UPDATE", target, "SET", assignments, "WHERE", predicate] ∧
      (Builtin.generic.rules true).hides
        (Text.join " " ["UPDATE", target, "SET", assignments]) = true := by
  have harith : Assignment.IsArithmetic .sub (-1) (.name "n[-]", .int (-1)) :=
    ⟨"n[-]", ⟨none, none, "n"⟩, rfl, rfl⟩
  have hsets : ∀ e ∈ [(Key.name "n[-]", Value.int (-1))], ∃ op n, Assignment.IsArithmetic op n e := by
    intro e he
    obtain rfl := List.mem_singleton.mp he
    exact ⟨.sub, -1, harith⟩
  have htame : Builtin.generic.TameLeaf "id" (.int 1) := by
    refine ⟨fun t ht token htoken => ?_, fun x hx => ?_⟩
    · have hkey : ConditionTerm.ofKey "id" =
          .ok ⟨false, ⟨⟨none, none, "id"⟩, none, false, none⟩, none⟩ := rfl
      rw [hkey] at ht
      cases ht
      cases htoken
    · obtain rfl := List.mem_singleton.mp hx
      exact trivial
  obtain ⟨target, assignments, predicate, hstatement, hhides, _⟩ :=
    (Arith.comments .generic).2.2 .empty "t" ⟨[(.name "n[-]", .int (-1))]⟩
      ⟨[(.name "id", .int 1)]⟩ hsets rfl ⟨htame, trivial⟩ rfl
  exact ⟨target, assignments, predicate, hstatement,
    hhides.mpr ⟨_, List.mem_singleton_self _, -1, by decide, harith⟩⟩

end TerseSql
