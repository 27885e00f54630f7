import TerseSql.Proofs.Window.Conjoined
import TerseSql.Proofs.Window.Selection

/-!
# Windows of a selection

Windows may be asked for at any time among the clauses that follow WHERE, and more than once.
Where they go into WHERE there is one WHERE in the end, before those clauses, and its text is
read as the conjunction of the predicate that was asked for and the bounds of all windows.
-/

namespace TerseSql

open Lexing Reading Statement Condition

/-! ## One window after another -/

def Window.conjoinTo (predicate : List String) (w : Window) : List String :=
  conjoined (Pagination.rowNumbers w.count w.offset) predicate

theorem Window.hasForeign_rowNumbers (w : Window) :
    Text.hasForeign (Pagination.rowNumbers w.count w.offset) = true := by
  have hsign : Text.hasForeign "ROWNUM <= " = true := by decide
  rw [rowNumbers_eq]
  refine Text.hasForeign_join (List.mem_append_right _ List.mem_cons_self) ?_
  simp [hsign]

theorem plain_conjoined {fragment : String} (hfragment : Text.hasForeign fragment = true)
    {predicate : List String} (h : ∀ t ∈ predicate, t ∉ keywords) :
    ∀ t ∈ conjoined fragment predicate, t ∉ keywords := by
  intro t ht
  cases predicate with
  | nil =>
    obtain rfl := List.mem_singleton.mp ht
    exact Text.not_keyword_of_foreign hfragment
  | cons p rest =>
    -- The new term has a sign of the fragment in it, and the others were there before.
    rw [conjoined, conjoinPredicate] at ht
    by_cases hcompound : isCompound p = true
    · rw [if_pos hcompound] at ht
      rcases List.mem_cons.mp ht with rfl | ht
      · exact Text.not_keyword_of_foreign (by simp [hfragment])
      · exact h t (List.mem_cons_of_mem _ ht)
    · rw [if_neg hcompound] at ht
      rcases List.mem_cons.mp ht with rfl | ht
      · exact h _ List.mem_cons_self
      rcases List.mem_cons.mp ht with rfl | ht
      · exact Text.not_keyword_of_foreign (by simp [hfragment])
      · exact h t (List.mem_cons_of_mem _ ht)

/-- The terms of a predicate are no keywords and are read as a conjunction; without terms there
is nothing in it. -/
structure Merged (φs : List Formula) (predicate : List String) : Prop where
  gathers : (predicate = [] ∧ φs = []) ∨ Gathers .oracle φs predicate
  plain : ∀ t ∈ predicate, t ∉ keywords

namespace Merged

variable {φs : List Formula} {predicate : List String}

theorem conjoinTo (h : Merged φs predicate) {v : Value} {w : Window}
    (hw : Window.ofValue v = .ok w) : Merged (φs ++ [w.formula]) (w.conjoinTo predicate) := by
  refine ⟨Or.inr ?_, plain_conjoined w.hasForeign_rowNumbers h.plain⟩
  unfold Window.conjoinTo
  cases predicate with
  | nil =>
    have hnil : φs = [] := by
      rcases h.gathers with ⟨_, hφs⟩ | hgathers
      · exact hφs
      · cases hgathers
    subst hnil
    exact Window.gathers_rowNumbers .oracle hw
  | cons p rest =>
    have hgathers : Gathers .oracle φs (p :: rest) := by
      rcases h.gathers with ⟨hnil, _⟩ | hgathers
      · cases hnil
      · exact hgathers
    exact hgathers.conjoin (Window.readsBy_rowNumbers .oracle hw)

theorem foldl (h : Merged φs predicate) {vs : List Value} {ws : List Window}
    (hws : List.Forall₂ (fun v w => Window.ofValue v = .ok w) vs ws) :
    Merged (φs ++ ws.map Window.formula) (ws.foldl (fun ps w => w.conjoinTo ps) predicate) := by
  induction hws generalizing φs predicate with
  | nil => simpa using h
  | cons hw _ ih => simpa using ih (h.conjoinTo hw)

end Merged

/-! ## Runs in sections -/

namespace Clause

def windows : Clause → List Value
  | limit v => [v]
  | _ => []

def followsPredicate : Clause → Bool
  | limit _ => true
  | c => c.isTrailing

theorem run_sections {c : Clause} (hc : c.followsPredicate = true) (hplain : c.IsPlain)
    {x : Sections} {s t : Statement} (hs : s.terms = x.terms)
    (h : (c.add Builtin.oracle.dialect).run s = .ok () t) :
    ∃ (y : Sections) (ws : List Window), t.terms = y.terms ∧
      List.Forall₂ (fun v w => Window.ofValue v = .ok w) c.windows ws ∧
      y.predicate = ws.foldl (fun ps w => w.conjoinTo ps) x.predicate := by
  -- A clause behind the predicate that is no window goes to the tail, and no window is added.
  have htrailing : c.isTrailing = true → c.windows = [] →
      ∃ (y : Sections) (ws : List Window), t.terms = y.terms ∧
        List.Forall₂ (fun v w => Window.ofValue v = .ok w) c.windows ws ∧
        y.predicate = ws.foldl (fun ps w => w.conjoinTo ps) x.predicate := by
    intro htrailing hwindows
    obtain ⟨ts, hterms, rfl⟩ := Building.exists_of_adds (c.adds_tailTerms _ htrailing) h
    have hts := isTail_tailTerms .oracle hplain ts hterms
    rw [hwindows]
    refine ⟨x.append ts hts, [], ?_, .nil, rfl⟩
    rw [x.terms_append, ← hs]
    rfl
  cases c with
  | limit v =>
    obtain ⟨w, hw, rfl⟩ := exists_window _ s h
    refine ⟨x.conjoin (Pagination.rowNumbers w.count w.offset), [w], ?_, .cons hw .nil, rfl⟩
    rw [← x.place_terms, hs]
    rfl
  | orderBy orders => exact htrailing rfl rfl
  | groupBy columns => exact htrailing rfl rfl
  | having conditions => exact htrailing rfl rfl
  | _ => cases hc

end Clause

/-- A run keeps the sections apart: the predicate is what it was, with the windows. -/
theorem Plan.run_sections {tail : List Clause} (htail : ∀ c ∈ tail, c.followsPredicate = true)
    (hplain : ∀ c ∈ tail, c.IsPlain) {x : Sections} {s t : Statement} (hs : s.terms = x.terms)
    (h : run Builtin.oracle.dialect (tail.map .ok) s = ⟨t, none⟩) :
    ∃ (y : Sections) (ws : List Window), t.terms = y.terms ∧
      List.Forall₂ (fun v w => Window.ofValue v = .ok w) (tail.flatMap Clause.windows) ws ∧
      y.predicate = ws.foldl (fun ps w => w.conjoinTo ps) x.predicate := by
  -- The sections that one clause leaves are those that the next one starts from.
  induction tail generalizing x s with
  | nil =>
    cases h
    exact ⟨x, [], hs, .nil, rfl⟩
  | cons c tail ih =>
    obtain ⟨hc, htail⟩ := List.forall_mem_cons.mp htail
    obtain ⟨hplainC, hplain⟩ := List.forall_mem_cons.mp hplain
    rw [List.map_cons] at h
    obtain ⟨m, hrun, hrest⟩ := exists_of_run_cons h
    obtain ⟨y, ws, hm, hws, hy⟩ := Clause.run_sections hc hplainC hs hrun
    obtain ⟨z, us, ht, hus, hz⟩ := ih htail hplain hm hrest
    refine ⟨z, ws ++ us, ht, ?_, ?_⟩
    · rw [List.flatMap_cons]
      exact List.rel_append hws hus
    · rw [hz, hy, List.foldl_append]

/-! ## The text of WHERE -/

/-- The terms between the first WHERE and the next clause that follows it. -/
def Statement.afterWhere (terms : List String) : List String :=
  ((terms.dropWhile (· ≠ "WHERE")).drop 1).takeWhile (!followsWhere ·)

namespace Sections

variable (x : Sections) (hne : x.predicate ≠ []) (hplain : ∀ t ∈ x.predicate, t ∉ keywords)

theorem not_where_of_mem_head : ∀ t ∈ x.head, t ≠ "WHERE" := by
  rintro t ht rfl
  exact x.head_plain _ ht (by decide)

include hne in
theorem terms_eq : x.terms = x.head ++ "WHERE" :: (x.predicate ++ x.tail) := by
  unfold terms whereTerms
  rw [if_neg hne, List.append_assoc]
  rfl

include hne hplain in
theorem count_where : x.terms.count "WHERE" = 1 := by
  have hhead : x.head.count "WHERE" = 0 :=
    List.count_eq_zero.mpr fun h => x.not_where_of_mem_head _ h rfl
  have hpredicate : x.predicate.count "WHERE" = 0 :=
    List.count_eq_zero.mpr fun h => hplain _ h (by decide)
  have htail : x.tail.count "WHERE" = 0 := List.count_eq_zero.mpr x.isTail.plain
  rw [x.terms_eq hne, List.count_append, List.count_cons_self, List.count_append]
  omega

include hne in
theorem takeWhile_terms : x.terms.takeWhile (· ≠ "WHERE") = x.head := by
  have hhead : ∀ t ∈ x.head, decide (t ≠ "WHERE") = true := by
    simpa using x.not_where_of_mem_head
  rw [x.terms_eq hne, List.takeWhile_append_of_pos hhead]
  simp

include hne hplain in
theorem afterWhere_terms : afterWhere x.terms = x.predicate := by
  have hhead : ∀ t ∈ x.head, decide (t ≠ "WHERE") = true := by
    simpa using x.not_where_of_mem_head
  have hpredicate : ∀ t ∈ x.predicate, (!followsWhere t) = true := by
    intro t ht
    rw [not_followsWhere_of_plain (hplain t ht)]
    rfl
  have htail : x.tail.takeWhile (!followsWhere ·) = [] := by
    cases htail : x.tail with
    | nil => rfl
    | cons t rest =>
      have hopens := x.isTail.opens (t := t) (by rw [htail]; rfl)
      simp [hopens]
  unfold afterWhere
  rw [x.terms_eq hne, List.dropWhile_append_of_pos hhead]
  simp [List.takeWhile_append_of_pos hpredicate, htail]

end Sections

/-! ## Conditions without raw pieces -/

namespace Condition.Tree

variable {P : String → Value → Prop}

mutual

theorem lone?_of_formed : ∀ t : Tree, t.Formed P → t.lone? = none
  | .raw _, h => absurd h id
  | .broken _, h => absurd h id
  | .leaf _ _, _ => by rw [lone?]
  | .group _ members, h => by rw [lone?, loneOf?_of_formed members h.2]

theorem loneOf?_of_formed : ∀ ts : List Tree, FormedAll P ts → loneOf? ts = none
  | [], _ => by simp [loneOf?]
  | [t], h => by rw [loneOf?, lone?_of_formed t h.1]
  | _ :: _ :: _, _ => by simp [loneOf?]

end

end Condition.Tree

/-! ## Selections with windows -/

namespace Selection

def formulas? (o : Selection) : Option (List Formula) :=
  match o.conditions with
  | none => some []
  | some conditions => Tree.formulas? .oracle (Tree.ofDict conditions)

def IsReadable (o : Selection) : Prop :=
  ∀ conditions, o.conditions = some conditions → conditions.isEmpty = false ∧
    Tree.FormedAll Builtin.oracle.ReadableLeaf (Tree.ofDict conditions)

theorem merged_predicate {o : Selection} (ho : o.IsReadable) {ps : List String}
    (hps : o.predicate Builtin.oracle.dialect = .ok ps) :
    ∃ φs, o.formulas? = some φs ∧ Merged φs ps := by
  unfold predicate at hps
  unfold formulas?
  cases hconditions : o.conditions with
  | none =>
    rw [hconditions] at hps
    cases hps
    exact ⟨[], rfl, Or.inl ⟨rfl, rfl⟩, List.forall_mem_nil _⟩
  | some conditions =>
    obtain ⟨hne, hformed⟩ := ho conditions hconditions
    rw [hconditions] at hps
    dsimp only at hps
    rw [if_neg (by simp [hne])] at hps
    obtain ⟨p, hrender, hps⟩ := Built.exists_of_bind hps
    cases hps
    obtain ⟨φs, hφs, hsentence, hunit⟩ := reads_predicate hne hformed hrender
    have hlone : ∀ r, Tree.loneOf? (Tree.ofDict conditions) = some r → Shielded r.sql := by
      intro r hr
      rw [Tree.loneOf?_of_formed _ hformed] at hr
      cases hr
    refine ⟨φs, hφs, Or.inr (.of_predicate hsentence hunit), fun t ht => ?_⟩
    obtain rfl := List.mem_singleton.mp ht
    exact Tree.predicate_not_keyword .oracle hlone t hrender

/-- A selection with windows has one WHERE, before the clauses that follow it, and the text of
WHERE is read as the conjunction of what its conditions say and the bounds of every window, whose
numbers are those that it was asked for with. -/
theorem windows_conjoined {o : Selection} (ho : o.IsReadable) {tail : List Clause}
    (htail : ∀ c ∈ tail, c.followsPredicate = true) (hwindows : tail.flatMap Clause.windows ≠ [])
    (hplain : ∀ c ∈ o.clauses ++ tail, c.IsPlain) {s : Statement}
    (hrun : Plan.run Builtin.oracle.dialect ((o.clauses ++ tail).map .ok) .empty = ⟨s, none⟩) :
    s.terms.count "WHERE" = 1 ∧
    (∀ t ∈ s.terms.takeWhile (· ≠ "WHERE"), followsWhere t = false) ∧
    ∃ φ φs ws, Builtin.oracle.read (Text.join " " (afterWhere s.terms)) = some φ ∧
      o.formulas? = some φs ∧
      List.Forall₂ (fun v w => Window.asked v = some ((w.count.toNat : Int), (w.skipped : Int)))
        (tail.flatMap Clause.windows) ws ∧
      ∀ v, φ.eval v = (Formula.all (φs ++ ws.map Window.formula)).eval v := by
  rw [List.map_append] at hrun
  obtain ⟨m, hopen, hrest⟩ := Plan.exists_of_run_append hrun
  obtain ⟨x, hx, hpredicate, -⟩ :=
    run_clauses (fun c hc => hplain c (List.mem_append_left _ hc)) hopen
  obtain ⟨φs, hφs, hmerged⟩ := merged_predicate ho hpredicate
  obtain ⟨y, ws, hs, hws, hy⟩ :=
    Plan.run_sections htail (fun c hc => hplain c (List.mem_append_right _ hc)) hx hrest
  have hall := hmerged.foldl hws
  rw [← hy] at hall
  -- There is a window, so there is something in the predicate.
  have hgathers : Gathers .oracle (φs ++ ws.map Window.formula) y.predicate := by
    rcases hall.gathers with ⟨_, hnil⟩ | hgathers
    · obtain ⟨_, hnone⟩ := List.append_eq_nil_iff.mp hnil
      rw [List.map_eq_nil_iff.mp hnone] at hws
      exact absurd (List.forall₂_nil_right_iff.mp hws) hwindows
    · exact hgathers
  have hne : y.predicate ≠ [] := by
    intro hnil
    rw [hnil] at hgathers
    cases hgathers
  obtain ⟨φ, hread, heval⟩ := read_of_readsBy hgathers.reads
  rw [hs]
  refine ⟨y.count_where hne hall.plain, fun t ht => ?_, φ, φs, ws, ?_, hφs, ?_, heval⟩
  · rw [y.takeWhile_terms hne] at ht
    exact not_followsWhere_of_plain (y.head_plain t ht)
  · rw [y.afterWhere_terms hne hall.plain]
    exact hread
  · exact hws.imp fun _ _ => Window.asked_of_ofValue

/-! ## Selections with two windows -/

def wanted : Selection where
  columns := [.name "a"]
  distinct := false
  sources := [.table "t"]
  joins := none
  conditions := some ⟨[(.name "OR", .dict ⟨[(.name "a[~]", .text "x"), (.name "!b", .int 1)]⟩)]⟩

def pages : List Clause :=
  [.limit (.int 5), .orderBy ⟨[(.name "a", .null)]⟩, .limit (.list [.int 2, .int 3])]

def wantedText : String :=
  "((\x22a\x22 LIKE '%x%' OR NOT \x22b\x22 = 1) AND (ROWNUM <= 5)) " ++
    "AND (ROWNUM >= 3 AND ROWNUM <= 5)"

theorem isReadable_wanted : wanted.IsReadable := by
  have hmatch : Builtin.oracle.ReadableLeaf "a[~]" (.text "x") := by
    have hkey : ConditionTerm.ofKey "a[~]" =
        .ok ⟨false, ⟨⟨none, none, "a"⟩, none, false, none⟩, some "~"⟩ := rfl
    refine readableLeaf_of_key hkey (fun token htoken => ?_) rfl (by simp [IsLiteral, Value.leaves])
    cases htoken
    exact Or.inr (Or.inl rfl)
  have hother : Builtin.oracle.ReadableLeaf "!b" (.int 1) := by
    have hkey : ConditionTerm.ofKey "!b" =
        .ok ⟨true, ⟨⟨none, none, "b"⟩, none, false, none⟩, none⟩ := rfl
    refine readableLeaf_of_key hkey (fun token htoken => ?_) rfl (by simp [IsLiteral, Value.leaves])
    cases htoken
  intro conditions hconditions
  cases hconditions
  exact ⟨rfl, ⟨List.cons_ne_nil _ _, hmatch, hother, trivial⟩, trivial⟩

/-- Both windows bind the whole predicate, and the second one is read after the first. -/
theorem windows_conjoined_wanted :
    ∃ s φ φs ws,
      Plan.run Builtin.oracle.dialect ((wanted.clauses ++ pages).map .ok) .empty = ⟨s, none⟩ ∧
      Text.join " " (afterWhere s.terms) = wantedText ∧
      Builtin.oracle.read wantedText = some φ ∧ wanted.formulas? = some φs ∧
      List.Forall₂ (fun v w => Window.asked v = some ((w.count.toNat : Int), (w.skipped : Int)))
        [.int 5, .list [.int 2, .int 3]] ws ∧
      ∀ v, φ.eval v = (Formula.all (φs ++ ws.map Window.formula)).eval v := by
  have hclauses : wanted.clauses ++ pages =
      [.select [.name "a"] false, .fromSources [.table "t"],
        .filter ⟨[(.name "OR", .dict ⟨[(.name "a[~]", .text "x"), (.name "!b", .int 1)]⟩)]⟩,
        .limit (.int 5), .orderBy ⟨[(.name "a", .null)]⟩, .limit (.list [.int 2, .int 3])] := rfl
  have hplain : ∀ c ∈ wanted.clauses ++ pages, c.IsPlain := by
    rw [hclauses]
    simp [Clause.IsPlain]
  have htail : ∀ c ∈ pages, c.followsPredicate = true := by
    simp [pages, Clause.followsPredicate, Clause.isTrailing]
  obtain ⟨-, -, φ, φs, ws, hread, hφs, hasked, heval⟩ :=
    windows_conjoined isReadable_wanted htail (List.cons_ne_nil _ _) hplain rfl
  exact ⟨_, φ, φs, ws, rfl, rfl, hread, hφs, hasked, heval⟩

end Selection

end TerseSql
