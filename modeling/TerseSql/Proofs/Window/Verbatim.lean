import TerseSql.Proofs.Condition.Parens
import TerseSql.Proofs.Reading.Agreement
import TerseSql.Proofs.Window.Merged

/-!
# Windows behind a predicate that is a text

A predicate that is given as a text stays as it is before the bounds of a window, unless it holds
an AND or an OR in capitals between spaces. Then the bounds belong to the last of its alternatives
alone, so they bind the others only if these say as much themselves.
-/

namespace TerseSql

open Lexing Reading Statement Condition

/-! ## Disjunctions -/

namespace Reading

theorem Truth.or_assoc (t u w : Truth) : (t.or u).or w = t.or (u.or w) := by
  cases t <;> cases u <;> cases w <;> rfl

/-- A bound on the second of two alternatives alone is one on both of them just where the first
one implies it. -/
theorem Truth.or_and_eq_iff (t u w : Truth) :
    t.or (u.and w) = (t.or u).and w ↔ t.and w = t := by
  cases t <;> cases u <;> cases w <;> decide

theorem Formula.eval_any_concat (v : List Lexeme → Truth) (φs : List Formula) (φ : Formula) :
    (any (φs ++ [φ])).eval v = ((any φs).eval v).or (φ.eval v) := by
  induction φs with
  | nil =>
    show (φ.eval v).or .no = Truth.no.or (φ.eval v)
    cases φ.eval v <;> rfl
  | cons ψ φs ih =>
    show (ψ.eval v).or ((any (φs ++ [φ])).eval v) = ((ψ.eval v).or ((any φs).eval v)).or _
    rw [ih, Truth.or_assoc]

end Reading

/-! ## Texts that are predicates -/

namespace Builtin

variable (b : Builtin)

/-- The text has no comment and no quotes of another dialect, and `P` holds of its lexemes. -/
def Reads (P : List Lexeme → Prop) (s : String) : Prop :=
  ∃ ts, (b.rules true).scan s = some ts ∧ (∀ t ∈ ts, misleads (b.rules true) t = false) ∧
    P (words ts)

def IsPredicate (φ : Formula) (s : String) : Prop :=
  b.Reads (predicate? · = some φ) s

variable {b} {P Q : List Lexeme → Prop} {s : String} {φ : Formula}

theorem scans_of_plain {ts : List Token} (h : (b.rules true).scan s = some ts)
    (hplain : ∀ t ∈ ts, misleads (b.rules true) t = false) : Scans (b.rules true) s ts where
  scan := h
  code := by
    intro c hc
    have hcomment := hplain _ hc
    cases hcomment

theorem Reads.imp (h : ∀ ls, P ls → Q ls) (hs : b.Reads P s) : b.Reads Q s := by
  obtain ⟨ts, hscan, hplain, hP⟩ := hs
  exact ⟨ts, hscan, hplain, h _ hP⟩

theorem Reads.parens (hs : b.Reads P s) (h : ∀ ls, P ls → Q (.sign '(' :: (ls ++ [.sign ')']))) :
    b.Reads Q ("(" ++ s ++ ")") := by
  obtain ⟨ts, hscan, hplain, hP⟩ := hs
  refine ⟨_, (scans_of_plain hscan hplain).parens.scan, ?_, ?_⟩
  · simp only [List.forall_mem_cons, List.forall_mem_append]
    exact ⟨rfl, hplain, rfl, List.forall_mem_nil _⟩
  · rw [words_parens]
    exact h _ hP

theorem IsPredicate.branches (h : b.IsPredicate φ s) :
    ∃ φs ψs, b.Reads (Branches φs ψs) s ∧ φ = Formula.disj (φs ++ [Formula.conj ψs]) := by
  obtain ⟨ts, hscan, hplain, hread⟩ := h
  obtain ⟨φs, ψs, hbranches, hφ⟩ := predicate?_eq_some_iff.mp hread
  exact ⟨φs, ψs, ⟨ts, hscan, hplain, hbranches⟩, hφ⟩

theorem Reads.isPredicate {φs ψs : List Formula} (h : b.Reads (Branches φs ψs) s) :
    b.IsPredicate (Formula.disj (φs ++ [Formula.conj ψs])) s :=
  h.imp fun _ hbranches => predicate?_eq_some_iff.mpr ⟨φs, ψs, hbranches, rfl⟩

/-- A predicate that loses its parentheses says what it said. -/
theorem IsPredicate.inside {inner : String} (h : b.IsPredicate φ s) (hs : inside? s = some inner) :
    b.IsPredicate φ inner := by
  obtain ⟨ts, hscan, hplain, hread⟩ := h
  obtain ⟨htext, hcloses⟩ := inside?_eq_some_iff.mp hs
  obtain rfl : s = "(" ++ inner ++ ")" := String.toList_injective (by simp [htext])
  obtain ⟨mid, hmid, rfl⟩ := (scans_of_plain hscan hplain).exists_of_parens
  have hplainMid : ∀ t ∈ mid, misleads (b.rules true) t = false := fun t ht =>
    hplain t (List.mem_cons_of_mem _ (List.mem_append_left _ ht))
  refine ⟨mid, hmid.scan, hplainMid, ?_⟩
  rw [hmid.toList_eq, closesWithin_write hplainMid] at hcloses
  have hclosed : IsClosed (words mid) := (depthAfter?_wordsFrom 0 [] mid).mpr hcloses
  rwa [words_parens, predicate?_group hclosed] at hread

end Builtin

/-! ## Predicates with bounds -/

section

variable {φs ψs : List Formula} {χ : Formula} {p fragment : String} {ls : List Lexeme}

/-- Bounds in parentheses behind an AND are one more conjunct of the last alternative. -/
theorem reads_conjunct (hp : Builtin.oracle.Reads (Branches φs ψs) p)
    (hfragment : Lexed (Builtin.oracle.rules true) fragment ls) (hχ : predicate? ls = some χ) :
    Builtin.oracle.Reads (Branches φs (ψs ++ [χ])) (p ++ " AND (" ++ fragment ++ ")") := by
  obtain ⟨ts, hscan, hplain, hbranches⟩ := hp
  obtain ⟨us, hus, rfl⟩ := hfragment
  have hopen : (Builtin.oracle.rules true).isSeparator "AND (" = true := by decide
  have hclose : ∀ c ∈ ")".toList, (Builtin.oracle.rules true).isCalm c = true :=
    List.all_eq_true.mp (by decide)
  have htail := (Spells.empty.joint hopen hus).append_calm hclose
  have hwhole := (Builtin.scans_of_plain hscan hplain).append (c := ' ') (by decide) (by decide)
    htail.scans
  have htext : p ++ " AND (" ++ fragment ++ ")" =
      p ++ String.ofList (' ' :: ("" ++ "AND (" ++ fragment ++ ")").toList) := by
    apply String.toList_injective
    simp
  refine ⟨_, htext ▸ hwhole.scan, ?_, ?_⟩
  · have hnames : (Builtin.oracle.rules true).delimiters ≠ .bracket := by decide
    refine List.forall_mem_append.mpr ⟨hplain, List.forall_mem_cons.mpr ⟨rfl, fun t ht => ?_⟩⟩
    exact not_misleads_of_writes (htail.fits.writes t ht) fun _ _ hbracket => absurd hbracket hnames
  · have hand : isGap " AND (" = true := by decide
    have hparen : isGap ")" = true := by decide
    have hsplit : ts ++ .mark ' ' :: ([] ++ marks "AND (" ++ us ++ marks ")") =
        ts ++ marks " AND (" ++ (us ++ marks ")" ++ []) := by
      simp [marks]
    have hkeyword : words (marks " AND (") = [.word "AND", .sign '('] := by decide
    have hclosing : words (marks ")") = [.sign ')'] := rfl
    have hnil : words [] = [] := rfl
    rw [hsplit, words_gap hand, words_gap hparen, hkeyword, hclosing, hnil, List.append_nil,
      List.append_assoc]
    exact hbranches.and hχ

def boundText (w : Window) (p : String) : String :=
  Text.join " " (conjoinPredicate (Pagination.rowNumbers w.count w.offset) [p])

variable {x : Value} {w : Window}

theorem predicate?_bounds (hw : Window.ofValue x = .ok w) :
    predicate? (List.intercalate [.word "AND"] w.bounds) =
      some (Formula.conj (w.bounds.map .atom)) := by
  have hunits : List.Forall₂ IsUnit w.bounds (w.bounds.map .atom) := by
    rw [List.forall₂_map_right_iff, List.forall₂_same]
    exact fun ls hls => (w.isPlainAtom_bounds hw ls hls).isAtom.isOperand.isUnit
  have hne : w.bounds ≠ [] := by simp [Window.bounds]
  exact predicate?_of_read (read_of_isSentence (isSentence_intercalate .and hunits hne))

theorem reads_compound {φ : Formula} (hp : Builtin.oracle.IsPredicate φ p)
    (hw : Window.ofValue x = .ok w) (h : isCompound p = true) :
    ∃ ψ, Builtin.oracle.IsPredicate ψ (boundText w p) ∧
      ∀ v, ψ.eval v = (Formula.all [φ, w.formula]).eval v := by
  have hgroup := Builtin.Reads.parens hp fun _ => branches_group
  have hreads := reads_conjunct hgroup (w.lexed_rowNumbers .oracle true hw) (predicate?_bounds hw)
  have htext : boundText w p =
      "(" ++ p ++ ")" ++ " AND (" ++ Pagination.rowNumbers w.count w.offset ++ ")" := by
    rw [boundText, conjoinPredicate, if_pos h]
    apply String.toList_injective
    simp [Text.join]
  refine ⟨_, htext ▸ hreads.isPredicate, fun v => ?_⟩
  show (Formula.all [φ, .conj (w.bounds.map .atom)]).eval v = _
  simp only [Formula.eval_all_cons, Formula.eval_conj, Window.formula]

theorem reads_simple (hp : Builtin.oracle.Reads (Branches φs ψs) p)
    (hw : Window.ofValue x = .ok w) (h : isCompound p = false) :
    ∃ ψ, Builtin.oracle.IsPredicate ψ (boundText w p) ∧
      ∀ v, ψ.eval v = (Formula.any (φs ++ [.all (ψs ++ [w.formula])])).eval v := by
  have hreads := reads_conjunct hp (w.lexed_rowNumbers .oracle true hw) (predicate?_bounds hw)
  have htext : boundText w p = p ++ " AND (" ++ Pagination.rowNumbers w.count w.offset ++ ")" := by
    rw [boundText, conjoinPredicate, if_neg (by simp [h])]
    apply String.toList_injective
    simp [Text.join]
  refine ⟨_, htext ▸ hreads.isPredicate, fun v => ?_⟩
  rw [Formula.eval_disj, Formula.eval_any_concat, Formula.eval_any_concat, Formula.eval_conj,
    Formula.eval_all_concat, Formula.eval_all_concat, Formula.eval_conj, Window.formula]

end

namespace Statement

def whereText (s : Statement) : String :=
  Text.join " " ((s.terms.dropWhile (· ≠ "WHERE")).drop 1)

end Statement

theorem Sections.dropWhile_terms (x : Sections) (hne : x.predicate ≠ []) :
    (x.terms.dropWhile (· ≠ "WHERE")).drop 1 = x.predicate ++ x.tail := by
  have hhead : ∀ t ∈ x.head, decide (t ≠ "WHERE") = true := by
    simpa using x.not_where_of_mem_head
  rw [x.terms_eq hne, List.dropWhile_append_of_pos hhead]
  simp

namespace Selection

variable {o : Selection} {s : String} {φ : Formula} {v x : Value} {w : Window}

/-- A selection whose WHERE is one raw text takes a window, which goes into that WHERE. -/
theorem run_window {p : String} (hconditions : o.conditions = some ⟨[(.raw ⟨s⟩, v)]⟩)
    (hrender : render Builtin.oracle.dialect ⟨[(.raw ⟨s⟩, v)]⟩ = .ok p)
    (hplain : ∀ c ∈ o.relation, c.IsPlain) {m : Statement}
    (hrelation : Plan.run Builtin.oracle.dialect (o.relation.map .ok) .empty = ⟨m, none⟩)
    (hw : Window.ofValue x = .ok w) :
    ∃ t,
      Plan.run Builtin.oracle.dialect ((o.clauses ++ [Clause.limit x]).map .ok) .empty =
        ⟨t, none⟩ ∧ t.whereText = boundText w p := by
  have hclauses : o.clauses = o.relation ++ [.filter ⟨[(.raw ⟨s⟩, v)]⟩] := by
    unfold clauses
    rw [hconditions]
    rfl
  have hterms : predicateTerms Builtin.oracle.dialect "WHERE" ⟨[(.raw ⟨s⟩, v)]⟩ =
      .ok ["WHERE", p] := by
    unfold predicateTerms
    rw [hrender]
    rfl
  -- The run stops at the predicate, before the window is put in.
  have hopen : Plan.run Builtin.oracle.dialect (o.clauses.map .ok) .empty =
      ⟨m.push ["WHERE", p], none⟩ := by
    rw [hclauses, List.map_append, Plan.run_append_of_run hrelation]
    have hadds : (Clause.add Builtin.oracle.dialect (.filter ⟨[(.raw ⟨s⟩, v)]⟩)).Adds
        (predicateTerms Builtin.oracle.dialect "WHERE" ⟨[(.raw ⟨s⟩, v)]⟩) :=
      adds_withPredicate Builtin.oracle.dialect _ ⟨[(.raw ⟨s⟩, v)]⟩
    exact Plan.run_cons_of_adds_ok hadds hterms [] m
  have hfilter : Clause.IsPlain (.filter ⟨[(.raw ⟨s⟩, v)]⟩) := trivial
  obtain ⟨y, hy, hpredicate, htail⟩ := run_clauses (b := .oracle) (by
    rw [hclauses]
    exact List.forall_mem_append.mpr ⟨hplain, by simpa using hfilter⟩) hopen
  have hp : y.predicate = [p] := by
    unfold predicate at hpredicate
    rw [hconditions] at hpredicate
    dsimp only at hpredicate
    rw [hrender] at hpredicate
    exact (Except.ok.inj hpredicate).symm
  have hplace := y.place_terms (Pagination.rowNumbers w.count w.offset)
  have hafter := (y.conjoin (Pagination.rowNumbers w.count w.offset)).dropWhile_terms
    (conjoined_ne_nil _ _)
  rw [← hplace, ← hy] at hafter
  refine ⟨{ m.push ["WHERE", p] with
    terms := place ⟨Pagination.rowNumbers w.count w.offset, .inWhere⟩
      (m.push ["WHERE", p]).terms }, ?_, ?_⟩
  · rw [List.map_append, Plan.run_append_of_run hopen]
    exact Plan.run_cons_ok (Clause.run_limit _ _ hw) []
  · unfold whereText boundText
    rw [hafter]
    show Text.join " " (conjoined _ y.predicate ++ y.tail) = _
    rw [hp, htail, List.append_nil]
    rfl

/-- A window behind a WHERE that is one raw predicate. If what is left of the text is compound,
WHERE says the predicate and the bounds. Else it says the alternatives before the last OR, or the
last one with the bounds: which comes to the same exactly if those alternatives imply the bounds. -/
theorem limit_verbatim (hconditions : o.conditions = some ⟨[(.raw ⟨s⟩, v)]⟩)
    (hs : Builtin.oracle.IsPredicate φ s) (hplain : ∀ c ∈ o.relation, c.IsPlain) {m : Statement}
    (hrelation : Plan.run Builtin.oracle.dialect (o.relation.map .ok) .empty = ⟨m, none⟩)
    (hw : Window.ofValue x = .ok w) :
    ∃ t p φs ψs ψ,
      Plan.run Builtin.oracle.dialect ((o.clauses ++ [Clause.limit x]).map .ok) .empty = ⟨t, none⟩ ∧
      render Builtin.oracle.dialect ⟨[(.raw ⟨s⟩, v)]⟩ = .ok p ∧
      Builtin.oracle.Reads (Branches φs ψs) p ∧ φ = .disj (φs ++ [.conj ψs]) ∧
      Builtin.oracle.IsPredicate ψ t.whereText ∧
      (isCompound p = true → ∀ v, ψ.eval v = (Formula.all [φ, w.formula]).eval v) ∧
      (isCompound p = false →
        ∀ v, ψ.eval v = (Formula.any (φs ++ [.all (ψs ++ [w.formula])])).eval v) ∧
      ((∀ v, ψ.eval v = (Formula.all [φ, w.formula]).eval v) ↔ isCompound p = true ∨
        ∀ v, ((Formula.any φs).eval v).and (w.formula.eval v) = (Formula.any φs).eval v) := by
  have hrender := render_raw Builtin.oracle.dialect s v
  have hp : Builtin.oracle.IsPredicate φ ((inside? s).getD s) := by
    cases hinside : inside? s with
    | none => exact hs
    | some inner => exact hs.inside hinside
  generalize (inside? s).getD s = p at hrender hp
  obtain ⟨t, hrun, htext⟩ := run_window hconditions hrender hplain hrelation hw
  obtain ⟨φs, ψs, hbranches, hφ⟩ := hp.branches
  cases hcompound : isCompound p with
  | true =>
    obtain ⟨ψ, hψ, heval⟩ := reads_compound hp hw hcompound
    exact ⟨t, p, φs, ψs, ψ, hrun, hrender, hbranches, hφ, htext ▸ hψ, fun _ => heval,
      fun hfalse => absurd hfalse (by simp [hcompound]),
      fun _ => Or.inl hcompound, fun _ => heval⟩
  | false =>
    obtain ⟨ψ, hψ, heval⟩ := reads_simple hbranches hw hcompound
    have hnot : isCompound p ≠ true := by simp [hcompound]
    refine ⟨t, p, φs, ψs, ψ, hrun, hrender, hbranches, hφ, htext ▸ hψ,
      fun htrue => absurd htrue hnot, fun _ => heval, ?_⟩
    rw [or_iff_right hnot]
    refine forall_congr' fun v => ?_
    rw [heval, hφ, Formula.eval_any_concat, Formula.eval_all_concat, Formula.eval_all_cons,
      Formula.eval_all_singleton, Formula.eval_disj, Formula.eval_any_concat, Formula.eval_conj]
    exact Truth.or_and_eq_iff _ _ _

def alternativesInLowercase : Selection where
  columns := [.name "a"]
  distinct := false
  sources := [.table "t"]
  joins := none
  conditions := some ⟨[(.raw ⟨"a = 1 or b = 2"⟩, .null)]⟩

/-- An OR in small letters leaves rows of the first alternative without bounds. -/
theorem limit_verbatim_lowercase :
    ∃ t φ ψ, Builtin.oracle.IsPredicate φ "a = 1 or b = 2" ∧
      Plan.run Builtin.oracle.dialect
        ((alternativesInLowercase.clauses ++ [Clause.limit (.int 5)]).map .ok) .empty = ⟨t, none⟩ ∧
      t.whereText = "a = 1 or b = 2 AND (ROWNUM <= 5)" ∧
      Builtin.oracle.IsPredicate ψ t.whereText ∧
      ¬ ∀ v, ψ.eval v = (Formula.all [φ, (Window.make 5 none).formula]).eval v := by
  have hpredicate : Builtin.oracle.IsPredicate
      (.any [.atom [.word "a", .sign '=', .word "1"], .atom [.word "b", .sign '=', .word "2"]])
      "a = 1 or b = 2" := by
    refine ⟨_, rfl, by decide, predicate?_eq_some_iff.mpr ⟨_, _, ⟨_, rfl, rfl, rfl, rfl, rfl⟩, rfl⟩⟩
  have hplain : ∀ c ∈ alternativesInLowercase.relation, c.IsPlain := by
    simp [alternativesInLowercase, relation, Clause.IsPlain]
  obtain ⟨t, p, φs, ψs, ψ, hrun, hrender, hbranches, -, hψ, -, -, hiff⟩ :=
    limit_verbatim (o := alternativesInLowercase) (x := .int 5) rfl hpredicate hplain rfl rfl
  obtain rfl : "a = 1 or b = 2" = p := Except.ok.inj hrender
  obtain ⟨ts, hts, -, o, ho, -, -, hφs, -⟩ := hbranches
  obtain rfl := Option.some.inj hts
  obtain rfl := Option.some.inj ho
  obtain rfl := Option.some.inj hφs
  obtain rfl : _ = t := congrArg Outcome.statement hrun
  refine ⟨_, _, ψ, hpredicate, hrun, rfl, hψ, fun hall => ?_⟩
  rcases hiff.mp hall with hcompound | himplies
  · cases hcompound
  · cases himplies fun ls => if ls = [.word "a", .sign '=', .word "1"] then .yes else .no

end Selection

end TerseSql
