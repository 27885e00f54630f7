import TerseSql.Proofs.Blank.Assignment
import TerseSql.Proofs.Blank.Insertion
import TerseSql.Proofs.Blank.Shape

/-!
# Clauses without their texts

Two clauses that differ in the text of their values alone fail together or are read as the
same tokens but for what is in quotes, and what is in quotes are their texts. No text in a
value becomes SQL, whatever it holds.
-/

namespace TerseSql

open Lexing Condition Statement

/-! ## Guarded clauses -/

namespace Builtin

variable (b : Builtin)

/-- A value that is written as a literal or a field, whose name is plain where parentheses in
names would be taken for parentheses. -/
def Guards : Value → Prop
  | .raw _ | .query _ | .json _ => False
  | .field f => ∀ n ∈ f.parts, b.delimiters = .bracket → IsPlainName n
  | _ => True

def GuardsAll (v : Value) : Prop :=
  ∀ x ∈ v.leaves, b.Guards x

def GuardsRow : Value → Prop
  | .list items => ∀ item ∈ items, b.GuardsAll item
  | .dict record => ∀ e ∈ record.entries, (∀ sql, e.1 ≠ .raw sql) ∧ b.GuardsAll e.2
  | .query _ => False
  | _ => True

def KnowsAssignment (key : String) : Prop :=
  ∀ t, AssignmentTerm.ofKey key = .ok t → ∀ token, t.operator = some token → b.KnowsUpdate token

end Builtin

namespace Clause

variable (b : Builtin)

/-- A clause of conditions, assignments or rows without SQL of its own and with operators that
are known. -/
def IsGuarded : Clause → Prop
  | filter conditions | having conditions =>
    Tree.EveryOf (fun name v => b.KnowsKey name ∧ b.GuardsAll v) (Tree.ofDict conditions)
  | set sets =>
    ∀ e ∈ sets.entries, (∃ key, e.1 = .name key ∧ b.KnowsAssignment key) ∧ b.GuardsAll e.2
  | insert _ rows columns =>
    (∀ cs, columns = some cs → ∀ c ∈ cs, ∀ sql, c ≠ .raw sql) ∧ ∀ row ∈ rows, b.GuardsRow row
  | _ => False

/-- Clauses that differ in the text of their values alone. -/
def EqualButTexts : Clause → Clause → Prop
  | filter conditions, filter conditions' | having conditions, having conditions' =>
    Tree.blankAll (Tree.ofDict conditions) = Tree.blankAll (Tree.ofDict conditions')
  | set sets, set sets' => Value.blankEntries sets.entries = Value.blankEntries sets'.entries
  | insert table rows columns, insert table' rows' columns' =>
    table = table' ∧ rows.map Value.blank = rows'.map Value.blank ∧ columns = columns'
  | _, _ => False

def texts : Clause → List String
  | filter conditions | having conditions => Tree.textsOf b (Tree.ofDict conditions)
  | set sets => sets.entries.flatMap (Assignment.texts b)
  | insert _ rows columns => Value.rowsTexts columns rows
  | _ => []

end Clause

namespace Lexing

/-- The texts are read as tokens of one shape, with `a` and `a'` in quotes. -/
def SameShape (r : Rules) (s s' : String) (a a' : List String) : Prop :=
  ∃ ts ts', r.scan s = some ts ∧ r.scan s' = some ts' ∧
    ts.map Token.hide = ts'.map Token.hide ∧
    ts.filterMap Token.content? = a ∧ ts'.filterMap Token.content? = a'

theorem sameShape_of_parallel {r : Rules} {P P' : String → Prop} {s s' t : String}
    {a a' : List String} (h : Parallel r P s t a) (h' : Parallel r P' s' t a') :
    SameShape r s s' a a' := by
  obtain ⟨ts, us, hs, ht, hshape, hcontent, _⟩ := h
  obtain ⟨ts', us', hs', ht', hshape', hcontent', _⟩ := h'
  obtain rfl := ht.eq_of_spells ht'
  exact ⟨ts, ts', hs.scan, hs'.scan, hshape.trans hshape'.symm, hcontent, hcontent'⟩

def ShapedTerms (r : Rules) (a : List String) (terms terms' : List String) : Prop :=
  ∃ P, Parallel r P (Text.join " " terms) (Text.join " " terms') a

theorem alike_of_common {r : Rules} {a a' : List String} {x y z : Built (List String)}
    (hx : Alike (ShapedTerms r a) x z) (hy : Alike (ShapedTerms r a') y z) :
    Alike (fun terms terms' => SameShape r (Text.join " " terms) (Text.join " " terms') a a')
      x y := by
  cases hx with
  | ok hxz =>
    obtain ⟨hyz⟩ := hy
    obtain ⟨_, hxz⟩ := hxz
    obtain ⟨_, hyz⟩ := hyz
    exact .ok (sameShape_of_parallel hxz hyz)
  | error =>
    cases hy
    exact .error

section

variable {b : Builtin} {P : String → Prop}

theorem shapedTerms_of_holdsAll {comments : Bool} {terms terms' a : List String}
    (h : (parallel (b.rules comments) P).HoldsAll terms terms' a) :
    ShapedTerms (b.rules comments) a terms terms' := by
  have hspace : (b.rules comments).isSeparator " " = true := isSeparator_of_steady (by decide)
  exact ⟨P, TextRelation.join hspace h⟩

theorem covers_of_guards {comments : Bool} {v : Value} (h : b.GuardsAll v)
    (hP : ∀ n, (b.delimiters = .bracket → IsPlainName n) → P n) :
    (parallel (b.rules comments) P).Covers v := by
  intro x hx
  have hguards := h x hx
  refine literal_parallel b comments ?_ ?_ ?_ ?_
  · rintro sql rfl
    exact hguards
  · rintro q rfl
    exact hguards
  · rintro document rfl
    exact hguards
  · rintro f rfl n hn
    exact hP n (hguards n hn)

end

/-! ## Predicates -/

section

variable {b : Builtin}

def treeTerms (b : Builtin) (keyword : String) (ts : List Tree) : Built (List String) :=
  if ts.isEmpty then .ok []
  else do return [keyword, conjoin (← Tree.renderAll b.dialect ts)]

theorem treeTerms_cons (keyword : String) (t : Tree) (rest : List Tree) :
    treeTerms b keyword (t :: rest) =
      (do return [keyword, conjoin (← Tree.renderAll b.dialect (t :: rest))]) := by
  unfold treeTerms
  rw [List.isEmpty_cons, if_neg Bool.false_ne_true]

theorem predicateTerms_eq (keyword : String) (conditions : Dict Value) :
    predicateTerms b.dialect keyword conditions =
      treeTerms b keyword (Tree.ofDict conditions) := by
  obtain ⟨entries⟩ := conditions
  unfold predicateTerms
  rw [Tree.render_eq]
  cases entries with
  | nil => rfl
  | cons e rest =>
    unfold Tree.ofDict Dict.isEmpty
    dsimp only
    rw [Tree.ofEntries, treeTerms_cons, List.isEmpty_cons, if_neg Bool.false_ne_true]
    cases Tree.renderAll b.dialect (Tree.ofEntry e.1 e.2 :: Tree.ofEntries rest) <;> rfl

theorem treeTerms_alike {keyword : String}
    (hkeyword : (b.rules false).isSeparator keyword = true) (ts : List Tree)
    (h : Tree.EveryOf (fun name v => b.KnowsKey name ∧ b.GuardsAll v) ts) :
    Alike (ShapedTerms (b.rules false) (Tree.textsOf b ts)) (treeTerms b keyword ts)
      (treeTerms b keyword (Tree.blankAll ts)) := by
  let P := fun n => b.delimiters = .bracket → IsPlainName n
  have hsuits : (parallel (b.rules false) P).Suits :=
    parallel_suits b false fun n hn _ => hn
  have hleaf : ∀ name v, b.KnowsKey name ∧ b.GuardsAll v →
      (parallel (b.rules false) P).AdmitsLeaf name v := by
    intro name v ⟨hknows, hguards⟩
    exact {
      knows := hknows
      separates := fun ht => separates_of_knows (hknows _ ht)
      covers := covers_of_guards hguards fun n hn => hn }
  have hevery := Tree.everyOf_imp hleaf ts h
  have hand : (b.rules false).isSeparator " AND " = true := isSeparator_of_steady (by decide)
  cases ts with
  | nil => exact .ok (shapedTerms_of_holdsAll (P := P) .nil)
  | cons t rest =>
    have htrees := trees_alike hsuits (t :: rest) hevery
    rw [Tree.blankAll] at htrees ⊢
    rw [treeTerms_cons, treeTerms_cons]
    refine htrees.bind fun ss ss' hss => .ok ?_
    have hconjoin := conjoin_parallel hss hand fun n hn => hn
    have hterms : (parallel (b.rules false) P).HoldsAll [keyword, conjoin ss]
        [keyword, conjoin ss'] ([] ++ (Tree.textsOf b (t :: rest) ++ [])) :=
      .cons (TextRelation.separator hkeyword) (.cons hconjoin .nil)
    rw [List.nil_append, List.append_nil] at hterms
    exact shapedTerms_of_holdsAll hterms

/-! ## Assignments -/

theorem assignments_alike {sets : Dict Value}
    (h : ∀ e ∈ sets.entries, (∃ key, e.1 = .name key ∧ b.KnowsAssignment key) ∧ b.GuardsAll e.2) :
    Alike (ShapedTerms (b.rules false) (sets.entries.flatMap (Assignment.texts b)))
      (setTerms b.dialect sets) (setTerms b.dialect ⟨Value.blankEntries sets.entries⟩) := by
  let P := fun _ : String => True
  have hsuits : (parallel (b.rules false) P).Suits := parallel_suits b false fun _ _ => trivial
  have hset : (b.rules false).isSeparator "SET" = true := isSeparator_of_steady (by decide)
  have hcomma : (b.rules false).isSeparator "," = true := isSeparator_of_steady (by decide)
  -- Both have the same keys, so an entry differs in its value alone.
  have hentry : ∀ e ∈ sets.entries,
      Alike ((parallel (b.rules false) P).holds · · (Assignment.texts b e))
        (Assignment.entry b.dialect e) (Assignment.entry b.dialect (e.1, e.2.blank)) := by
    rintro ⟨key, v⟩ he
    obtain ⟨⟨name, rfl, hknows⟩, hguards⟩ := h _ he
    unfold Assignment.entry Assignment.texts
    dsimp only
    cases ht : AssignmentTerm.ofKey name with
    | error e => exact .error
    | ok t =>
      have hfield : (parallel (b.rules false) P).holds (t.field.render b.dialect.toLexicon)
          (t.field.render b.dialect.toLexicon) [] := by
        refine parallel_self (spells_field b false t.field) fun u hu => ?_
        rcases mem_field_tokens hu with hmark | ⟨n, _, rfl⟩
        · exact Or.inl hmark
        · exact Or.inr ⟨n, trivial, rfl⟩
      exact assignment_alike hsuits (hknows t ht) hfield (covers_of_guards hguards fun _ _ => trivial)
  have hall : Alike ((parallel (b.rules false) P).HoldsAll · ·
        (sets.entries.flatMap (Assignment.texts b)))
      (sets.entries.mapM (Assignment.entry b.dialect))
      ((Value.blankEntries sets.entries).mapM (Assignment.entry b.dialect)) := by
    rw [Value.blankEntries_eq, List.mapM_map]
    exact TextRelation.mapM hentry
  unfold setTerms Assignment.render
  rw [bind_assoc, bind_assoc]
  refine hall.bind fun ss ss' hss => .ok ?_
  have hterms := TextRelation.HoldsAll.cons (TextRelation.separator hset)
    (TextRelation.HoldsAll.cons (TextRelation.join hcomma hss) .nil)
  rw [List.nil_append, List.append_nil] at hterms
  exact shapedTerms_of_holdsAll hterms

/-! ## Rows -/

theorem suitsRows (b : Builtin) :
    (parallel (b.rules false) fun _ => True).SuitsRows where
  toSuits := parallel_suits b false fun _ _ => trivial
  name := by
    intro s
    refine parallel_self (spells_quote b false s) fun u hu => ?_
    obtain rfl := List.mem_singleton.mp hu
    unfold nameToken
    by_cases hstar : s = "*"
    · exact Or.inl ⟨'*', if_pos hstar⟩
    · exact Or.inr ⟨s, trivial, if_neg hstar⟩
  null := by
    refine covers_of_guards (b := b) (fun x hx => ?_) fun _ _ => trivial
    obtain rfl := List.mem_singleton.mp hx
    exact trivial

theorem rows_alike (table : String) {rows : List Value} {columns : Option (List Column)}
    (hraw : ∀ cs, columns = some cs → ∀ c ∈ cs, ∀ sql, c ≠ .raw sql)
    (hrows : ∀ row ∈ rows, b.GuardsRow row) :
    Alike (ShapedTerms (b.rules false) (Value.rowsTexts columns rows))
      (insertTerms b.dialect table columns rows)
      (insertTerms b.dialect table columns (rows.map Value.blank)) := by
  have hcovers : ∀ row ∈ rows, (parallel (b.rules false) fun _ => True).CoversRow row := by
    intro row hrow
    have hguards := hrows row hrow
    cases row with
    | list items =>
      exact fun item hitem => covers_of_guards (hguards item hitem) fun _ _ => trivial
    | dict record => exact fun e he => covers_of_guards (hguards e he).2 fun _ _ => trivial
    | _ => exact trivial
  have hkeys : ∀ record, .dict record ∈ rows → ∀ e ∈ record.entries, ∀ sql, e.1 ≠ .raw sql :=
    fun record hrecord e he => (hrows _ hrecord e he).1
  have hquery : ∀ q, .query q ∉ rows := fun q hq => hrows _ hq
  have hterms := insertTerms_alike (suitsRows b) table hraw hkeys hquery hcovers
  exact hterms.imp fun _ _ => shapedTerms_of_holdsAll

end

end Lexing

/-! ## Two runs -/

namespace Clause

variable {b : Builtin}

def guardedTerms (b : Builtin) : Clause → Built (List String)
  | filter conditions => treeTerms b "WHERE" (Tree.ofDict conditions)
  | having conditions => treeTerms b "HAVING" (Tree.ofDict conditions)
  | set sets => setTerms b.dialect sets
  | insert table rows columns => insertTerms b.dialect table columns rows
  | _ => .ok []

theorem adds_guardedTerms {c : Clause} (h : c.IsGuarded b) :
    (c.add b.dialect).Adds (c.guardedTerms b) := by
  cases c with
  | filter conditions =>
    rw [guardedTerms, ← predicateTerms_eq]
    exact adds_withPredicate b.dialect "WHERE" conditions
  | having conditions =>
    rw [guardedTerms, ← predicateTerms_eq]
    exact adds_withPredicate b.dialect "HAVING" conditions
  | set sets => exact adds_set b.dialect sets
  | insert table rows columns => exact adds_insert b.dialect table rows columns
  | _ => exact absurd h id

theorem guardedTerms_alike {c c' : Clause} (hc : c.IsGuarded b) (hc' : c'.IsGuarded b)
    (h : c.EqualButTexts c') :
    Alike (fun terms terms' => SameShape (b.rules false) (Text.join " " terms)
      (Text.join " " terms') (c.texts b) (c'.texts b)) (c.guardedTerms b) (c'.guardedTerms b) := by
  have hwhere : (b.rules false).isSeparator "WHERE" = true := isSeparator_of_steady (by decide)
  have hhaving : (b.rules false).isSeparator "HAVING" = true := isSeparator_of_steady (by decide)
  cases c with
  | filter conditions =>
    cases c' with
    | filter conditions' =>
      have hblank := treeTerms_alike hwhere (Tree.ofDict conditions) hc
      rw [show Tree.blankAll (Tree.ofDict conditions) = _ from h] at hblank
      exact alike_of_common hblank (treeTerms_alike hwhere (Tree.ofDict conditions') hc')
    | _ => exact absurd h id
  | having conditions =>
    cases c' with
    | having conditions' =>
      have hblank := treeTerms_alike hhaving (Tree.ofDict conditions) hc
      rw [show Tree.blankAll (Tree.ofDict conditions) = _ from h] at hblank
      exact alike_of_common hblank (treeTerms_alike hhaving (Tree.ofDict conditions') hc')
    | _ => exact absurd h id
  | set sets =>
    cases c' with
    | set sets' =>
      have hblank := assignments_alike hc
      rw [show Value.blankEntries sets.entries = _ from h] at hblank
      exact alike_of_common hblank (assignments_alike hc')
    | _ => exact absurd h id
  | insert table rows columns =>
    cases c' with
    | insert table' rows' columns' =>
      obtain ⟨rfl, hrows, rfl⟩ := h
      have hblank := rows_alike table hc.1 hc.2
      rw [hrows] at hblank
      exact alike_of_common hblank (rows_alike table hc'.1 hc'.2)
    | _ => exact absurd h id
  | _ => exact absurd hc id

omit b in
theorem runs_alike {d : Dialect} {c c' : Clause} {x x' : Built (List String)}
    {Q : List String → List String → Prop} (hx : (c.add d).Adds x) (hx' : (c'.add d).Adds x')
    (h : Alike Q x x') (s : Statement) :
    (∃ e e', Call.run d s (.clause c) = ⟨s, some e⟩ ∧ Call.run d s (.clause c') = ⟨s, some e'⟩) ∨
    ∃ terms terms', Call.run d s (.clause c) = ⟨s.push terms, none⟩ ∧
      Call.run d s (.clause c') = ⟨s.push terms', none⟩ ∧ Q terms terms' := by
  have hrun := Call.run_clause_of_adds hx s
  have hrun' := Call.run_clause_of_adds hx' s
  cases h with
  | ok hterms => exact Or.inr ⟨_, _, hrun, hrun', hterms⟩
  | error => exact Or.inl ⟨_, _, hrun, hrun'⟩

/-- No text in a value changes the structure of a clause: clauses that differ in such texts
fail together, or they add terms that are read as the same tokens around their texts. -/
theorem same_shape {c c' : Clause} (hc : c.IsGuarded b) (hc' : c'.IsGuarded b)
    (h : c.EqualButTexts c') (s : Statement) :
    (∃ e e', Call.run b.dialect s (.clause c) = ⟨s, some e⟩ ∧
      Call.run b.dialect s (.clause c') = ⟨s, some e'⟩) ∨
    ∃ terms terms', Call.run b.dialect s (.clause c) = ⟨s.push terms, none⟩ ∧
      Call.run b.dialect s (.clause c') = ⟨s.push terms', none⟩ ∧
      SameShape (b.rules false) (Text.join " " terms) (Text.join " " terms')
        (c.texts b) (c'.texts b) :=
  runs_alike (adds_guardedTerms hc) (adds_guardedTerms hc') (guardedTerms_alike hc hc' h) s

def matching (pattern : String) : Clause :=
  filter ⟨[(.name "name[~]", .text pattern)]⟩

theorem matching_isGuarded (pattern : String) : (matching pattern).IsGuarded .mssql := by
  have hkey : ConditionTerm.ofKey "name[~]" =
      .ok ⟨false, ⟨⟨none, none, "name"⟩, none, false, none⟩, some "~"⟩ := rfl
  refine ⟨⟨fun t ht token htoken => ?_, fun x hx => ?_⟩, trivial⟩
  · rw [hkey] at ht
    obtain rfl := Except.ok.inj ht
    obtain rfl := Option.some.inj htoken
    exact Or.inr (Or.inl rfl)
  · obtain rfl := List.mem_singleton.mp hx
    exact trivial

/-- A text that would end its quotes and its group if it could. -/
theorem same_shape_of_quotes :
    (matching "x') OR ('\x22]'='").IsGuarded .mssql ∧ (matching "é").IsGuarded .mssql ∧
      (matching "x') OR ('\x22]'='").EqualButTexts (matching "é") ∧
      ∃ terms terms', Call.run Builtin.mssql.dialect .empty
          (.clause (matching "x') OR ('\x22]'='")) = ⟨Statement.empty.push terms, none⟩ ∧
        Call.run Builtin.mssql.dialect .empty (.clause (matching "é")) =
          ⟨Statement.empty.push terms', none⟩ ∧
        SameShape (Builtin.mssql.rules false) (Text.join " " terms) (Text.join " " terms')
          ["%x') OR ('\x22]'='%"] ["%é%"] := by
  refine ⟨matching_isGuarded _, matching_isGuarded _, rfl, ?_⟩
  rcases same_shape (matching_isGuarded "x') OR ('\x22]'='") (matching_isGuarded "é") rfl .empty with
    ⟨e, _, he, _⟩ | h
  · cases he
  · exact h

end Clause

end TerseSql
