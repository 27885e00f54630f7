import TerseSql.Proofs.Chain.Place

/-!
# Windows of chains

A window of a chain is to bind one of its queries, in a legal place. Where it goes after SELECT
that is so if the first query is in place. Where it goes into WHERE it is so if the first query is
in place and tells where WHERE belongs, or if the last query can have a WHERE at its end.
-/

namespace TerseSql

open Statement Text

/-! ## Places in chains -/

namespace Chain

/-- The terms of one query of a chain, and the texts before and after it. -/
inductive Holds (c : Chain) : String → List String → String → Prop where
  | first : Holds c "" c.first (glued " " (c.links.map Link.text))
  | link {before after : List Link} {l : Link} : c.links = before ++ l :: after →
      Holds c (join " " c.first ++ glued " " (before.map Link.text) ++ " " ++ l.opening) l.terms
        (l.closing ++ glued " " (after.map Link.text))

theorem Holds.text_eq {c : Chain} {before after : String} {ts : List String}
    (h : c.Holds before ts after) : c.text = before ++ join " " ts ++ after := by
  apply String.toList_injective
  cases h with
  | first => simp [text]
  | link hlinks => simp [text, hlinks, glued_append, glued, Link.text]

/-- A text is that of the chain, but for a fragment in a legal place of one of its queries. -/
def Lands (p : Pagination) (c : Chain) (s : String) : Prop :=
  ∃ before ts after ts', c.Holds before ts after ∧ p.Legal ts ts' ∧
    s = before ++ join " " ts' ++ after

def last (c : Chain) : Link :=
  c.links.getLastD ⟨"", c.first, ""⟩

/-- A fragment after SELECT needs the first query in place. One in WHERE needs it in place with a
mark of where WHERE belongs, or else the last query without one and without parentheses. -/
def HasPlace (c : Chain) : Placement → Prop
  | .inWhere => (c.inPlace = true ∧ ∃ t ∈ c.first, marksWhere t = true) ∨
      (c.last.closing = "" ∧ ∀ t ∈ c.last.terms, marksWhere t = false)
  | _ => c.inPlace = true

/-- The text of a chain with a fragment that has no place: after the first query, or in a WHERE
after everything. -/
def misplaced (c : Chain) (p : Pagination) : String :=
  match p.placement with
  | .inWhere => c.text ++ " WHERE " ++ p.sql
  | _ => join " " c.first ++ " " ++ p.sql ++ glued " " (c.links.map Link.text)

theorem exists_holds_last (c : Chain) : ∃ before, c.Holds before c.last.terms c.last.closing := by
  unfold last
  rcases List.eq_nil_or_concat c.links with hnil | ⟨ls, l, hlinks⟩
  · have hfirst := Holds.first (c := c)
    rw [hnil] at hfirst ⊢
    exact ⟨_, hfirst⟩
  · rw [List.concat_eq_append] at hlinks
    have hlink := Holds.link hlinks
    rw [List.map_nil, glued, String.append_empty] at hlink
    rw [hlinks, List.getLastD_concat]
    exact ⟨_, hlink⟩

theorem exists_glued {links : List Link} (h : ∀ l ∈ links, l.IsMade) (hne : links ≠ []) :
    ∃ z, glued " " (links.map Link.text) = " UNION " ++ z := by
  obtain ⟨l, rest, rfl⟩ := List.exists_cons_of_ne_nil hne
  obtain ⟨o, ho⟩ := (h l List.mem_cons_self).exists_opening
  refine ⟨o ++ join " " l.terms ++ l.closing ++ glued " " (rest.map Link.text), ?_⟩
  apply String.toList_injective
  simp [glued, Link.text, ho]

namespace Fills

variable {c : Chain} {s : Statement} (h : c.Fills s) {f : String}
include h

theorem exists_selectTerms {before after : String} {ts : List String}
    (hholds : c.Holds before ts after) : ∃ x : SelectTerms, ts = x.terms := by
  cases hholds with
  | first => exact h.first
  | @link before after l hsplit =>
    exact (h.links l (by rw [hsplit]; simp)).exists_selectTerms

/-! ### Fragments in WHERE -/

theorem lands_inPlace (hin : c.inPlace = true) (hmarks : ∃ t ∈ c.first, marksWhere t = true) :
    c.Lands ⟨f, .inWhere⟩ (join " " (place ⟨f, .inWhere⟩ s.terms)) := by
  obtain ⟨x, hx⟩ := h.first
  obtain ⟨us, hs, hus⟩ := h.terms
  rw [lead, if_pos hin, hx] at hs
  rw [hx, x.marks_iff] at hmarks
  have hlegal := x.legal_conjoin f
  rw [← hx] at hlegal
  refine ⟨_, _, _, _, Holds.first, hlegal, ?_⟩
  have hne : (x.conjoin f).terms ≠ [] := by simp [Sections.terms, Sections.conjoin, x.head_eq]
  rw [hs, x.place_append hmarks hus.plain, join_append " " hne, hus.text, String.empty_append]

theorem join_place_end (hnot : ¬(c.inPlace = true ∧ ∃ t ∈ c.first, marksWhere t = true)) :
    join " " (place ⟨f, .inWhere⟩ s.terms) = c.text ++ " WHERE " ++ f := by
  obtain ⟨x, hx⟩ := h.first
  obtain ⟨us, hs, hus⟩ := h.terms
  have hplain : ∀ t ∈ c.lead, t ∉ keywords := by
    unfold lead
    by_cases hin : c.inPlace = true
    · rw [if_pos hin, hx]
      have hnone : ¬(x.predicate ≠ [] ∨ x.tail ≠ []) := by
        rw [← x.marks_iff, ← hx]
        exact fun hmarks => hnot ⟨hin, hmarks⟩
      rw [not_or, not_not, not_not] at hnone
      simpa [Sections.terms, whereTerms, hnone.1, hnone.2] using x.head_plain
    · rw [if_neg hin, hx]
      simpa using not_keyword_of_foreign (hasForeign_of_naming x.hasNaming_body)
  rw [← h.body_eq, Statement.body, hs, place_end hplain (fun u hu => hus.opens hu) hus.plain,
    ← hs, join_append " " h.terms_ne_nil]
  apply String.toList_injective
  simp [glued]

theorem lands_last (hclosing : c.last.closing = "")
    (hmarks : ∀ t ∈ c.last.terms, marksWhere t = false) :
    c.Lands ⟨f, .inWhere⟩ (c.text ++ " WHERE " ++ f) := by
  obtain ⟨before, hholds⟩ := c.exists_holds_last
  obtain ⟨x, hx⟩ := h.exists_selectTerms hholds
  have hne : c.last.terms ≠ [] := by
    obtain ⟨more, hmore, -⟩ := x.terms_eq_cons
    simp [hx, hmore]
  have hlegal := Pagination.Legal.opened (f := f) hne hmarks IsTail.nil
  rw [List.append_nil] at hlegal
  refine ⟨_, _, _, _, hholds, hlegal, ?_⟩
  rw [hholds.text_eq, hclosing, join_append " " hne]
  apply String.toList_injective
  simp [glued]

theorem last_of_lands_end (hf : Pagination.IsRowText f)
    (hlands : c.Lands ⟨f, .inWhere⟩ (c.text ++ " WHERE " ++ f)) :
    c.last.closing = "" ∧ ∀ t ∈ c.last.terms, marksWhere t = false := by
  obtain ⟨before, ts, after, ts', hholds, hlegal, heq⟩ := hlands
  rw [hholds.text_eq] at heq
  obtain ⟨hsubset, hmarks⟩ := hlegal.unmarked_of_end hf heq.symm
  -- The word of a link has an `I`, and no range of row numbers has one.
  have hlinks : ∀ {links : List Link}, (∀ l ∈ links, l.IsMade) →
      (glued " " (links.map Link.text)).toList ⊆ (" WHERE " ++ f).toList → links = [] := by
    intro links hmade hlinks
    by_contra hne
    obtain ⟨z, hz⟩ := exists_glued hmade hne
    rw [hz] at hlinks
    have hi : 'I' ∉ f.toList := hf.not_mem (by decide) (by decide)
    have hmem : 'I' ∈ (" WHERE " ++ f).toList := hlinks (by simp)
    simp [hi] at hmem
  cases hholds with
  | first =>
    have hnil := hlinks h.links hsubset
    unfold last
    rw [hnil]
    exact ⟨rfl, hmarks⟩
  | @link before after l hsplit =>
    have hmade : ∀ m ∈ l :: after, m.IsMade :=
      fun m hm => h.links m (by rw [hsplit]; exact List.mem_append_right _ hm)
    rw [List.forall_mem_cons] at hmade
    have hrest : (glued " " (after.map Link.text)).toList ⊆ (" WHERE " ++ f).toList :=
      fun c hc => hsubset (by simp [hc])
    have hnil := hlinks hmade.2 hrest
    have hlast : c.last = l := by
      unfold last
      rw [hsplit, hnil, List.getLastD_concat]
    rw [hlast]
    refine ⟨hmade.1.closing_cases.resolve_right fun hc => ?_, hmarks⟩
    have hclose : ')' ∉ f.toList := hf.not_mem (by decide) (by decide)
    have hmem : ')' ∈ (" WHERE " ++ f).toList := hsubset (by simp [hc])
    simp [hclose] at hmem

theorem lands_inWhere_iff (hf : Pagination.IsRowText f) :
    (c.Lands ⟨f, .inWhere⟩ (join " " (place ⟨f, .inWhere⟩ s.terms)) ↔ c.HasPlace .inWhere) ∧
    (¬c.HasPlace .inWhere →
      join " " (place ⟨f, .inWhere⟩ s.terms) = c.misplaced ⟨f, .inWhere⟩) := by
  by_cases hfirst : c.inPlace = true ∧ ∃ t ∈ c.first, marksWhere t = true
  · have hlands := h.lands_inPlace (f := f) hfirst.1 hfirst.2
    exact ⟨⟨fun _ => Or.inl hfirst, fun _ => hlands⟩, fun hnot => absurd (Or.inl hfirst) hnot⟩
  · rw [h.join_place_end hfirst]
    refine ⟨⟨fun hlands => Or.inr (h.last_of_lands_end hf hlands), ?_⟩, fun _ => rfl⟩
    rintro (hplace | ⟨hclosing, hmarks⟩)
    · exact absurd hplace hfirst
    · exact h.lands_last hclosing hmarks

/-! ### Fragments after SELECT -/

theorem lands_second (hin : c.inPlace = true) (hf : f ≠ "WHERE") :
    c.Lands ⟨f, .index 1⟩ (join " " (place ⟨f, .index 1⟩ s.terms)) := by
  obtain ⟨x, hx⟩ := h.first
  obtain ⟨more, hmore, -⟩ := x.terms_eq_cons
  obtain ⟨us, hs, hus⟩ := h.terms
  rw [lead, if_pos hin, hx, hmore] at hs
  have hcount : (f :: more).count "WHERE" ≤ 1 := by
    have hle := x.count_where_le
    rw [hmore, List.count_cons] at hle
    rw [List.count_cons_of_ne hf]
    omega
  have hlegal := Pagination.Legal.top x.opens hcount
  rw [← hmore, ← hx] at hlegal
  refine ⟨_, _, _, _, Holds.first, hlegal, ?_⟩
  rw [hs, List.cons_append, place_second, ← hus.text, String.empty_append,
    ← join_append " " (List.cons_ne_nil _ _)]
  rfl

theorem join_place_second (hin : c.inPlace ≠ true) :
    join " " (place ⟨f, .index 1⟩ s.terms) =
      join " " c.first ++ " " ++ f ++ glued " " (c.links.map Link.text) := by
  obtain ⟨us, hs, hus⟩ := h.terms
  rw [lead, if_neg hin] at hs
  rw [hs, List.singleton_append, place_second, join_cons, glued, hus.text]
  simp only [String.append_assoc]

theorem not_lands_second {g : String} (hf : f = "TOP " ++ g) (hg : hasNaming g = false) :
    ¬c.Lands ⟨f, .index 1⟩
      (join " " c.first ++ " " ++ f ++ glued " " (c.links.map Link.text)) := by
  have hnaming : hasNaming f = false := by
    have htop : hasNaming "TOP " = false := by decide
    rw [hf, hasNaming_append, htop, hg]
    rfl
  rintro ⟨before, ts, after, ts', hholds, hlegal, heq⟩
  cases hholds with
  | first =>
    obtain ⟨x, hx⟩ := h.first
    obtain ⟨more, hmore, hnamed⟩ := x.terms_eq_cons
    rw [String.empty_append] at heq
    refine hlegal.not_after hnaming ?_ heq.symm
    rw [hx, hmore]
    exact hnamed
  | @link before after l hsplit =>
    have hmade : ∀ m ∈ before ++ [l], m.IsMade := by
      intro m hm
      apply h.links
      rw [hsplit, List.append_cons]
      exact List.mem_append_left _ hm
    have hopening : ∃ z, glued " " (before.map Link.text) ++ " " ++ l.opening = " UNION " ++ z := by
      by_cases hnil : before = []
      · obtain ⟨o, ho⟩ := (hmade l (by simp)).exists_opening
        refine ⟨o, ?_⟩
        rw [hnil, ho]
        rfl
      · obtain ⟨z, hz⟩ :=
          exists_glued (fun m hm => hmade m (List.mem_append_left _ hm)) hnil
        exact ⟨z ++ " " ++ l.opening, by rw [hz]; simp only [String.append_assoc]⟩
    -- The next word of one text is UNION, and that of the other one is TOP.
    obtain ⟨z, hz⟩ := hopening
    have hbefore : join " " c.first ++ glued " " (before.map Link.text) ++ " " ++ l.opening =
        join " " c.first ++ (" UNION " ++ z) := by
      rw [← hz]
      simp only [String.append_assoc]
    rw [hbefore, hf] at heq
    have hlists := congrArg String.toList heq
    simp at hlists

theorem lands_second_iff {g : String} (hf : f = "TOP " ++ g) (hg : hasNaming g = false) :
    (c.Lands ⟨f, .index 1⟩ (join " " (place ⟨f, .index 1⟩ s.terms)) ↔ c.HasPlace (.index 1)) ∧
    (¬c.HasPlace (.index 1) →
      join " " (place ⟨f, .index 1⟩ s.terms) = c.misplaced ⟨f, .index 1⟩) := by
  have hwhere : f ≠ "WHERE" := by
    rintro rfl
    have hlists := congrArg String.toList hf
    simp at hlists
  by_cases hin : c.inPlace = true
  · exact ⟨⟨fun _ => hin, fun _ => h.lands_second hin hwhere⟩, fun hnot => absurd hin hnot⟩
  · rw [h.join_place_second hin]
    have hnot := h.not_lands_second hf hg
    exact ⟨⟨fun hlands => absurd hlands hnot, fun hplace => absurd hplace hin⟩, fun _ => rfl⟩

end Fills

/-- A window of a chain has a legal place exactly if its first query is in place, where it goes
after SELECT; or, where it goes into WHERE, if the first query is in place with a mark of where
WHERE belongs, or the last one has no such mark and no parentheses. Otherwise it follows the first
query, or everything, and belongs to no query of the chain. -/
theorem limit_lands_iff {b : Builtin} {c : Chain} {s : Statement} (h : c.Builds b.dialect s)
    {v : Value} {w : Window} (hw : Window.ofValue v = .ok w)
    (hb : b = .oracle ∨ b = .mssql ∧ w.offset = none) {p : Pagination}
    (hp : w.fragment b.dialect.toLexicon = p) :
    s.body = c.text ∧
    (∀ before ts after, c.Holds before ts after → ts.count "WHERE" ≤ 1) ∧
    ∃ t, Call.run b.dialect s (.clause (.limit v)) = ⟨t, none⟩ ∧ t.wrapping = s.wrapping ∧
      (c.Lands p t.body ↔ c.HasPlace p.placement) ∧
      (¬c.HasPlace p.placement → t.body = c.misplaced p) := by
  have hfills := h.fills
  refine ⟨hfills.body_eq, fun before ts after hholds => ?_,
    { s with terms := place p s.terms }, ?_, rfl, ?_⟩
  · obtain ⟨x, rfl⟩ := hfills.exists_selectTerms hholds
    exact x.count_where_le
  · rw [← hp]
    exact Plan.run_cons_ok (Clause.run_limit b.dialect s hw) []
  · rcases hb with rfl | ⟨rfl, hnone⟩
    · have hp' : p = ⟨Pagination.rowNumbers w.count w.offset, .inWhere⟩ := hp.symm
      subst hp'
      exact hfills.lands_inWhere_iff (Pagination.isRowText_rowNumbers w)
    · rw [Window.fragment_top hnone] at hp
      subst hp
      exact hfills.lands_second_iff rfl (Pagination.hasNaming_number w.count)

/-! ## A chain whose last query has a WHERE -/

def names : Statement :=
  (Call.run Builtin.oracle.dialect .empty (.select [.table "t"] [.name "a"] none .none)).statement

def isOne : Dict Value :=
  ⟨[(.name "a", .int 1)]⟩

def ones : Statement :=
  (Call.run Builtin.oracle.dialect .empty
    (.select [.table "t2"] [.name "a"] (some isOne) .none)).statement

theorem isSelect_names : names.IsSelect := by
  have hplan : Plan.select [.table "t"] [.name "a"] .empty .none =
      [.ok (.select [.name "a"] false), .ok (.fromSources [.table "t"]),
        .ok (.filter .empty)] := rfl
  have hrun : Call.run Builtin.oracle.dialect .empty
      (.select [.table "t"] [.name "a"] none .none) = ⟨names, none⟩ := rfl
  refine Statement.isSelect_of_call ?_ hrun
  rw [Option.getD_none, hplan]
  have hlone : Condition.Tree.loneOf? (Condition.Tree.ofDict .empty) = none := rfl
  simp [Clause.IsRawless, hlone]

theorem isSelect_ones : ones.IsSelect := by
  have hplan : Plan.select [.table "t2"] [.name "a"] isOne .none =
      [.ok (.select [.name "a"] false), .ok (.fromSources [.table "t2"]),
        .ok (.filter isOne)] := rfl
  have hrun : Call.run Builtin.oracle.dialect .empty
      (.select [.table "t2"] [.name "a"] (some isOne) .none) = ⟨ones, none⟩ := rfl
  refine Statement.isSelect_of_call ?_ hrun
  rw [Option.getD_some, hplan]
  have hlone : Condition.Tree.loneOf? (Condition.Tree.ofDict isOne) = none := rfl
  simp [Clause.IsRawless, hlone]

def onesQuery : Query :=
  ⟨Builtin.oracle.dialect.toLexicon, ones⟩

def namesOrOnes : Chain :=
  ⟨true, names.terms, [.chained onesQuery]⟩

def namesOrOnesText : String :=
  "SELECT \x22a\x22 FROM \x22t\x22 UNION SELECT \x22a\x22 FROM \x22t2\x22 WHERE \x22a\x22 = 1"

/-- The last query has a WHERE, and after everything comes a second one, in no legal place. -/
theorem limit_lands_iff_of_later_where :
    ∃ s t, namesOrOnes.Builds Builtin.oracle.dialect s ∧ s.body = namesOrOnesText ∧
      Call.run Builtin.oracle.dialect s (.clause (.limit (.int 5))) = ⟨t, none⟩ ∧
      t.body = namesOrOnesText ++ " WHERE ROWNUM <= 5" ∧
      ¬namesOrOnes.Lands ⟨"ROWNUM <= 5", .inWhere⟩ t.body := by
  have hqueries : ∀ q ∈ [onesQuery], q.statement.IsSelect := by
    simpa [onesQuery] using isSelect_ones
  have hbuilt : namesOrOnes.Builds Builtin.oracle.dialect
      (Call.run Builtin.oracle.dialect names (.union [onesQuery])).statement :=
    .union (.select isSelect_names) hqueries
  have hfirst : ∀ t ∈ names.terms, marksWhere t = false := by
    show ∀ t ∈ ["SELECT", "\x22a\x22", "FROM", "\x22t\x22"], marksWhere t = false
    decide
  have hlast : "WHERE" ∈ namesOrOnes.last.terms := by
    show "WHERE" ∈ ["SELECT", "\x22a\x22", "FROM", "\x22t2\x22", "WHERE", "\x22a\x22 = 1"]
    decide
  have hplace : ¬namesOrOnes.HasPlace .inWhere := by
    rintro (⟨-, t, ht, hmarks⟩ | ⟨-, hmarks⟩)
    · rw [hfirst t ht] at hmarks
      cases hmarks
    · exact absurd (hmarks _ hlast) (by decide)
  have hfive : Window.ofValue (.int 5) = .ok (.make 5 none) := rfl
  obtain ⟨htext, -, t, hrun, -, hlands, hmisplaced⟩ :=
    limit_lands_iff hbuilt hfive (Or.inl rfl) rfl
  exact ⟨_, t, hbuilt, htext, hrun, hmisplaced hplace, fun h => hplace (hlands.mp h)⟩

end Chain

end TerseSql
