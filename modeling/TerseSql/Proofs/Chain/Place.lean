import TerseSql.Proofs.Chain.Link

/-!
# Legal places

Where a fragment may stand in a query: after SELECT, or in its only WHERE, before the clauses that
follow it. In the text of a query between others, a fragment that is added at the end stands in
such a place only if the query is the last one and has neither a WHERE nor a clause that follows
it.
-/

namespace TerseSql

open Statement Text

/-! ## Legal places -/

/-- Whether a term tells where WHERE belongs: it is WHERE, or it opens a clause that follows it. -/
def marksWhere (t : String) : Bool :=
  t == "WHERE" || followsWhere t

theorem not_marksWhere_of_plain {t : String} (h : t ∉ keywords) : marksWhere t = false := by
  have hwhere : t ≠ "WHERE" := by
    rintro rfl
    exact h (by decide)
  simp [marksWhere, hwhere, not_followsWhere_of_plain h]

/-- The terms of a query, and the same with a fragment in a place where it may stand. With it the
query has no second WHERE. -/
inductive Pagination.Legal : Pagination → List String → List String → Prop where
  | top {f keyword : String} {rest : List String} :
      keyword = "SELECT" ∨ keyword = "SELECT DISTINCT" → (f :: rest).count "WHERE" ≤ 1 →
      Legal ⟨f, .index 1⟩ (keyword :: rest) (keyword :: f :: rest)
  | opened {f : String} {before after : List String} : before ≠ [] →
      (∀ t ∈ before, marksWhere t = false) → IsTail after →
      Legal ⟨f, .inWhere⟩ (before ++ after) (before ++ "WHERE" :: f :: after)
  | conjoined {f : String} {before predicate after : List String} :
      (∀ t ∈ before, marksWhere t = false) → predicate ≠ [] →
      (∀ t ∈ predicate, marksWhere t = false) → IsTail after →
      Legal ⟨f, .inWhere⟩ (before ++ "WHERE" :: (predicate ++ after))
        (before ++ "WHERE" :: (conjoined f predicate ++ after))

namespace SelectTerms

variable (x : SelectTerms)

theorem head_unmarked : ∀ t ∈ x.head, marksWhere t = false :=
  fun t ht => not_marksWhere_of_plain (x.head_plain t ht)

theorem count_where_le : x.terms.count "WHERE" ≤ 1 := by
  by_cases hpredicate : x.predicate = []
  · have hnone : "WHERE" ∉ x.terms := by
      rw [Sections.terms, hpredicate, whereTerms, if_pos rfl, List.append_nil, List.mem_append,
        not_or]
      exact ⟨fun h => x.not_where_of_mem_head _ h rfl, x.isTail.plain⟩
    rw [List.count_eq_zero.mpr hnone]
    exact Nat.zero_le 1
  · exact (x.count_where hpredicate x.predicate_plain).le

theorem legal_conjoin (f : String) :
    Pagination.Legal ⟨f, .inWhere⟩ x.terms (x.conjoin f).terms := by
  by_cases hpredicate : x.predicate = []
  · have hopened := Pagination.Legal.opened (f := f) (by simp [x.head_eq]) x.head_unmarked x.isTail
    simpa [Sections.terms, Sections.conjoin, whereTerms, hpredicate, conjoined] using hopened
  · have hconjoined := Pagination.Legal.conjoined (f := f) x.head_unmarked hpredicate
      (fun t ht => not_marksWhere_of_plain (x.predicate_plain t ht)) x.isTail
    simpa [Sections.terms, Sections.conjoin, whereTerms, hpredicate,
      conjoined_ne_nil f x.predicate] using hconjoined

/-- Without a mark there are no sections but the first. -/
theorem marks_iff : (∃ t ∈ x.terms, marksWhere t = true) ↔ x.predicate ≠ [] ∨ x.tail ≠ [] := by
  constructor
  · rintro ⟨t, ht, hmarks⟩
    by_contra hnone
    rw [not_or, not_not, not_not] at hnone
    rw [Sections.terms, hnone.1, hnone.2, whereTerms, if_pos rfl, List.append_nil,
      List.append_nil] at ht
    rw [x.head_unmarked t ht] at hmarks
    cases hmarks
  · rintro (hpredicate | htail)
    · refine ⟨"WHERE", ?_, rfl⟩
      simp [Sections.terms, whereTerms, hpredicate]
    · obtain ⟨u, tail, hu⟩ := List.exists_cons_of_ne_nil htail
      have hopens := x.isTail.opens (t := u) (by rw [hu]; rfl)
      exact ⟨u, by simp [Sections.terms, hu], by simp [marksWhere, hopens]⟩

end SelectTerms

/-! ## Places in a longer list of terms -/

theorem Sections.place_append (x : Sections) (h : x.predicate ≠ [] ∨ x.tail ≠ [])
    {us : List String} (hus : "WHERE" ∉ us) (f : String) :
    place ⟨f, .inWhere⟩ (x.terms ++ us) = (x.conjoin f).terms ++ us := by
  by_cases htail : x.tail = []
  · -- The predicate is taken to go on to the end.
    have hpredicate : x.predicate ≠ [] := h.resolve_right (not_not.mpr htail)
    obtain ⟨p, rest, hp⟩ := List.exists_cons_of_ne_nil hpredicate
    let y : Sections := { x with predicate := x.predicate ++ us }
    have hy : y.terms = x.terms ++ us := by
      simp [y, Sections.terms, whereTerms, hpredicate, htail]
    have hconjoined : conjoined f (x.predicate ++ us) = conjoined f x.predicate ++ us := by
      rw [hp]
      exact conjoinPredicate_append p rest us
    rw [← hy, y.place_terms]
    simp [y, Sections.terms, Sections.conjoin, whereTerms, hconjoined, htail,
      conjoined_ne_nil f x.predicate]
  · obtain ⟨t, tail, ht⟩ := List.exists_cons_of_ne_nil htail
    let y : Sections :=
      { x with
        tail := x.tail ++ us
        isTail :=
          { opens := fun hu => x.isTail.opens (by rw [ht] at hu ⊢; exact hu)
            plain := by
              rw [List.mem_append, not_or]
              exact ⟨x.isTail.plain, hus⟩ } }
    have hy : y.terms = x.terms ++ us := by simp [y, Sections.terms]
    rw [← hy, y.place_terms]
    simp [y, Sections.terms, Sections.conjoin]

/-- A WHERE for a query without marks goes to the end of everything. -/
theorem place_end {ts us : List String} (hts : ∀ t ∈ ts, t ∉ keywords)
    (hopens : ∀ u, us.head? = some u → isUnion u = true) (hus : "WHERE" ∉ us) (f : String) :
    place ⟨f, .inWhere⟩ (ts ++ us) = ts ++ us ++ ["WHERE", f] := by
  have hwhere : "WHERE" ∉ ts ++ us := by
    rw [List.mem_append, not_or]
    exact ⟨fun h => hts _ h (by decide), hus⟩
  have hstays : ∀ t ∈ ts, (!isUnion t) = true := by
    intro t ht
    rw [not_isUnion_of_plain (hts t ht)]
    rfl
  have hstops : us.takeWhile (!isUnion ·) = [] := by
    cases us with
    | nil => rfl
    | cons u us => simp [hopens u rfl]
  have hslot : whereSlot (ts ++ us) = (ts ++ us).length := by
    unfold whereSlot
    rw [List.takeWhile_append_of_pos hstays, hstops, List.append_nil]
    have hnone : ts.findIdx? followsWhere = none := by
      rw [List.findIdx?_eq_none_iff]
      exact fun t ht => not_followsWhere_of_plain (hts t ht)
    rw [hnone]
    rfl
  show (conjoinWhere f (ts ++ us)).getD _ = _
  rw [conjoinWhere_of_not_mem hwhere, Option.getD_none, hslot]
  unfold insertAt
  rw [List.take_length, List.drop_length, List.append_nil]

/-! ## Fragments as texts -/

namespace Pagination

variable {c : Char}

def IsRowText (f : String) : Prop :=
  ∀ c ∈ f.toList, c.isDigit = true ∨ c ∈ "ROWNUM<>= AND".toList

theorem IsRowText.not_mem {f : String} (h : IsRowText f) (hdigit : c.isDigit = false)
    (hc : c ∉ "ROWNUM<>= AND".toList) : c ∉ f.toList := by
  intro hmem
  rcases h c hmem with hd | hd
  · rw [hd] at hdigit
    cases hdigit
  · exact hc hd

theorem isRowText_rowNumbers (w : Window) : IsRowText (rowNumbers w.count w.offset) := by
  have hlow : "ROWNUM >= ".toList ⊆ "ROWNUM<>= AND".toList := by decide
  have hand : " AND ROWNUM <= ".toList ⊆ "ROWNUM<>= AND".toList := by decide
  have hhigh : "ROWNUM <= ".toList ⊆ "ROWNUM<>= AND".toList := by decide
  have hnumber : ∀ n, ∀ d ∈ (number n).toList, d.isDigit = true :=
    fun n d hd => Reading.digit_of_mem_number hd
  intro d hd
  unfold rowNumbers at hd
  cases hoffset : w.offset with
  | none =>
    rw [hoffset, String.toList_append, List.mem_append] at hd
    exact hd.symm.imp (hnumber _ d) fun hd => hhigh hd
  | some m =>
    rw [hoffset] at hd
    simp only [String.toList_append, List.mem_append] at hd
    rcases hd with ((hd | hd) | hd) | hd
    · exact Or.inr (hlow hd)
    · exact Or.inl (hnumber _ d hd)
    · exact Or.inr (hand hd)
    · exact Or.inl (hnumber _ d hd)

theorem hasNaming_number (n : UInt64) : hasNaming (number n) = false := by
  have hmarks : ['*', '"', '\x60', '['].all (fun c => !c.isDigit) = true := by decide
  rw [Bool.eq_false_iff]
  intro hnaming
  obtain ⟨c, hc, hmark⟩ := List.any_eq_true.mp hnaming
  have hmem : c ∈ ['*', '"', '\x60', '['] := by simpa [isNaming, or_assoc] using hmark
  have hdigit := List.all_eq_true.mp hmarks c hmem
  rw [Reading.digit_of_mem_number hc] at hdigit
  cases hdigit

end Pagination

/-! ## Texts that commute -/

/-- What commutes with something is made of it. -/
theorem subset_of_commute {α : Type} {u y : List α} (hu : u ≠ []) (h : y ++ u = u ++ y) :
    y ⊆ u := by
  rcases List.append_eq_append_iff.mp h with ⟨a, ha, -⟩ | ⟨a, hya, hay⟩
  · rw [ha]
    exact List.subset_append_left y a
  · have hshorter : a.length < y.length := by
      have hlength := List.length_pos_of_ne_nil hu
      rw [hya, List.length_append]
      omega
    have ha : a ⊆ u := subset_of_commute hu (hay.symm.trans hya)
    rw [hya]
    exact List.append_subset.mpr ⟨List.Subset.refl u, ha⟩
termination_by y.length

def parens : List String → Nat
  | [] => 0
  | t :: ts => t.toList.count '(' + parens ts

@[simp]
theorem parens_append (ts us : List String) : parens (ts ++ us) = parens ts + parens us := by
  induction ts with
  | nil => simp [parens]
  | cons t ts ih => rw [List.cons_append, parens, parens, ih, Nat.add_assoc]

theorem count_glued (ts : List String) : (glued " " ts).toList.count '(' = parens ts := by
  have hspace : " ".toList.count '(' = 0 := by decide
  induction ts with
  | nil => rfl
  | cons t ts ih =>
    rw [glued, String.toList_append, String.toList_append, List.count_append, List.count_append,
      hspace, ih, Nat.zero_add, parens]

theorem count_join (ts : List String) : (join " " ts).toList.count '(' = parens ts := by
  cases ts with
  | nil => rfl
  | cons t ts => rw [join_cons, String.toList_append, List.count_append, count_glued, parens]

theorem parens_conjoined (f : String) {predicate : List String} (h : predicate ≠ []) :
    parens predicate < parens (conjoined f predicate) := by
  obtain ⟨p, rest, rfl⟩ := List.exists_cons_of_ne_nil h
  have hopen : "(".toList.count '(' = 1 := by decide
  have hboth : ") AND (".toList.count '(' = 1 := by decide
  have hconjunct : "AND (".toList.count '(' = 1 := by decide
  rw [conjoined, conjoinPredicate]
  by_cases hcompound : isCompound p = true
  · simp only [if_pos hcompound, parens, String.toList_append, List.count_append]
    omega
  · simp only [if_neg hcompound, parens, String.toList_append, List.count_append]
    omega

/-! ## Fragments at the end -/

namespace Pagination.Legal

variable {f : String} {ts ts' : List String} (h : Legal ⟨f, .inWhere⟩ ts ts')
include h

/-- A WHERE at the very end is in a legal place of a query only if little comes after the query
and nothing in it tells where WHERE belongs. -/
theorem unmarked_of_end (hf : IsRowText f) {L R : String}
    (heq : L ++ join " " ts' ++ R = L ++ join " " ts ++ R ++ " WHERE " ++ f) :
    R.toList ⊆ (" WHERE " ++ f).toList ∧ ∀ t ∈ ts, marksWhere t = false := by
  cases h with
  | @opened _ before after hne hbefore htail =>
    have hwhere : glued " " ("WHERE" :: f :: after) = " WHERE " ++ f ++ glued " " after := by
      apply String.toList_injective
      simp [glued]
    rw [join_append " " hne, join_append " " hne, hwhere] at heq
    -- What comes after the place in the text commutes with the new WHERE.
    have hcommute : ((glued " " after).toList ++ R.toList) ++ (" WHERE " ++ f).toList =
        (" WHERE " ++ f).toList ++ ((glued " " after).toList ++ R.toList) := by
      have hlists := congrArg String.toList heq
      simp only [String.toList_append, List.append_assoc, List.append_cancel_left_eq] at hlists ⊢
      exact hlists.symm
    have hsubset := subset_of_commute (by simp) hcommute
    have hafter : after = [] := by
      by_contra hsome
      obtain ⟨u, rest, rfl⟩ := List.exists_cons_of_ne_nil hsome
      have hmem : ∀ c ∈ u.toList, c ∈ " WHERE ".toList ∨ c ∈ f.toList := by
        intro c hc
        rw [← List.mem_append, ← String.toList_append]
        exact hsubset (by simp [glued, hc])
      have hforeign : 'B' ∈ u.toList ∨ 'I' ∈ u.toList := by
        rcases followsWhere_iff.mp (htail.opens rfl) with rfl | rfl | rfl <;> decide
      rcases hforeign with hc | hc
      · exact (hmem _ hc).elim (by decide) (hf.not_mem (by decide) (by decide))
      · exact (hmem _ hc).elim (by decide) (hf.not_mem (by decide) (by decide))
    subst hafter
    refine ⟨fun c hc => hsubset (List.mem_append_right _ hc), ?_⟩
    rwa [List.append_nil]
  | @conjoined _ before predicate after _ hne _ _ =>
    -- A conjunct has parentheses, and there are none at the end.
    exfalso
    have hparen : '(' ∉ f.toList := hf.not_mem (by decide) (by decide)
    have hcount := congrArg (fun s => s.toList.count '(') heq
    have hwhere : " WHERE ".toList.count '(' = 0 := by decide
    have hmore := parens_conjoined f hne
    simp only [String.toList_append, List.count_append, count_join, parens_append, parens,
      List.count_eq_zero_of_not_mem hparen, hwhere] at hcount
    omega

end Pagination.Legal

theorem Pagination.Legal.not_after {f : String} {ts ts' : List String}
    (h : Legal ⟨f, .index 1⟩ ts ts') (hf : hasNaming f = false)
    (hts : ∃ t ∈ ts.tail, hasNaming t = true) {R : String} :
    join " " ts' ++ R ≠ join " " ts ++ " " ++ f ++ R := by
  cases h with
  | @top _ keyword rest _ _ =>
    intro heq
    obtain ⟨t, ht, hnaming⟩ := hts
    rw [join_cons, join_cons, glued] at heq
    have hcommute : (glued " " rest).toList ++ (" " ++ f).toList =
        (" " ++ f).toList ++ (glued " " rest).toList := by
      have hlists := congrArg String.toList heq
      simp only [String.toList_append, List.append_assoc, List.append_cancel_left_eq] at hlists ⊢
      simp only [← List.append_assoc, List.append_cancel_right_eq] at hlists
      simpa using hlists.symm
    have hrest : (glued " " rest).toList.any isNaming = true := any_glued ht hnaming
    obtain ⟨c, hc, hmark⟩ := List.any_eq_true.mp hrest
    have hmem := subset_of_commute (by simp) hcommute hc
    have hnone : hasNaming (" " ++ f) = true := List.any_eq_true.mpr ⟨c, hmem, hmark⟩
    rw [hasNaming_append, hf] at hnone
    exact absurd hnone (by decide)

end TerseSql
