import TerseSql.Proofs.Chain.Query

/-!
# Windows around other terms

A fragment is put before some terms or after them and leaves them together, unless the terms
before them end in a WHERE without a predicate: then it is put behind the first of them, which is
taken for the predicate.
-/

namespace TerseSql

open Statement

/-! ## A WHERE at the end -/

/-- The last term is WHERE, so that what comes next is taken for its predicate. -/
def EndsInWhere (ts : List String) : Prop :=
  ts.getLast? = some "WHERE"

namespace EndsInWhere

@[simp]
theorem nil_iff : EndsInWhere [] ↔ False :=
  iff_of_false (fun h => nomatch h) id

@[simp]
theorem singleton_iff {t : String} : EndsInWhere [t] ↔ t = "WHERE" := by
  simp [EndsInWhere]

@[simp]
theorem cons_cons_iff {t u : String} {ts : List String} :
    EndsInWhere (t :: u :: ts) ↔ EndsInWhere (u :: ts) := by
  simp [EndsInWhere]

@[simp]
theorem append_cons_iff {ts us : List String} {u : String} :
    EndsInWhere (ts ++ u :: us) ↔ EndsInWhere (u :: us) := by
  simp [EndsInWhere, List.getLast?_append]

variable {ts us : List String}

theorem mem (h : EndsInWhere ts) : "WHERE" ∈ ts :=
  List.mem_of_getLast? h

theorem of_append (h : EndsInWhere (ts ++ us)) : EndsInWhere ts ∨ EndsInWhere us := by
  cases us with
  | nil =>
    rw [List.append_nil] at h
    exact .inl h
  | cons u us => exact .inr (append_cons_iff.mp h)

theorem not_append (hts : ¬EndsInWhere ts) (hus : ¬EndsInWhere us) : ¬EndsInWhere (ts ++ us) :=
  fun h => h.of_append.elim hts hus

/-- What is last in a list with other terms put into it was last before, or is last in these. -/
theorem of_insertAt {n : Nat} {added : List String} (h : EndsInWhere (insertAt n added ts)) :
    EndsInWhere ts ∨ EndsInWhere added ∨ added = [] := by
  unfold insertAt at h
  cases hdrop : ts.drop n with
  | nil =>
    rw [hdrop, List.append_nil] at h
    cases added with
    | nil => exact .inr (.inr rfl)
    | cons t added => exact .inr (.inl (append_cons_iff.mp h))
  | cons u us =>
    rw [hdrop] at h
    refine .inl ?_
    rw [← List.take_append_drop n ts, hdrop]
    exact append_cons_iff.mpr (append_cons_iff.mp h)

end EndsInWhere

/-! ## Fragments in WHERE -/

section

variable {fragment : String} {before : List String}

theorem conjoinWhere_append_of_not_mem (h : "WHERE" ∉ before) (rest : List String) :
    conjoinWhere fragment (before ++ rest) =
      (conjoinWhere fragment rest).map (before ++ ·) := by
  induction before with
  | nil => simp
  | cons t before ih =>
    rw [List.mem_cons, not_or] at h
    rw [List.cons_append, conjoinWhere, if_neg (Ne.symm h.1), ih h.2, Option.map_map]
    rfl

theorem ne_where_of_paren {s : String} (h : '(' ∈ s.toList) : s ≠ "WHERE" := by
  rintro rfl
  exact absurd h (by decide)

/-- A WHERE that does not come last has a predicate, and only that is changed. -/
theorem exists_conjoinWhere (fragment : String) (hmem : "WHERE" ∈ before)
    (hends : ¬EndsInWhere before) :
    ∃ before', before' ≠ [] ∧ ¬EndsInWhere before' ∧
      ∀ rest, conjoinWhere fragment (before ++ rest) = some (before' ++ rest) := by
  obtain ⟨head, tail, rfl, hhead⟩ := List.eq_append_cons_of_mem hmem
  cases tail with
  | nil => exact absurd (by simp) hends
  | cons predicate tail =>
    rw [EndsInWhere.append_cons_iff, EndsInWhere.cons_cons_iff] at hends
    refine ⟨head ++ "WHERE" :: conjoinPredicate fragment (predicate :: tail), by simp, ?_,
      fun rest => ?_⟩
    · have hand : "AND (" ++ fragment ++ ")" ≠ "WHERE" := ne_where_of_paren (by simp)
      have hboth : "(" ++ predicate ++ ") AND (" ++ fragment ++ ")" ≠ "WHERE" :=
        ne_where_of_paren (by simp)
      rw [EndsInWhere.append_cons_iff, conjoinPredicate]
      by_cases hcompound : isCompound predicate = true
      · rw [if_pos hcompound]
        cases tail with
        | nil => simpa using hboth
        | cons t tail => simpa using hends
      · rw [if_neg hcompound]
        cases tail with
        | nil => simpa using hand
        | cons t tail => simpa using hends
    · rw [List.append_assoc, List.cons_append, conjoinWhere_append hhead,
        conjoinPredicate_append, List.append_assoc, List.cons_append]

end

/-! ## A new WHERE -/

/-- Only what comes before the first UNION counts for the place of a new WHERE. -/
theorem whereSlot_union (before : List String) {u : String} (hu : isUnion u = true)
    (rest : List String) :
    whereSlot (before ++ u :: rest) =
      ((before.takeWhile (!isUnion ·)).findIdx? followsWhere).getD
        (before ++ u :: rest).length := by
  have htake : (before ++ u :: rest).takeWhile (!isUnion ·) = before.takeWhile (!isUnion ·) := by
    induction before with
    | nil => simp [hu]
    | cons t before ih =>
      rw [List.cons_append, List.takeWhile_cons, List.takeWhile_cons, ih]
  rw [whereSlot, htake]

theorem insertAt_append {n : Nat} {before : List String} (h : n ≤ before.length)
    (added rest : List String) :
    insertAt n added (before ++ rest) = insertAt n added before ++ rest := by
  unfold insertAt
  rw [List.take_append_of_le_length h, List.drop_append_of_le_length h, List.append_assoc,
    List.append_assoc, List.append_assoc]

theorem insertAt_end (added ts : List String) : insertAt ts.length added ts = ts ++ added := by
  rw [insertAt, List.take_length, List.drop_length, List.append_nil]

theorem insertAt_ne_nil {n : Nat} {added : List String} (h : added ≠ []) (ts : List String) :
    insertAt n added ts ≠ [] := by
  simp [insertAt, h]

/-! ## Placed fragments -/

structure Pagination.IsPlaced (p : Pagination) : Prop where
  plain : p.sql ≠ "WHERE"
  placement : p.placement = .append ∨ p.placement = .index 1 ∨ p.placement = .inWhere

theorem Window.isPlaced (b : Builtin) (w : Window) :
    (w.fragment b.dialect.toLexicon).IsPlaced := by
  obtain ⟨f, hf, hfragment⟩ := w.fragment_cases b
  have hplain : f ≠ "WHERE" := by
    rintro rfl
    exact absurd hf (by decide)
  rcases hfragment with h | h | h <;> rw [h]
  · exact ⟨hplain, .inl rfl⟩
  · exact ⟨hplain, .inr (.inl rfl)⟩
  · exact ⟨hplain, .inr (.inr rfl)⟩

namespace Pagination.IsPlaced

variable {p : Pagination} (hp : p.IsPlaced)
include hp

theorem not_endsInWhere_insertAt {n : Nat} {added ts : List String}
    (hadded : added.getLast? = some p.sql) (hends : ¬EndsInWhere ts) :
    ¬EndsInWhere (insertAt n added ts) := by
  intro h
  rcases h.of_insertAt with h | h | h
  · exact hends h
  · rw [EndsInWhere, hadded] at h
    exact hp.plain (Option.some.inj h)
  · rw [h] at hadded
    cases hadded

/-- A fragment is not put where it would leave a WHERE at the end. -/
theorem not_endsInWhere {ts : List String} (hends : ¬EndsInWhere ts) :
    ¬EndsInWhere (place p ts) := by
  unfold place
  rcases hp.placement with h | h | h <;> rw [h] <;> dsimp only
  · rw [EndsInWhere.append_cons_iff, EndsInWhere.singleton_iff]
    exact hp.plain
  · exact hp.not_endsInWhere_insertAt rfl hends
  · by_cases hmem : "WHERE" ∈ ts
    · obtain ⟨ts', -, hends', hconjoin⟩ := exists_conjoinWhere p.sql hmem hends
      have hts := hconjoin []
      rw [List.append_nil, List.append_nil] at hts
      rw [hts]
      exact hends'
    · rw [conjoinWhere_of_not_mem hmem]
      exact hp.not_endsInWhere_insertAt rfl hends

/-- A new WHERE and its fragment come before a link of a chain or after it. -/
theorem exists_around_slot {before : List String} (hne : before ≠ [])
    (hends : ¬EndsInWhere before) (after : List String) :
    ∃ before' after', before' ≠ [] ∧ ¬EndsInWhere before' ∧
      ∀ u rest, isUnion u = true →
        insertAt (whereSlot (before ++ (u :: rest ++ after))) ["WHERE", p.sql]
          (before ++ (u :: rest ++ after)) = before' ++ (u :: rest ++ after') := by
  cases hfound : (before.takeWhile (!isUnion ·)).findIdx? followsWhere with
  | some n =>
    have hn : n ≤ before.length := by
      obtain ⟨hlt, -⟩ := List.findIdx?_eq_some_iff_getElem.mp hfound
      exact hlt.le.trans (List.takeWhile_prefix _).length_le
    refine ⟨insertAt n ["WHERE", p.sql] before, after, insertAt_ne_nil (List.cons_ne_nil _ _) _,
      hp.not_endsInWhere_insertAt rfl hends, fun u rest hu => ?_⟩
    rw [List.cons_append, whereSlot_union before hu, hfound, Option.getD_some, insertAt_append hn]
  | none =>
    refine ⟨before, after ++ ["WHERE", p.sql], hne, hends, fun u rest hu => ?_⟩
    rw [List.cons_append, whereSlot_union before hu, hfound, Option.getD_none, insertAt_end]
    simp

/-- A fragment is put before a link of a chain or after it, wherever dialects want it, and the
terms of the link do not matter. -/
theorem exists_around {before : List String} (hne : before ≠ []) (hends : ¬EndsInWhere before)
    (after : List String) :
    ∃ before' after', before' ≠ [] ∧ ¬EndsInWhere before' ∧
      ∀ u rest, isUnion u = true → "WHERE" ∉ u :: rest →
        place p (before ++ (u :: rest ++ after)) = before' ++ (u :: rest ++ after') := by
  unfold place
  rcases hp.placement with h | h | h <;> rw [h] <;> dsimp only
  · exact ⟨before, after ++ [p.sql], hne, hends, fun u rest _ _ => by simp⟩
  · have hlength : 1 ≤ before.length := List.length_pos_iff.mpr hne
    exact ⟨insertAt 1 [p.sql] before, after, insertAt_ne_nil (List.cons_ne_nil _ _) _,
      hp.not_endsInWhere_insertAt rfl hends, fun u rest _ _ => insertAt_append hlength _ _⟩
  by_cases hmem : "WHERE" ∈ before
  · obtain ⟨before', hne', hends', hconjoin⟩ := exists_conjoinWhere p.sql hmem hends
    refine ⟨before', after, hne', hends', fun u rest _ _ => ?_⟩
    rw [hconjoin, Option.getD_some]
  -- The first WHERE comes behind the link, or there is none.
  have hskip : ∀ u rest, "WHERE" ∉ u :: rest → conjoinWhere p.sql (before ++ (u :: rest ++ after)) =
      (conjoinWhere p.sql after).map fun after' => before ++ (u :: rest ++ after') := by
    intro u rest hrest
    rw [conjoinWhere_append_of_not_mem hmem, conjoinWhere_append_of_not_mem hrest, Option.map_map]
    rfl
  cases hafter : conjoinWhere p.sql after with
  | some after' =>
    refine ⟨before, after', hne, hends, fun u rest _ hrest => ?_⟩
    rw [hskip u rest hrest, hafter]
    rfl
  | none =>
    obtain ⟨before', after', hne', hends', hslot⟩ := hp.exists_around_slot hne hends after
    refine ⟨before', after', hne', hends', fun u rest hu hrest => ?_⟩
    rw [hskip u rest hrest, hafter, Option.map_none, Option.getD_none, hslot u rest hu]

end Pagination.IsPlaced

end TerseSql
