import TerseSql.Proofs.Run
import TerseSql.Proofs.Window.Keyword

/-!
# Sections of a selection

A window that goes into WHERE finds a selection in three sections: what comes before WHERE, its
predicate, and the clauses from the first ORDER BY, GROUP BY or HAVING on. It changes the
predicate alone, and each of those clauses adds to the last section alone.
-/

namespace TerseSql

open Statement Building

/-! ## Terms as a text -/

namespace Text

def glued (sep : String) : List String → String
  | [] => ""
  | s :: rest => sep ++ s ++ glued sep rest

theorem join_cons (sep s : String) (rest : List String) :
    join sep (s :: rest) = s ++ glued sep rest := by
  induction rest generalizing s with
  | nil => exact String.append_empty.symm
  | cons t rest ih => rw [join, ih, glued, String.append_assoc, String.append_assoc]

end Text

/-! ## The last section -/

/-- Terms that a clause after WHERE opens, among which there is no WHERE. -/
structure IsTail (ts : List String) : Prop where
  opens {t : String} : ts.head? = some t → followsWhere t = true
  plain : "WHERE" ∉ ts

namespace IsTail

variable {ts us : List String}

theorem nil : IsTail [] where
  opens := fun h => nomatch h
  plain := List.not_mem_nil

theorem append (hts : IsTail ts) (hus : IsTail us) : IsTail (ts ++ us) where
  opens := by
    intro t ht
    cases ts with
    | nil => exact hus.opens ht
    | cons u ts => exact hts.opens ht
  plain := by
    rw [List.mem_append, not_or]
    exact ⟨hts.plain, hus.plain⟩

theorem pair {k text : String} (hk : followsWhere k = true) (htext : text ∉ keywords) :
    IsTail [k, text] where
  opens := by
    intro t ht
    cases ht
    exact hk
  plain := by
    rw [List.mem_cons, List.mem_singleton, not_or]
    constructor
    · rintro rfl
      cases hk
    · rintro rfl
      exact htext (by decide)

end IsTail

theorem followsWhere_iff {t : String} :
    followsWhere t = true ↔ t = "ORDER BY" ∨ t = "GROUP BY" ∨ t = "HAVING" := by
  simp [followsWhere, or_assoc]

theorem isUnion_iff {t : String} : isUnion t = true ↔ t = "UNION" ∨ t = "UNION ALL" := by
  simp [isUnion]

theorem isUnion_of_followsWhere {t : String} (h : followsWhere t = true) : isUnion t = false := by
  rcases followsWhere_iff.mp h with rfl | rfl | rfl <;> decide

theorem not_followsWhere_of_plain {t : String} (h : t ∉ keywords) : followsWhere t = false := by
  rw [Bool.eq_false_iff]
  intro hk
  rcases followsWhere_iff.mp hk with rfl | rfl | rfl <;> exact h (by decide)

theorem not_isUnion_of_plain {t : String} (h : t ∉ keywords) : isUnion t = false := by
  rw [Bool.eq_false_iff]
  intro hk
  rcases isUnion_iff.mp hk with rfl | rfl <;> exact h (by decide)

/-! ## Sections -/

structure Sections where
  head : List String
  predicate : List String
  tail : List String
  head_plain : ∀ t ∈ head, t ∉ keywords
  isTail : IsTail tail

def whereTerms (predicate : List String) : List String :=
  if predicate = [] then [] else "WHERE" :: predicate

def conjoined (fragment : String) : List String → List String
  | [] => [fragment]
  | first :: rest => conjoinPredicate fragment (first :: rest)

theorem conjoined_ne_nil (fragment : String) (predicate : List String) :
    conjoined fragment predicate ≠ [] := by
  cases predicate with
  | nil => exact List.cons_ne_nil _ _
  | cons first rest =>
    unfold conjoined conjoinPredicate
    by_cases hcompound : isCompound first = true
    · simp [hcompound]
    · simp [hcompound]

namespace Sections

def terms (x : Sections) : List String :=
  x.head ++ whereTerms x.predicate ++ x.tail

def conjoin (x : Sections) (fragment : String) : Sections :=
  { x with predicate := conjoined fragment x.predicate }

def append (x : Sections) (ts : List String) (hts : IsTail ts) : Sections :=
  { x with tail := x.tail ++ ts, isTail := x.isTail.append hts }

theorem terms_append (x : Sections) {ts : List String} (hts : IsTail ts) :
    (x.append ts hts).terms = x.terms ++ ts := by
  unfold terms append
  rw [← List.append_assoc]

/-- Later clauses and fragments go into different sections. -/
theorem conjoin_append (x : Sections) {ts : List String} (hts : IsTail ts) (fragment : String) :
    (x.append ts hts).conjoin fragment = (x.conjoin fragment).append ts hts := rfl

end Sections

/-! ## Fragments in WHERE -/

section

variable {fragment : String} {head rest tail : List String}

theorem conjoinWhere_append (h : "WHERE" ∉ head) :
    conjoinWhere fragment (head ++ "WHERE" :: rest) =
      some (head ++ "WHERE" :: conjoinPredicate fragment rest) := by
  induction head with
  | nil => simp [conjoinWhere]
  | cons t head ih =>
    rw [List.mem_cons, not_or] at h
    rw [List.cons_append, conjoinWhere, if_neg (Ne.symm h.1), ih h.2]
    rfl

theorem conjoinWhere_of_not_mem (h : "WHERE" ∉ tail) : conjoinWhere fragment tail = none := by
  induction tail with
  | nil => rfl
  | cons t tail ih =>
    rw [List.mem_cons, not_or] at h
    rw [conjoinWhere, if_neg (Ne.symm h.1), ih h.2]
    rfl

theorem conjoinPredicate_append (first : String) (rest tail : List String) :
    conjoinPredicate fragment (first :: rest ++ tail) =
      conjoinPredicate fragment (first :: rest) ++ tail := by
  rw [List.cons_append, conjoinPredicate, conjoinPredicate]
  by_cases hcompound : isCompound first = true
  · simp only [hcompound, if_true, List.cons_append]
  · simp only [hcompound, Bool.false_eq_true, if_false, List.cons_append]

theorem whereSlot_append (hhead : ∀ t ∈ head, t ∉ keywords) (htail : IsTail tail) :
    whereSlot (head ++ tail) = head.length := by
  have hunion : ∀ t ∈ head, (!isUnion t) = true := by
    intro t ht
    rw [not_isUnion_of_plain (hhead t ht)]
    rfl
  have hnone : head.findIdx? followsWhere = none := by
    rw [List.findIdx?_eq_none_iff]
    exact fun t ht => not_followsWhere_of_plain (hhead t ht)
  unfold whereSlot
  rw [List.takeWhile_append_of_pos hunion, List.findIdx?_append, hnone]
  cases tail with
  | nil => simp
  | cons t tail =>
    have hopens := htail.opens (t := t) rfl
    have hstays := isUnion_of_followsWhere hopens
    simp [hstays, List.findIdx?_cons, hopens]

theorem insertAt_length (head added tail : List String) :
    insertAt head.length added (head ++ tail) = head ++ added ++ tail := by
  unfold insertAt
  rw [List.take_left, List.drop_left]

end

/-- A fragment that goes into WHERE changes the predicate alone. -/
theorem Sections.place_terms (x : Sections) (fragment : String) :
    place ⟨fragment, .inWhere⟩ x.terms = (x.conjoin fragment).terms := by
  have hhead : "WHERE" ∉ x.head := fun h => x.head_plain _ h (by decide)
  unfold place Sections.terms Sections.conjoin
  dsimp only
  cases hpredicate : x.predicate with
  | nil =>
    -- The new WHERE goes to where the last section starts.
    have hnone : "WHERE" ∉ x.head ++ x.tail := by
      rw [List.mem_append, not_or]
      exact ⟨hhead, x.isTail.plain⟩
    rw [whereTerms, if_pos rfl, List.append_nil, conjoinWhere_of_not_mem hnone,
      Option.getD_none, whereSlot_append x.head_plain x.isTail, insertAt_length]
    rfl
  | cons first rest =>
    have hwhere : x.head ++ whereTerms (first :: rest) ++ x.tail =
        x.head ++ "WHERE" :: (first :: rest ++ x.tail) := by
      rw [whereTerms, if_neg (List.cons_ne_nil _ _), List.append_assoc]
      rfl
    rw [hwhere, conjoinWhere_append hhead, Option.getD_some, conjoinPredicate_append]
    rw [whereTerms, if_neg (conjoined_ne_nil fragment (first :: rest)), List.append_assoc]
    rfl

end TerseSql
