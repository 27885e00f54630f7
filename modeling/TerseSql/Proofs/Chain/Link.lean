import TerseSql.Proofs.Chain.Query

/-!
# Chains of queries

A chain is a first query and the links after it. The first query stands in place, term by term,
or it is a single term, and every link is a keyword and a single term for its query.
-/

namespace TerseSql

open Statement Text

namespace Text

theorem glued_append (sep : String) (a b : List String) :
    glued sep (a ++ b) = glued sep a ++ glued sep b := by
  induction a with
  | nil => exact String.empty_append.symm
  | cons s a ih => rw [List.cons_append, glued, glued, ih, ← String.append_assoc]

theorem join_append (sep : String) {a : List String} (ha : a ≠ []) (b : List String) :
    join sep (a ++ b) = join sep a ++ glued sep b := by
  cases a with
  | nil => exact absurd rfl ha
  | cons s a => rw [List.cons_append, join_cons, join_cons, glued_append, String.append_assoc]

theorem any_glued {p : Char → Bool} {sep s : String} {ss : List String} (hs : s ∈ ss)
    (h : s.toList.any p = true) : (glued sep ss).toList.any p = true := by
  induction ss with
  | nil => cases hs
  | cons t ss ih =>
    simp only [glued, String.toList_append, List.any_append, Bool.or_eq_true]
    rcases List.mem_cons.mp hs with rfl | hs
    · exact Or.inl (Or.inr h)
    · exact Or.inr (ih hs)

end Text

/-! ## Further queries -/

theorem Query.sql_of_not_set {q : Query} (h : ¬q.wrapping.isSet = true) : q.sql = q.body := by
  have hunset : q.wrapping = .unset := by
    cases hwrapping : q.wrapping with
    | unset => rfl
    | _ => simp [hwrapping, Wrapping.isSet] at h
  exact sql_of_unset hunset

namespace Statement

variable {s : Statement}

/-- A chain goes on from a statement that is not empty. -/
theorem chain_of_started (h : s.isEmpty = false) (queries : List Query) :
    s.chain queries = s.push (queries.flatMap chained) := by
  cases queries with
  | nil => simp [chain, push]
  | cons q queries =>
    unfold chain
    dsimp only
    rw [h, if_neg Bool.false_ne_true]

theorem chain_of_empty (h : s.isEmpty = true) (q : Query) (queries : List Query) :
    s.chain (q :: queries) = s.push (q.body :: queries.flatMap chained) := by
  unfold chain
  dsimp only
  rw [if_pos h]

end Statement

/-! ## Links -/

/-- A further query of a chain: its terms, and what is written around them. -/
structure Link where
  opening : String
  terms : List String
  closing : String

namespace Link

def text (l : Link) : String :=
  l.opening ++ join " " l.terms ++ l.closing

def chained (q : Query) : Link where
  opening := if q.wrapping.isSet then "UNION ALL " else "UNION "
  terms := q.statement.terms
  closing := ""

def clause (q : Query) (all : Bool) : Link where
  opening := "UNION " ++ (if all then "ALL " else "") ++ (if q.wrapping.isSet then "(" else "")
  terms := q.statement.terms
  closing :=
    match q.wrapping with
    | .unset => ""
    | .bare => ")"
    | .named aliasName => ") AS " ++ q.lexicon.quote aliasName

inductive IsMade : Link → Prop where
  | chained {q : Query} : q.statement.IsSelect → IsMade (chained q)
  | clause {q : Query} (all : Bool) : q.statement.IsSelect → IsMade (clause q all)

namespace IsMade

variable {l : Link} (h : l.IsMade)
include h

theorem exists_selectTerms : ∃ x : SelectTerms, l.terms = x.terms := by
  cases h with
  | chained hq => exact hq.exists_selectTerms
  | clause all hq => exact hq.exists_selectTerms

theorem exists_opening : ∃ o, l.opening = "UNION " ++ o := by
  cases h with
  | @chained q _ =>
    unfold Link.chained
    by_cases hset : q.wrapping.isSet = true
    · exact ⟨"ALL ", if_pos hset⟩
    · exact ⟨"", if_neg hset⟩
  | clause all _ => exact ⟨_, String.append_assoc⟩

theorem closing_cases : l.closing = "" ∨ ')' ∈ l.closing.toList := by
  cases h with
  | chained _ => exact Or.inl rfl
  | @clause q all _ =>
    unfold Link.clause
    dsimp only
    cases q.wrapping with
    | unset => exact Or.inl rfl
    | bare => exact Or.inr (show ')' ∈ ")".toList by decide)
    | named aliasName => exact Or.inr (by simp)

end IsMade

end Link

/-! ## The terms of links -/

structure IsLinked (us : List String) (links : List Link) : Prop where
  text : glued " " us = glued " " (links.map Link.text)
  opens {u : String} : us.head? = some u → isUnion u = true
  plain : "WHERE" ∉ us

namespace IsLinked

theorem nil : IsLinked [] [] where
  text := rfl
  opens := fun h => nomatch h
  plain := List.not_mem_nil

theorem append {us vs : List String} {ls ms : List Link} (h : IsLinked us ls)
    (h' : IsLinked vs ms) : IsLinked (us ++ vs) (ls ++ ms) where
  text := by rw [List.map_append, glued_append, glued_append, h.text, h'.text]
  opens := by
    intro u hu
    cases us with
    | nil => exact h'.opens hu
    | cons v us => exact h.opens hu
  plain := by
    rw [List.mem_append, not_or]
    exact ⟨h.plain, h'.plain⟩

end IsLinked

namespace SelectTerms

variable (x : SelectTerms)

theorem terms_eq_cons : ∃ more, x.terms = x.keyword :: more ∧ ∃ t ∈ more, hasNaming t = true := by
  obtain ⟨t, ht, hnaming⟩ := x.named
  refine ⟨x.rest ++ (whereTerms x.predicate ++ x.tail), ?_, t, List.mem_append_left _ ht, hnaming⟩
  rw [Sections.terms, x.head_eq, List.append_assoc]
  rfl

theorem hasNaming_body : hasNaming (join " " x.terms) = true := by
  obtain ⟨more, hterms, t, ht, hnaming⟩ := x.terms_eq_cons
  rw [hterms]
  exact hasNaming_join (List.mem_cons_of_mem _ ht) hnaming

end SelectTerms

theorem not_where_of_naming {s : String} (hs : hasNaming s = true) : "WHERE" ≠ s := by
  rintro rfl
  exact absurd hs (by decide)

section

variable {q : Query} (h : q.statement.IsSelect)
include h

theorem hasNaming_body : hasNaming q.body = true := by
  obtain ⟨x, hx⟩ := h.exists_selectTerms
  rw [Query.body, body, hx]
  exact x.hasNaming_body

theorem hasNaming_sql : hasNaming q.sql = true := by
  have hbody := hasNaming_body h
  rw [Query.body] at hbody
  unfold Query.sql sql
  cases q.statement.wrapping <;> simp [hbody]

theorem isLinked_chained : IsLinked (chained q) [.chained q] := by
  have hbody := not_where_of_naming (hasNaming_body h)
  have hsql := not_where_of_naming (hasNaming_sql h)
  unfold chained Link.chained
  by_cases hset : q.wrapping.isSet = true
  · simp only [if_pos hset]
    refine ⟨?_, fun hu => ?_, ?_⟩
    · apply String.toList_injective
      simp [glued, Link.text, Query.body, body]
    · cases hu
      decide
    · simpa using hbody
  · simp only [if_neg hset]
    refine ⟨?_, fun hu => ?_, ?_⟩
    · apply String.toList_injective
      simp [glued, Link.text, q.sql_of_not_set hset, Query.body, body]
    · cases hu
      decide
    · simpa using hsql

theorem isLinked_clause (all : Bool) :
    IsLinked ("UNION" :: (if all then ["ALL"] else []) ++ [q.sql]) [.clause q all] := by
  have hsql := not_where_of_naming (hasNaming_sql h)
  refine ⟨?_, fun hu => ?_, ?_⟩
  · apply String.toList_injective
    unfold Link.clause Query.sql sql Query.wrapping
    cases all <;> cases q.statement.wrapping <;> simp [glued, Link.text, Wrapping.isSet, body]
  · cases hu
    decide
  · cases all <;> simpa using hsql

end

/-! ## Chains -/

/-- A chain of queries. Its first query is in place, or a single term. -/
structure Chain where
  inPlace : Bool
  first : List String
  links : List Link

namespace Chain

def text (c : Chain) : String :=
  join " " c.first ++ glued " " (c.links.map Link.text)

def lead (c : Chain) : List String :=
  if c.inPlace then c.first else [join " " c.first]

/-- The statement holds the chain: it selects rows or is a union of queries, and further queries
are added to it. -/
inductive Builds (d : Dialect) : Chain → Statement → Prop where
  | select {s : Statement} : s.IsSelect → Builds d ⟨true, s.terms, []⟩ s
  | fresh {q : Query} {rest : List Query} : (∀ p ∈ q :: rest, p.statement.IsSelect) →
      Builds d ⟨false, q.statement.terms, rest.map .chained⟩
        (Call.run d .empty (.union (q :: rest))).statement
  | union {c : Chain} {s : Statement} {queries : List Query} : Builds d c s →
      (∀ q ∈ queries, q.statement.IsSelect) →
      Builds d { c with links := c.links ++ queries.map .chained }
        (Call.run d s (.union queries)).statement
  | clause {c : Chain} {s : Statement} {q : Query} {all : Bool} : Builds d c s →
      q.statement.IsSelect →
      Builds d { c with links := c.links ++ [.clause q all] }
        (Call.run d s (.clause (.union q all))).statement

structure Fills (c : Chain) (s : Statement) : Prop where
  first : ∃ x : SelectTerms, c.first = x.terms
  links : ∀ l ∈ c.links, l.IsMade
  terms : ∃ us, s.terms = c.lead ++ us ∧ IsLinked us c.links

namespace Fills

variable {c : Chain} {s : Statement}

theorem terms_ne_nil (h : c.Fills s) : s.terms ≠ [] := by
  obtain ⟨x, hx⟩ := h.first
  obtain ⟨more, hmore, -⟩ := x.terms_eq_cons
  obtain ⟨us, hs, -⟩ := h.terms
  rw [hs, lead, hx, hmore]
  cases c.inPlace <;> simp

theorem body_eq (h : c.Fills s) : s.body = c.text := by
  obtain ⟨x, hx⟩ := h.first
  obtain ⟨more, hmore, -⟩ := x.terms_eq_cons
  obtain ⟨us, hs, hus⟩ := h.terms
  have hlead : join " " c.lead = join " " c.first := by
    unfold lead
    cases c.inPlace <;> rfl
  have hne : c.lead ≠ [] := by
    rw [lead, hx, hmore]
    cases c.inPlace <;> simp
  rw [Statement.body, hs, join_append " " hne, hlead, hus.text]
  rfl

theorem push {links : List Link} {vs : List String} (h : c.Fills s)
    (hlinks : ∀ l ∈ links, l.IsMade) (hvs : IsLinked vs links) :
    Fills { c with links := c.links ++ links } (s.push vs) where
  first := h.first
  links := fun l hl => (List.mem_append.mp hl).elim (h.links l) (hlinks l)
  terms := by
    obtain ⟨us, hs, hus⟩ := h.terms
    refine ⟨us ++ vs, ?_, hus.append hvs⟩
    rw [Statement.push, hs, List.append_assoc]
    rfl

end Fills

theorem isLinked_flatMap {queries : List Query} (h : ∀ q ∈ queries, q.statement.IsSelect) :
    IsLinked (queries.flatMap chained) (queries.map Link.chained) := by
  induction queries with
  | nil => exact IsLinked.nil
  | cons q rest ih =>
    rw [List.forall_mem_cons] at h
    rw [List.flatMap_cons, List.map_cons, ← List.singleton_append]
    exact (isLinked_chained h.1).append (ih h.2)

theorem isMade_of_mem_chained {queries : List Query} (h : ∀ q ∈ queries, q.statement.IsSelect) :
    ∀ l ∈ queries.map Link.chained, l.IsMade := by
  intro l hl
  obtain ⟨q, hq, rfl⟩ := List.mem_map.mp hl
  exact .chained (h q hq)

/-- What is built is the chain. -/
theorem Builds.fills {d : Dialect} {c : Chain} {s : Statement} (h : c.Builds d s) : c.Fills s := by
  induction h with
  | select hs =>
    exact { first := hs.exists_selectTerms
            links := List.forall_mem_nil _
            terms := ⟨[], (List.append_nil _).symm, IsLinked.nil⟩ }
  | @fresh q rest hqueries =>
    rw [List.forall_mem_cons] at hqueries
    exact { first := hqueries.1.exists_selectTerms
            links := isMade_of_mem_chained hqueries.2
            terms := ⟨rest.flatMap chained, rfl, isLinked_flatMap hqueries.2⟩ }
  | @union c s queries _ hqueries ih =>
    have hstarted : s.isEmpty = false := by simpa [isEmpty] using ih.terms_ne_nil
    show Fills _ (s.chain queries)
    rw [chain_of_started hstarted]
    exact ih.push (isMade_of_mem_chained hqueries) (isLinked_flatMap hqueries)
  | @clause c s q all _ hq ih =>
    refine ih.push (fun l hl => ?_) (isLinked_clause hq all)
    rw [List.mem_singleton.mp hl]
    exact .clause all hq

end Chain

end TerseSql
