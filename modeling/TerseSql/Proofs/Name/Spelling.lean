import Mathlib.Data.List.TakeDrop
import TerseSql.Clause.Join
import TerseSql.Proofs.Name.Blank
import TerseSql.Proofs.Name.Qualified
import TerseSql.Proofs.Result

/-!
# Tables as keys spell them

A table is spelled as its path, perhaps with an alias in parentheses, and with white space
around both. A joined table may have a marker in brackets before it. What is read from a text
is a table that the text spells, and it spells no other.
-/

namespace TerseSql

/-! ## Spelling -/

structure Table.Spelled (cs : List Char) (t : Table) : Prop where
  ne_nil : cs ≠ []
  pathText : ∀ c ∈ cs, isPathText c = true
  dotted : IsDotted (String.ofList cs) t.parts

/-- What follows a path: an alias in parentheses, or nothing, and white space. -/
inductive SpelledAlias : List Char → Option String → Prop where
  | absent {cs : List Char} : IsBlank cs → SpelledAlias cs none
  | given {before aliasName after : List Char} : IsBlank before → IsBlank after →
    SpelledAlias (before ++ '(' :: (aliasName ++ ')' :: after)) (some (String.ofList aliasName))

inductive AliasedTable.Spelled : List Char → AliasedTable → Prop where
  | intro {before path rest : List Char} {t : AliasedTable} : IsBlank before →
    t.table.Spelled path → SpelledAlias rest t.aliasName → Spelled (before ++ (path ++ rest)) t

inductive JoinTerm.Spelled : List Char → Option String → AliasedTable → Prop where
  | unmarked {cs : List Char} {t : AliasedTable} : t.Spelled cs → Spelled cs none t
  | marked {before marker cs : List Char} {t : AliasedTable} : IsBlank before → t.Spelled cs →
    Spelled (before ++ '[' :: (marker ++ ']' :: cs)) (some (String.ofList marker)) t

/-! ## One table only -/

theorem Table.Spelled.unique {cs : List Char} {t t' : Table} (h : t.Spelled cs)
    (h' : t'.Spelled cs) : t = t' :=
  parts_injective (h.dotted.eq_split.trans h'.dotted.eq_split.symm)

/-- A path is as long as it can be. -/
theorem Table.Spelled.span {before path tail : List Char} {t : Table} (h : t.Spelled path)
    (hbefore : IsBlank before) (htail : ∀ c ∈ tail.head?, isPathText c = false) :
    (Text.trimLeft (before ++ (path ++ tail))).span isPathText = (path, tail) := by
  have htrim : Text.trimLeft (before ++ (path ++ tail)) = path ++ tail := by
    rw [trimLeft_append hbefore]
    cases hpath : path with
    | nil => exact absurd hpath h.ne_nil
    | cons c rest =>
      have hc : c ∈ path := hpath ▸ List.mem_cons_self
      exact trimLeft_cons (blank_of_pathText (h.pathText c hc)) (rest ++ tail)
  rw [htrim, List.span_eq_takeWhile_dropWhile, takeWhile_span h.pathText htail,
    dropWhile_span h.pathText htail]

theorem AliasedTable.Spelled.after_blank {cs before : List Char} {t : AliasedTable}
    (h : t.Spelled cs) (hbefore : IsBlank before) : t.Spelled (before ++ cs) := by
  obtain ⟨hblank, hpath, hrest⟩ := h
  rename_i between path rest
  rw [← List.append_assoc]
  exact .intro (List.forall_mem_append.mpr ⟨hbefore, hblank⟩) hpath hrest

theorem SpelledAlias.head_not_pathText {cs : List Char} {aliasName : Option String}
    (h : SpelledAlias cs aliasName) : ∀ c ∈ cs.head?, isPathText c = false := by
  intro c hc
  cases h with
  | absent hcs => exact not_pathText_of_blank (hcs c (List.mem_of_mem_head? hc))
  | @given before _ _ hbefore _ =>
    cases before with
    | nil =>
      cases hc
      decide
    | cons d rest =>
      cases hc
      exact not_pathText_of_blank (hbefore c List.mem_cons_self)

theorem trimLeft_reverse_closing {closing : Char} (hclosing : Text.isBlank closing = false)
    {after : List Char} (h : IsBlank after) (inner : List Char) :
    Text.trimLeft (inner ++ closing :: after).reverse = closing :: inner.reverse := by
  have hreverse : IsBlank after.reverse := fun c hc => h c (List.mem_reverse.mp hc)
  rw [List.reverse_append, List.reverse_cons, List.append_assoc, trimLeft_append hreverse]
  exact trimLeft_cons hclosing inner.reverse

theorem SpelledAlias.unique {cs : List Char} {aliasName aliasName' : Option String}
    (h : SpelledAlias cs aliasName) (h' : SpelledAlias cs aliasName') :
    aliasName = aliasName' := by
  have hopen : ∀ {before : List Char} (rest : List Char), IsBlank before →
      Text.trimLeft (before ++ '(' :: rest) = '(' :: rest := by
    intro before rest hbefore
    rw [trimLeft_append hbefore]
    exact trimLeft_cons (by decide) rest
  cases h with
  | absent hcs =>
    generalize htext : cs = text at h'
    cases h' with
    | absent _ => rfl
    | given hbefore _ =>
      have htrim := trimLeft_of_blank hcs
      rw [htext, hopen _ hbefore] at htrim
      cases htrim
  | @given before inner after hbefore hafter =>
    generalize htext : before ++ '(' :: (inner ++ ')' :: after) = text at h'
    cases h' with
    | absent hcs =>
      have htrim := trimLeft_of_blank hcs
      rw [← htext, hopen _ hbefore] at htrim
      cases htrim
    | @given before' inner' after' hbefore' hafter' =>
      have htrim := hopen (inner ++ ')' :: after) hbefore
      rw [htext, hopen _ hbefore'] at htrim
      -- From its end, either text is blank up to its last closing parenthesis.
      have hblank : Text.isBlank ')' = false := by decide
      have hreverse := trimLeft_reverse_closing hblank hafter inner
      rw [← (List.cons.inj htrim).2, trimLeft_reverse_closing hblank hafter'] at hreverse
      rw [List.reverse_injective (List.cons.inj hreverse).2]

/-- A text spells one table. -/
theorem AliasedTable.Spelled.unique {cs : List Char} {t t' : AliasedTable} (h : t.Spelled cs)
    (h' : t'.Spelled cs) : t = t' := by
  obtain ⟨hbefore, hpath, hrest⟩ := h
  rename_i before path rest
  generalize htext : before ++ (path ++ rest) = text at h'
  obtain ⟨hbefore', hpath', hrest'⟩ := h'
  have hspan := hpath.span hbefore hrest.head_not_pathText
  rw [htext, hpath'.span hbefore' hrest'.head_not_pathText] at hspan
  cases hspan
  have htable := hpath.unique hpath'
  have halias := hrest.unique hrest'
  obtain ⟨table, aliasName⟩ := t
  obtain ⟨table', aliasName'⟩ := t'
  cases htable
  cases halias
  rfl

/-- Once its marker is known, a text spells one joined table. -/
theorem JoinTerm.Spelled.unique {cs : List Char} {marker : Option String} {t t' : AliasedTable}
    (h : Spelled cs marker t) (h' : Spelled cs marker t') : t = t' := by
  have htrim : ∀ {before : List Char} (rest : List Char), IsBlank before →
      Text.trimLeft (before ++ '[' :: rest) = '[' :: rest := by
    intro before rest hbefore
    rw [trimLeft_append hbefore]
    exact trimLeft_cons (by decide) rest
  cases h with
  | unmarked ht =>
    cases h' with
    | unmarked ht' => exact ht.unique ht'
  | @marked before marker rest _ hbefore ht =>
    generalize htext : before ++ '[' :: (marker ++ ']' :: rest) = text at h'
    generalize hsome : some (String.ofList marker) = found at h'
    cases h' with
    | unmarked _ => cases hsome
    | @marked before' marker' rest' _ hbefore' ht' =>
      have hmarker : marker = marker' := String.ofList_injective (Option.some.inj hsome)
      have hread := htrim (marker ++ ']' :: rest) hbefore
      rw [htext, htrim _ hbefore', hmarker] at hread
      have hrest := List.append_cancel_left (List.cons.inj hread).2
      rw [← (List.cons.inj hrest).2] at ht
      exact ht.unique ht'

/-! ## What readers take -/

namespace Grammar

theorem spelledAlias_of_parenthesized {cs left : List Char} {aliasName : Option (List Char)}
    (h : parenthesized (Text.trimLeft cs) = some (aliasName, left)) (hend : atEnd left = true) :
    SpelledAlias cs (aliasName.map String.ofList) := by
  have hleft : IsBlank left := List.all_eq_true.mp hend
  obtain ⟨before, hbefore, hcs⟩ := exists_trimLeft cs
  generalize Text.trimLeft cs = tail at h hcs
  rw [hcs]
  unfold parenthesized at h
  split at h
  · next rest =>
    split at h
    · cases h
    · next word after hafter _ =>
      cases h
      have hrest : rest.takeWhile Text.isWord ++ rest.dropWhile Text.isWord = rest :=
        List.takeWhile_append_dropWhile
      rw [hafter] at hrest
      generalize rest.takeWhile Text.isWord = word at hrest
      rw [← hrest]
      exact .given hbefore hleft
    · cases h
  · cases h
    refine .absent ?_
    intro c hc
    rcases List.mem_append.mp hc with hc | hc
    · exact hbefore c hc
    · exact hleft c hc

theorem enclosed_eq_some_iff {closing : Char} (hclosing : Text.isBlank closing = false)
    {cs inner : List Char} : enclosed closing cs = some inner ↔
      inner ≠ [] ∧ '\n' ∉ inner ∧ ∃ after, IsBlank after ∧ cs = inner ++ closing :: after := by
  unfold enclosed
  constructor
  · intro h
    split at h
    · next c reversed hrest =>
      by_cases hinner : c = closing ∧ reversed ≠ [] ∧ '\n' ∉ reversed
      · rw [if_pos hinner] at h
        cases h
        obtain ⟨before, hbefore, hcs⟩ := exists_trimLeft cs.reverse
        refine ⟨by simpa using hinner.2.1, by simpa using hinner.2.2, before.reverse,
          fun c hc => hbefore c (List.mem_reverse.mp hc), ?_⟩
        have htrim : Text.trimLeft cs.reverse = closing :: reversed := hinner.1 ▸ hrest
        rw [htrim] at hcs
        rw [← List.reverse_reverse cs, hcs]
        simp
      · rw [if_neg hinner] at h
        cases h
    · cases h
  · rintro ⟨hne, hline, after, hafter, rfl⟩
    have htrim := trimLeft_reverse_closing hclosing hafter inner
    unfold Text.trimLeft at htrim
    rw [htrim]
    simp [hne, hline]

/-- What stands before a closing mark, and what is read after it. -/
theorem upTo_append {α : Type} {closing : Char} {nonempty : Bool} {rest : List Char → Option α}
    {taken cs text : List Char} {a : α}
    (h : upTo closing nonempty rest taken cs = some (text, a)) :
    ∃ inner left, text = taken.reverse ++ inner ∧ cs = inner ++ closing :: left ∧
      rest left = some a := by
  induction cs generalizing taken with
  | nil => cases h
  | cons c cs ih =>
    unfold upTo at h
    dsimp only at h
    split at h
    · next found hfound =>
      cases h
      by_cases hclosing : c = closing ∧ (nonempty = true → taken ≠ [])
      · rw [if_pos hclosing] at hfound
        obtain ⟨b, hb, heq⟩ := Option.map_eq_some_iff.mp hfound
        cases heq
        exact ⟨[], cs, (List.append_nil _).symm, by rw [hclosing.1]; rfl, hb⟩
      · rw [if_neg hclosing] at hfound
        cases hfound
    · by_cases hbreak : c = '\n'
      · rw [if_pos hbreak] at h
        cases h
      · rw [if_neg hbreak] at h
        obtain ⟨inner, left, htext, hcs, hleft⟩ := ih h
        exact ⟨c :: inner, left, by simp [htext], by rw [hcs]; rfl, hleft⟩

end Grammar

/-! ## Tables that are read -/

theorem Table.spelled_of_path {n : Nat} {cs name rest : List Char} {t : Table}
    (hpath : Grammar.path n cs = some (name, rest))
    (ht : Table.ofText (String.ofList name) = .ok t) : t.Spelled name where
  ne_nil := (Grammar.path_append hpath).1
  pathText := pathText_of_path hpath
  dotted := by
    rw [Table.parts_make ht]
    exact isDotted_split _

theorem AliasedTable.spelled_of_make {n : Nat} {cs name rest : List Char}
    {aliasName : Option String} {t : AliasedTable}
    (hpath : Grammar.path n (Text.trimLeft cs) = some (name, rest))
    (halias : SpelledAlias rest aliasName) (ht : make (String.ofList name) aliasName = .ok t) :
    t.Spelled cs := by
  unfold make at ht
  obtain ⟨table, htable, ht⟩ := Built.exists_of_bind ht
  cases ht
  obtain ⟨before, hbefore, hcs⟩ := exists_trimLeft cs
  rw [(Grammar.path_append hpath).2] at hcs
  rw [hcs]
  exact .intro hbefore (Table.spelled_of_path hpath htable) halias

theorem AliasedTable.spelled_of_text {text : String} {t : AliasedTable}
    (h : ofText text = .ok t) : t.Spelled text.toList := by
  unfold ofText at h
  cases hkey : Grammar.table? text with
  | none =>
    rw [hkey] at h
    cases h
  | some key =>
    rw [hkey] at h
    unfold Grammar.table? at hkey
    obtain ⟨⟨name, rest⟩, hpath, hkey⟩ := Option.bind_eq_some_iff.mp hkey
    obtain ⟨⟨aliasName, left⟩, halias, hkey⟩ := Option.bind_eq_some_iff.mp hkey
    dsimp only at hkey
    by_cases hend : Grammar.atEnd left = true
    · rw [if_pos hend] at hkey
      cases hkey
      exact spelled_of_make hpath (Grammar.spelledAlias_of_parenthesized halias hend) h
    · rw [if_neg hend] at hkey
      cases hkey

theorem AliasedTable.spelled_of_joined {cs : List Char} {path : String}
    {aliasName : Option String} (hjoined : Grammar.joined cs = some (path, aliasName))
    {t : AliasedTable} (ht : make path aliasName = .ok t) : t.Spelled cs := by
  unfold Grammar.joined at hjoined
  obtain ⟨⟨name, rest⟩, hpath, hjoined⟩ := Option.bind_eq_some_iff.mp hjoined
  obtain ⟨before, hbefore, hrest⟩ := exists_trimLeft rest
  dsimp only at hjoined
  generalize Text.trimLeft rest = tail at hjoined hrest
  split at hjoined
  · next inside =>
    obtain ⟨inner, hinner, heq⟩ := Option.map_eq_some_iff.mp hjoined
    cases heq
    obtain ⟨-, -, after, hafter, rfl⟩ := (Grammar.enclosed_eq_some_iff (by decide)).mp hinner
    rw [hrest] at hpath
    exact spelled_of_make hpath (.given hbefore hafter) ht
  · by_cases hnil : tail = []
    · rw [if_pos hnil] at hjoined
      cases hjoined
      rw [hnil, List.append_nil] at hrest
      exact spelled_of_make hpath (.absent (hrest ▸ hbefore)) ht
    · rw [if_neg hnil] at hjoined
      cases hjoined

theorem JoinTerm.spelled_of_join? {key : String} {k : Grammar.JoinKey}
    (hkey : Grammar.join? key = some k) {t : AliasedTable}
    (ht : AliasedTable.make k.path k.aliasName = .ok t) : Spelled key.toList k.marker t := by
  obtain ⟨before, hbefore, hcs⟩ := exists_trimLeft key.toList
  unfold Grammar.join? at hkey
  split at hkey
  · next rest htrim =>
    obtain ⟨⟨marker, path, aliasName⟩, hfound, rfl⟩ := Option.map_eq_some_iff.mp hkey
    obtain ⟨inner, left, rfl, rfl, hjoined⟩ := Grammar.upTo_append hfound
    rw [hcs, htrim]
    exact .marked hbefore (AliasedTable.spelled_of_joined hjoined ht)
  · next rest _ =>
    obtain ⟨⟨path, aliasName⟩, hjoined, rfl⟩ := Option.map_eq_some_iff.mp hkey
    have ht := AliasedTable.spelled_of_joined hjoined ht
    rw [hcs]
    exact .unmarked (ht.after_blank hbefore)

end TerseSql
