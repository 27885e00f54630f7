import TerseSql.Proofs.Blank.Relation
import TerseSql.Proofs.Comment.Line
import TerseSql.Proofs.Condition.Inside
import TerseSql.Proofs.Lexing.Term

/-!
# Texts with backticks for double quotes

The generic dialect and MySQL differ in the marks around names. A text of the one is a mirror
image of a text of the other if double quotes have become backticks and there were no
backticks before. Reading parentheses gives the same for both.
-/

namespace TerseSql

open Lexing

namespace Text

def isMark (c : Char) : Bool :=
  c == '"' || c == '\x60'

def IsUnmarked (s : String) : Prop :=
  ∀ c ∈ s.toList, isMark c = false

instance (s : String) : Decidable (IsUnmarked s) :=
  List.decidableBAll _ s.toList

def mirrorChar (c : Char) : Char :=
  if c = '"' then '\x60' else c

def mirror (s : String) : String :=
  String.ofList (s.toList.map mirrorChar)

/-- The second text is the mirror image of the first, which has no backticks. -/
structure Mirrors (s s' : String) : Prop where
  image : s' = mirror s
  free : '\x60' ∉ s.toList

/-! ## Unmarked texts -/

theorem isUnmarked_append {s t : String} : IsUnmarked (s ++ t) ↔ IsUnmarked s ∧ IsUnmarked t := by
  unfold IsUnmarked
  rw [String.toList_append]
  exact List.forall_mem_append

theorem IsUnmarked.of_subset {s t : String} (h : IsUnmarked s)
    (hsub : ∀ c ∈ t.toList, c ∈ s.toList) : IsUnmarked t :=
  fun c hc => h c (hsub c hc)

theorem isUnmarked_of_all {p : Char → Bool} (hp : ['"', '\x60'].all (fun c => !p c) = true)
    {s : String} (h : ∀ c ∈ s.toList, p c = true) : IsUnmarked s := by
  intro c hc
  by_contra hmark
  rw [Bool.not_eq_false] at hmark
  have hspecial : c ∈ ['"', '\x60'] := by
    simpa [isMark] using hmark
  have hnot := List.all_eq_true.mp hp c hspecial
  rw [h c hc] at hnot
  cases hnot

theorem IsUnmarked.upper {s : String} (h : IsUnmarked s) : IsUnmarked (upper s) :=
  forall_upper (fun u hu => isUnmarked_of_all (p := isLexical) (by decide) (s := String.ofList [u])
    (by simpa using hu) u (by simp)) h

theorem IsUnmarked.trim {s : String} (h : IsUnmarked s) : IsUnmarked (trim s) :=
  h.of_subset fun _ hc => mem_of_mem_trim hc

theorem IsUnmarked.split {s part : String} {separator : Char} (h : IsUnmarked s)
    (hpart : part ∈ split separator s) : IsUnmarked part :=
  h.of_subset fun _ hc => mem_of_mem_split hpart hc

/-! ## Mirror images -/

theorem not_mem_of_unmarked {s : String} (h : IsUnmarked s) :
    '"' ∉ s.toList ∧ '\x60' ∉ s.toList := by
  constructor
  · intro hc
    cases h _ hc
  · intro hc
    cases h _ hc

theorem mirror_of_not_mem {cs : List Char} (h : '"' ∉ cs) : cs.map mirrorChar = cs := by
  induction cs with
  | nil => rfl
  | cons c cs ih =>
    rw [List.mem_cons, not_or] at h
    rw [List.map_cons, mirrorChar, if_neg (Ne.symm h.1), ih h.2]

theorem mirrors_self {s : String} (h : IsUnmarked s) : Mirrors s s := by
  obtain ⟨hdouble, hbacktick⟩ := not_mem_of_unmarked h
  refine ⟨?_, hbacktick⟩
  rw [mirror, mirror_of_not_mem hdouble, String.ofList_toList]

@[simp]
theorem mirror_append (s t : String) : mirror (s ++ t) = mirror s ++ mirror t := by
  apply String.toList_injective
  simp [mirror]

theorem Mirrors.append {s s' t t' : String} (h : Mirrors s s') (h' : Mirrors t t') :
    Mirrors (s ++ t) (s' ++ t') := by
  refine ⟨by rw [mirror_append, h.image, h'.image], ?_⟩
  rw [String.toList_append, List.mem_append, not_or]
  exact ⟨h.free, h'.free⟩

/-- The same text before two that mirror each other. -/
theorem Mirrors.before {s s' : String} (h : Mirrors s s') {p : String} (hp : IsUnmarked p) :
    Mirrors (p ++ s) (p ++ s') :=
  (mirrors_self hp).append h

/-- The same text after two that mirror each other. -/
theorem Mirrors.after {s s' : String} (h : Mirrors s s') {p : String} (hp : IsUnmarked p) :
    Mirrors (s ++ p) (s' ++ p) :=
  h.append (mirrors_self hp)

theorem Mirrors.join {separator : String} (hseparator : IsUnmarked separator)
    {ss ss' : List String} (h : List.Forall₂ Mirrors ss ss') :
    Mirrors (join separator ss) (join separator ss') := by
  induction h with
  | nil =>
    rw [Text.join]
    exact mirrors_self (by decide)
  | cons hfirst hrest ih =>
    cases hrest with
    | nil => exact hfirst
    | cons _ _ => exact (hfirst.after hseparator).append ih

/-! ## Parentheses -/

theorem mirrorChar_eq_iff {c d : Char} (hc : c ≠ '\x60') (hd : d ≠ '\x60') :
    mirrorChar c = mirrorChar d ↔ c = d := by
  unfold mirrorChar
  by_cases hcq : c = '"'
  · by_cases hdq : d = '"'
    · rw [if_pos hcq, if_pos hdq, hcq, hdq]
      simp
    · rw [if_pos hcq, if_neg hdq, hcq]
      exact iff_of_false (Ne.symm hd) (Ne.symm hdq)
  · by_cases hdq : d = '"'
    · rw [if_neg hcq, if_pos hdq, hdq]
      exact iff_of_false hc hcq
    · rw [if_neg hcq, if_neg hdq]

theorem mirrorChar_of_ne {c : Char} (h : c ≠ '"') : mirrorChar c = c :=
  if_neg h

open Condition in
/-- Whether parentheses close does not depend on which marks stand around names. -/
theorem closesWithin_mirror {cs : List Char} (hcs : '\x60' ∉ cs) (quote : Option Char)
    (hquote : ∀ q, quote = some q → q ≠ '\x60') (depth : Nat) :
    closesWithin (quote.map mirrorChar) depth (cs.map mirrorChar) =
      closesWithin quote depth cs := by
  induction cs generalizing quote depth with
  | nil => cases quote <;> rfl
  | cons c cs ih =>
    rw [List.mem_cons, not_or] at hcs
    have hc : c ≠ '\x60' := Ne.symm hcs.1
    have hnone : ∀ q, (none : Option Char) = some q → q ≠ '\x60' := fun q hq => nomatch hq
    cases quote with
    | some q =>
      have hq := hquote q rfl
      simp only [List.map_cons, Option.map_some, closesWithin]
      by_cases hcq : c = q
      · rw [if_pos hcq, if_pos (congrArg mirrorChar hcq)]
        exact ih hcs.2 none hnone depth
      · rw [if_neg hcq, if_neg fun h => hcq ((mirrorChar_eq_iff hc hq).mp h)]
        exact ih hcs.2 (some q) hquote depth
    | none =>
      by_cases hdouble : c = '"'
      · subst hdouble
        exact ih hcs.2 (some '"') (fun q hq => by cases hq; decide) depth
      · simp only [List.map_cons, Option.map_none, closesWithin, mirrorChar_of_ne hdouble]
        have hin : ∀ depth, closesWithin (some c) depth (cs.map mirrorChar) =
            closesWithin (some c) depth cs := by
          intro depth
          have h := ih hcs.2 (some c) (fun q hq => by cases hq; exact hc) depth
          rwa [Option.map_some, mirrorChar_of_ne hdouble] at h
        have hout : ∀ depth, closesWithin none depth (cs.map mirrorChar) =
            closesWithin none depth cs := fun depth => ih hcs.2 none hnone depth
        rw [hin, hout, hout, hout]

theorem mirrorChar_eq_self_iff {c d : Char} (hc : c ≠ '"') (hb : c ≠ '\x60') :
    mirrorChar d = c ↔ d = c := by
  unfold mirrorChar
  by_cases hd : d = '"'
  · rw [if_pos hd, hd]
    exact iff_of_false (Ne.symm hb) (Ne.symm hc)
  · rw [if_neg hd]

open Condition in
theorem inside?_eq_none {s : String} {c : Char} {rest : List Char} (hs : s.toList = c :: rest)
    (hc : c ≠ '(') : inside? s = none := by
  cases hinside : inside? s with
  | none => rfl
  | some inner =>
    have hopen := (inside?_eq_some_iff.mp hinside).1
    rw [hs] at hopen
    exact absurd (List.cons.inj hopen).1 hc

open Condition in
theorem inside?_mirror {s s' : String} (h : Mirrors s s') :
    inside? s' = (inside? s).map mirror := by
  have hlist : s'.toList = s.toList.map mirrorChar := by
    rw [h.image, mirror, String.toList_ofList]
  have hfree := h.free
  cases hs : s.toList with
  | nil =>
    unfold inside?
    rw [hlist, hs]
    rfl
  | cons c rest =>
    rw [hs, List.mem_cons, not_or] at hfree
    by_cases hopen : c = '('
    · subst hopen
      unfold inside?
      rw [hlist, hs]
      -- A parenthesis is no mark, so both texts have it in the same places.
      have hlast : (rest.map mirrorChar).getLast? = some ')' ↔ rest.getLast? = some ')' := by
        rw [List.getLast?_map, Option.map_eq_some_iff]
        constructor
        · rintro ⟨d, hd, hmirror⟩
          rwa [(mirrorChar_eq_self_iff (by decide) (by decide)).mp hmirror] at hd
        · intro hd
          exact ⟨')', hd, by decide⟩
      have hinner : '\x60' ∉ rest.dropLast := fun hmem =>
        hfree.2 ((List.dropLast_sublist rest).mem hmem)
      have hcloses := closesWithin_mirror hinner none (fun q hq => nomatch hq) 0
      rw [Option.map_none, List.map_dropLast] at hcloses
      show (if (rest.map mirrorChar).getLast? = some ')' ∧
          closesWithin none 0 (rest.map mirrorChar).dropLast = true then
          some (String.ofList (rest.map mirrorChar).dropLast) else none) =
        (if rest.getLast? = some ')' ∧ closesWithin none 0 rest.dropLast = true then
          some (String.ofList rest.dropLast) else none).map mirror
      rw [hcloses]
      by_cases hcond : rest.getLast? = some ')' ∧ closesWithin none 0 rest.dropLast = true
      · rw [if_pos hcond, if_pos ⟨hlast.mpr hcond.1, hcond.2⟩, Option.map_some, mirror,
          String.toList_ofList, List.map_dropLast]
      · rw [if_neg hcond, if_neg fun hboth => hcond ⟨hlast.mp hboth.1, hboth.2⟩, Option.map_none]
    · have hmirror : mirrorChar c ≠ '(' := fun hc =>
        hopen ((mirrorChar_eq_self_iff (by decide) (by decide)).mp hc)
      rw [inside?_eq_none hs hopen, inside?_eq_none (hlist.trans (by rw [hs, List.map_cons])) hmirror]
      rfl

theorem inside?_free {s inner : String} (h : '\x60' ∉ s.toList)
    (hinside : Condition.inside? s = some inner) : '\x60' ∉ inner.toList := by
  obtain ⟨hs, _⟩ := Condition.inside?_eq_some_iff.mp hinside
  intro hmem
  exact h (by simp [hs, hmem])

theorem conjoin_mirrors {ss ss' : List String} (h : List.Forall₂ Mirrors ss ss') :
    Mirrors (Condition.conjoin ss) (Condition.conjoin ss') := by
  match h with
  | .nil =>
    rw [Condition.conjoin]
    · exact mirrors_self (by decide)
    · simp
  | .cons (a := s) (b := s') hs .nil =>
    rw [Condition.conjoin, Condition.conjoin, inside?_mirror hs]
    cases hinside : Condition.inside? s with
    | none => exact hs
    | some inner => exact ⟨rfl, inside?_free hs.free hinside⟩
  | .cons hs (.cons ht hrest) =>
    exact Mirrors.join (by decide) (.cons hs (.cons ht hrest))

end Text

end TerseSql
