import TerseSql.Proofs.Shorthand.Field

/-!
# Paths that keys can spell

The grammars of keys take a path as words with points between them, of which the last may be a
star. Such a path is no more than its words: no white space is in it, and it is built into the
field whose parts they are.
-/

namespace TerseSql

open Text

def Text.IsName (s : String) : Prop :=
  s.toList ≠ [] ∧ ∀ c ∈ s.toList, isWord c = true

instance (s : String) : Decidable (Text.IsName s) :=
  decidable_of_iff (s.toList ≠ [] ∧ s.toList.all isWord = true) (and_congr_right' List.all_eq_true)

/-- Words, or words and a star behind them. -/
inductive Grammar.Spellable : List String → Prop where
  | name {s : String} : IsName s → Spellable [s]
  | star : Spellable ["*"]
  | qualified {s : String} {rest : List String} : IsName s → Spellable rest → Spellable (s :: rest)

theorem Text.IsName.no_point {s : String} (h : IsName s) : '.' ∉ s.toList := by
  intro hpoint
  have hword := h.2 '.' hpoint
  revert hword
  decide

namespace Grammar

theorem isName_takeWhile {cs : List Char} (h : cs.takeWhile isWord = [] → False) :
    IsName (String.ofList (cs.takeWhile isWord)) := by
  unfold IsName
  rw [String.toList_ofList]
  exact ⟨h, fun c hc => List.mem_takeWhile_imp hc⟩

namespace Spellable

variable {s : String} {parts : List String}

theorem ne_nil (h : Spellable parts) : parts ≠ [] := by
  cases h <;> exact List.cons_ne_nil _ _

theorem join_cons (h : Spellable parts) : join "." (s :: parts) = s ++ "." ++ join "." parts := by
  obtain ⟨t, rest, rfl⟩ := List.exists_cons_of_ne_nil h.ne_nil
  rfl

theorem no_point (h : Spellable parts) : ∀ part ∈ parts, '.' ∉ part.toList := by
  induction h with
  | name hname => exact List.forall_mem_singleton.mpr hname.no_point
  | star => decide
  | qualified hname _ ih => exact List.forall_mem_cons.mpr ⟨hname.no_point, ih⟩

theorem isDotted (h : Spellable parts) : IsDotted (join "." parts) parts :=
  ⟨h.ne_nil, h.no_point, rfl⟩

end Spellable

/-- What is taken is a path of so many words, or words and a star. -/
theorem exists_spellable {n : Nat} {cs taken rest : List Char}
    (h : path n cs = some (taken, rest)) :
    ∃ parts, Spellable parts ∧ parts.length ≤ n + 1 ∧ taken = (join "." parts).toList := by
  fun_induction path n cs generalizing taken rest with
  | case1 cs left hdrop htake =>
    cases h
    exact ⟨["*"], .star, Nat.le_add_left 1 _, rfl⟩
  | case2 => cases h
  | case3 cs left n hdrop hword ih =>
    -- A word and a point: what is behind it is read as a path again.
    obtain ⟨⟨tail, after⟩, htail, heq⟩ := Option.map_eq_some_iff.mp h
    cases heq
    obtain ⟨parts, hparts, hlength, rfl⟩ := ih htail
    refine ⟨_, .qualified (isName_takeWhile hword) hparts, Nat.succ_le_succ hlength, ?_⟩
    rw [hparts.join_cons]
    simp
  | case4 =>
    cases h
    exact ⟨_, .name (isName_takeWhile ‹_›), Nat.le_add_left 1 _, by simp [join]⟩

/-- Such a path is taken up to a character that belongs to no path. -/
theorem path_spellable {parts : List String} (h : Spellable parts) {n : Nat}
    (hn : parts.length ≤ n + 1) {rest : List Char}
    (hrest : ∀ c ∈ rest.head?, isPathText c = false) :
    path n ((join "." parts).toList ++ rest) = some ((join "." parts).toList, rest) := by
  induction h generalizing n with
  | @name s hname => exact Shorthand.path_word hname.1 hname.2 hrest
  | star =>
    have hstar : isWord '*' = false := by decide
    show path n ('*' :: rest) = some (['*'], rest)
    unfold path
    simp [hstar]
  | @qualified s words hname hwords ih =>
    cases n with
    | zero =>
      obtain ⟨t, words, rfl⟩ := List.exists_cons_of_ne_nil hwords.ne_nil
      simp at hn
    | succ n =>
      have hread := Shorthand.path_point n ⟨s.toList, hname.1, hname.2⟩
        ((join "." words).toList ++ rest)
      rw [ih (by simpa using hn)] at hread
      rw [hwords.join_cons]
      simpa using hread

end Grammar

/-! ## Paths of fields -/

namespace Grammar.Spellable

variable {parts : List String} (h : Spellable parts)
include h

theorem path_join :
    path parts.length (join "." parts).toList = some ((join "." parts).toList, []) := by
  have hread : path parts.length ((join "." parts).toList ++ []) =
      some ((join "." parts).toList, []) :=
    path_spellable h (Nat.le_succ parts.length) fun c hc => nomatch hc
  rwa [List.append_nil] at hread

theorem not_blank : ∀ c ∈ (join "." parts).toList, isBlank c = false :=
  fun c hc => blank_of_pathText (pathText_of_path h.path_join c hc)

theorem trim_join : trim (join "." parts) = join "." parts :=
  trim_of_not_blank h.not_blank

theorem trimLeft_join (rest : List Char) :
    trimLeft ((join "." parts).toList ++ rest) = (join "." parts).toList ++ rest := by
  have hblank := h.not_blank
  cases hchars : (join "." parts).toList with
  | nil => exact absurd hchars (path_append (h.path_join)).1
  | cons c cs => exact trimLeft_cons (hblank c (hchars ▸ List.mem_cons_self)) (cs ++ rest)

theorem single : ∀ part ∈ parts, Spellable [part] := by
  induction h with
  | name hname => exact List.forall_mem_singleton.mpr (.name hname)
  | star => exact List.forall_mem_singleton.mpr .star
  | qualified hname _ ih => exact List.forall_mem_cons.mpr ⟨.name hname, ih⟩

theorem trim_ne : ∀ part ∈ parts, trim part ≠ "" := by
  intro part hpart hempty
  have hsingle := h.single part hpart
  have htrim : trim part = part := hsingle.trim_join
  rw [htrim] at hempty
  rw [hempty] at hsingle
  exact (path_append hsingle.path_join).1 rfl

theorem exists_ofPath (hlength : parts.length ≤ 3) :
    ∃ f, Field.ofPath (join "." parts) = .ok f ∧ f.parts = parts := by
  have hsplit := h.isDotted.eq_split
  rw [hsplit] at hlength
  obtain ⟨f, hf⟩ := Field.exists_ofPath_iff.mpr hlength
  exact ⟨f, hf, (Field.parts_ofPath hf).trans hsplit.symm⟩

end Grammar.Spellable

end TerseSql
