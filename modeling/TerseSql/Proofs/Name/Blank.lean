import TerseSql.Proofs.Name.Path

/-!
# White space around names

White space may stand around the parts of a key. It is no part of a path, readers skip it on
the left, and trimming takes it away from both ends.
-/

namespace TerseSql

def IsBlank (cs : List Char) : Prop :=
  ∀ c ∈ cs, Text.isBlank c = true

instance (cs : List Char) : Decidable (IsBlank cs) :=
  decidable_of_iff (cs.all Text.isBlank = true) List.all_eq_true

/-! ## Characters -/

theorem takeWhile_span {p : Char → Bool} {cs rest : List Char} (hcs : ∀ c ∈ cs, p c = true)
    (hrest : ∀ c ∈ rest.head?, p c = false) : (cs ++ rest).takeWhile p = cs := by
  rw [List.takeWhile_append_of_pos hcs]
  cases rest with
  | nil => simp
  | cons c rest => simp [hrest c rfl]

theorem dropWhile_span {p : Char → Bool} {cs rest : List Char} (hcs : ∀ c ∈ cs, p c = true)
    (hrest : ∀ c ∈ rest.head?, p c = false) : (cs ++ rest).dropWhile p = rest := by
  rw [List.dropWhile_append_of_pos hcs]
  cases rest with
  | nil => simp
  | cons c rest => simp [hrest c rfl]

theorem head_dropWhile (p : Char → Bool) (cs : List Char) :
    ∀ c ∈ (cs.dropWhile p).head?, p c = false := by
  intro c hc
  have hhead := List.head?_dropWhile_not p cs
  rwa [Option.mem_def.mp hc] at hhead

theorem exists_range_of_inRanges {ranges : List (Nat × Nat)} {n : Nat}
    (h : Text.inRanges ranges n = true) : ∃ range ∈ ranges, range.1 ≤ n ∧ n ≤ range.2 := by
  induction ranges with
  | nil => cases h
  | cons range rest ih =>
    obtain ⟨low, high⟩ := range
    unfold Text.inRanges at h
    by_cases hlow : n < low
    · rw [if_pos hlow] at h
      cases h
    · rw [if_neg hlow] at h
      by_cases hhigh : n ≤ high
      · exact ⟨_, List.mem_cons_self, Nat.le_of_not_lt hlow, hhigh⟩
      · rw [if_neg hhigh] at h
        obtain ⟨range, hrange, hn⟩ := ih h
        exact ⟨range, List.mem_cons_of_mem _ hrange, hn⟩

/-- What holds of each code point of white space holds of white space. -/
theorem forall_blank {p : Char → Bool}
    (h : (Text.blankRanges.all fun range =>
      (List.range' range.1 (range.2 + 1 - range.1)).all fun n => p (Char.ofNat n)) = true)
    {c : Char} (hc : Text.isBlank c = true) : p c = true := by
  obtain ⟨range, hrange, hlow, hhigh⟩ := exists_range_of_inRanges hc
  have hcodes := List.all_eq_true.mp (List.all_eq_true.mp h range hrange) c.toNat
    (by rw [List.mem_range'_1]; omega)
  rwa [Char.ofNat_toNat] at hcodes

theorem blank_of_pathText {c : Char} (h : isPathText c = true) : Text.isBlank c = false := by
  apply Bool.of_not_eq_true
  intro hblank
  have hc := forall_blank (p := fun d => !isPathText d) (by decide +kernel) hblank
  rw [h] at hc
  cases hc

theorem not_pathText_of_blank {c : Char} (h : Text.isBlank c = true) : isPathText c = false := by
  apply Bool.of_not_eq_true
  intro hpath
  rw [blank_of_pathText hpath] at h
  cases h

theorem exists_trimLeft (cs : List Char) :
    ∃ before, IsBlank before ∧ cs = before ++ Text.trimLeft cs :=
  ⟨cs.takeWhile Text.isBlank, fun _ hc => List.mem_takeWhile_imp hc,
    List.takeWhile_append_dropWhile.symm⟩

theorem mem_of_mem_trimLeft {cs : List Char} {c : Char} (h : c ∈ Text.trimLeft cs) : c ∈ cs :=
  (List.dropWhile_sublist _).mem h

theorem exists_cons_trimLeft {cs : List Char} (h : ¬IsBlank cs) :
    ∃ c rest, Text.trimLeft cs = c :: rest := by
  apply List.exists_cons_of_ne_nil
  intro hnil
  exact h (List.dropWhile_eq_nil_iff.mp hnil)

theorem trimLeft_append {before : List Char} (h : IsBlank before) (cs : List Char) :
    Text.trimLeft (before ++ cs) = Text.trimLeft cs :=
  List.dropWhile_append_of_pos h

theorem trimLeft_cons {c : Char} (h : Text.isBlank c = false) (cs : List Char) :
    Text.trimLeft (c :: cs) = c :: cs := by
  unfold Text.trimLeft
  rw [List.dropWhile_cons_of_neg (by simp [h])]

theorem trimLeft_of_head {cs : List Char} (h : ∀ c ∈ cs.head?, Text.isBlank c = false) :
    Text.trimLeft cs = cs := by
  cases cs with
  | nil => rfl
  | cons c rest => exact trimLeft_cons (h c rfl) rest

theorem head_trimLeft (cs : List Char) :
    ∀ c ∈ (Text.trimLeft cs).head?, Text.isBlank c = false :=
  head_dropWhile Text.isBlank cs

/-! ## Trimming -/

theorem isBlank_nil : IsBlank [] :=
  fun _ hc => nomatch hc

theorem IsBlank.append {a b : List Char} (ha : IsBlank a) (hb : IsBlank b) : IsBlank (a ++ b) :=
  List.forall_mem_append.mpr ⟨ha, hb⟩

theorem trimLeft_of_blank {cs : List Char} (h : IsBlank cs) : Text.trimLeft cs = [] :=
  List.dropWhile_eq_nil_iff.mpr h

/-- What follows a character that is not blank stays. -/
theorem trimLeft_append_right {cs : List Char} (h : ¬IsBlank cs) (after : List Char) :
    Text.trimLeft (cs ++ after) = Text.trimLeft cs ++ after := by
  induction cs with
  | nil => exact absurd (fun c hc => nomatch hc) h
  | cons c cs ih =>
    by_cases hc : Text.isBlank c = true
    · have hcs : ¬IsBlank cs := fun hcs => h (List.forall_mem_cons.mpr ⟨hc, hcs⟩)
      have hskip : ∀ ds : List Char, Text.trimLeft (c :: ds) = Text.trimLeft ds :=
        fun ds => List.dropWhile_cons_of_pos hc
      rw [List.cons_append, hskip, hskip, ih hcs]
    · have hc : Text.isBlank c = false := Bool.of_not_eq_true hc
      rw [List.cons_append, trimLeft_cons hc, trimLeft_cons hc, List.cons_append]

namespace Text

theorem trimChars_before {before : List Char} (h : IsBlank before) (cs : List Char) :
    trimChars (before ++ cs) = trimChars cs := by
  unfold trimChars
  rw [trimLeft_append h]

theorem trimChars_after {after : List Char} (h : IsBlank after) (cs : List Char) :
    trimChars (cs ++ after) = trimChars cs := by
  have hreverse : IsBlank after.reverse := fun c hc => h c (List.mem_reverse.mp hc)
  unfold trimChars
  by_cases hcs : IsBlank cs
  · rw [trimLeft_of_blank (hcs.append h), trimLeft_of_blank hcs]
  · rw [trimLeft_append_right hcs, List.reverse_append, trimLeft_append hreverse]

theorem trimChars_of_ends {cs : List Char} (hhead : ∀ c ∈ cs.head?, isBlank c = false)
    (hlast : ∀ c ∈ cs.getLast?, isBlank c = false) : trimChars cs = cs := by
  rw [← List.head?_reverse] at hlast
  unfold trimChars
  rw [trimLeft_of_head hhead, trimLeft_of_head hlast, List.reverse_reverse]

theorem trimChars_of_not_blank {cs : List Char} (h : ∀ c ∈ cs, isBlank c = false) :
    trimChars cs = cs :=
  trimChars_of_ends (fun c hc => h c (List.mem_of_mem_head? hc))
    fun c hc => h c (List.mem_of_mem_getLast? hc)

/-- White space around a text without any is trimmed away. -/
theorem trim_blank {before cs after : List Char} (hbefore : IsBlank before) (hafter : IsBlank after)
    (h : ∀ c ∈ cs, isBlank c = false) :
    trim (String.ofList (before ++ (cs ++ after))) = String.ofList cs := by
  unfold trim
  rw [String.toList_ofList, trimChars_before hbefore, trimChars_after hafter,
    trimChars_of_not_blank h]

theorem trim_of_not_blank {s : String} (h : ∀ c ∈ s.toList, isBlank c = false) : trim s = s := by
  unfold trim
  rw [trimChars_of_not_blank h, String.ofList_toList]

theorem exists_trimChars (cs : List Char) :
    ∃ after, IsBlank after ∧ trimLeft cs = trimChars cs ++ after := by
  obtain ⟨before, hbefore, hcs⟩ := exists_trimLeft (trimLeft cs).reverse
  refine ⟨before.reverse, fun c hc => hbefore c (List.mem_reverse.mp hc), ?_⟩
  unfold trimChars
  rw [← List.reverse_append, ← hcs, List.reverse_reverse]

end Text

/-! ## Splitting and trimming -/

namespace Text

theorem map_trimChars_before {sep : Char} (hsep : isBlank sep = false) {before : List Char}
    (h : IsBlank before) (cs : List Char) :
    (splitChars sep (before ++ cs)).map trimChars = (splitChars sep cs).map trimChars := by
  induction before with
  | nil => rfl
  | cons b before ih =>
    obtain ⟨hb, hbefore⟩ := List.forall_mem_cons.mp h
    have hne : b ≠ sep := by
      rintro rfl
      rw [hsep] at hb
      cases hb
    rw [List.cons_append, splitChars, if_neg hne, ← ih hbefore]
    cases hsplit : splitChars sep (before ++ cs) with
    | nil => exact absurd hsplit (splitChars_ne_nil sep _)
    | cons first rest =>
      have htrim : trimChars (b :: first) = trimChars first :=
        trimChars_before (List.forall_mem_singleton.mpr hb) first
      rw [List.map_cons, List.map_cons, htrim]

/-- What has no separator and follows a text belongs to its last part. -/
theorem exists_splitChars_after {sep : Char} {after : List Char} (h : sep ∉ after)
    (cs : List Char) : ∃ parts last, splitChars sep cs = parts ++ [last] ∧
      splitChars sep (cs ++ after) = parts ++ [last ++ after] := by
  induction cs with
  | nil => exact ⟨[], [], rfl, splitChars_of_not_mem h⟩
  | cons c cs ih =>
    obtain ⟨parts, last, hcs, hafter⟩ := ih
    rw [List.cons_append, splitChars, splitChars, hcs, hafter]
    by_cases hc : c = sep
    · exact ⟨[] :: parts, last, if_pos hc, if_pos hc⟩
    · rw [if_neg hc, if_neg hc]
      cases parts with
      | nil => exact ⟨[], c :: last, rfl, rfl⟩
      | cons first parts => exact ⟨(c :: first) :: parts, last, rfl, rfl⟩

theorem map_trimChars_after {sep : Char} (hsep : isBlank sep = false) {after : List Char}
    (h : IsBlank after) (cs : List Char) :
    (splitChars sep (cs ++ after)).map trimChars = (splitChars sep cs).map trimChars := by
  have hnot : sep ∉ after := by
    intro hmem
    rw [h sep hmem] at hsep
    cases hsep
  obtain ⟨parts, last, hcs, hafter⟩ := exists_splitChars_after hnot cs
  rw [hcs, hafter, List.map_append, List.map_append, List.map_singleton, List.map_singleton,
    trimChars_after h]

end Text

def Spaced (core text : String) : Prop :=
  ∃ before after, IsBlank before ∧ IsBlank after ∧ text.toList = before ++ (core.toList ++ after)

structure IsBare (s : String) : Prop where
  head : ∀ c ∈ s.toList.head?, Text.isBlank c = false
  last : ∀ c ∈ s.toList.getLast?, Text.isBlank c = false

theorem Text.spaced_trim (s : String) : Spaced (trim s) s := by
  obtain ⟨before, hbefore, hleft⟩ := exists_trimLeft s.toList
  obtain ⟨after, hafter, hright⟩ := exists_trimChars s.toList
  refine ⟨before, after, hbefore, hafter, ?_⟩
  unfold trim
  rw [String.toList_ofList, ← hright, ← hleft]

theorem Text.isBare_trim (s : String) : IsBare (trim s) where
  head := by
    intro c hc
    obtain ⟨after, -, hright⟩ := exists_trimChars s.toList
    apply head_trimLeft s.toList
    unfold trim at hc
    rw [String.toList_ofList] at hc
    rw [hright, List.head?_append, Option.mem_def.mp hc]
    rfl
  last := by
    unfold trim trimChars
    rw [String.toList_ofList, List.getLast?_reverse]
    exact head_trimLeft _

/-- Trimming takes all white space around a text away and nothing else. -/
theorem Text.trim_eq_iff {s core : String} : trim s = core ↔ Spaced core s ∧ IsBare core := by
  constructor
  · rintro rfl
    exact ⟨spaced_trim s, isBare_trim s⟩
  · rintro ⟨⟨before, after, hbefore, hafter, hs⟩, hcore⟩
    unfold trim
    rw [hs, trimChars_before hbefore, trimChars_after hafter,
      trimChars_of_ends hcore.head hcore.last, String.ofList_toList]

/-- White space around a text is white space around its first and its last part. -/
theorem Text.map_trim_split {sep : Char} (hsep : isBlank sep = false) {core text : String}
    (h : Spaced core text) : (split sep text).map trim = (split sep core).map trim := by
  obtain ⟨before, after, hbefore, hafter, htext⟩ := h
  have htrim : trim ∘ String.ofList = String.ofList ∘ trimChars := by
    funext cs
    simp [trim]
  have hchars := (map_trimChars_before hsep hbefore (core.toList ++ after)).trans
    (map_trimChars_after hsep hafter core.toList)
  rw [← htext] at hchars
  unfold split
  rw [List.map_map, List.map_map, htrim, ← List.map_map, ← List.map_map, hchars]

namespace Spaced

variable {core name text : String}

theorem trans (hname : Spaced core name) (htext : Spaced name text) : Spaced core text := by
  obtain ⟨before, after, hbefore, hafter, hname⟩ := hname
  obtain ⟨before', after', hbefore', hafter', htext⟩ := htext
  refine ⟨before' ++ before, after ++ after', hbefore'.append hbefore, hafter.append hafter', ?_⟩
  rw [htext, hname]
  simp only [List.append_assoc]

theorem trim_eq (h : Spaced name text) : Text.trim text = Text.trim name :=
  Text.trim_eq_iff.mpr ⟨(Text.spaced_trim name).trans h, Text.isBare_trim name⟩

theorem not_mem {c : Char} (h : Spaced name text) (hc : Text.isBlank c = false)
    (hname : c ∉ name.toList) : c ∉ text.toList := by
  have hblank : ∀ {cs : List Char}, IsBlank cs → c ∉ cs := by
    intro cs hcs hmem
    rw [hcs c hmem] at hc
    cases hc
  obtain ⟨before, after, hbefore, hafter, htext⟩ := h
  simp only [htext, List.mem_append, not_or]
  exact ⟨hblank hbefore, hname, hblank hafter⟩

end Spaced

end TerseSql
