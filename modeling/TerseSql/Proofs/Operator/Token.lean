import TerseSql.Dialect
import TerseSql.Proofs.Lexing.Characters
import TerseSql.Proofs.Name.Blank

/-!
# White space around operators

A registry looks an operator up without the white space around it. The operators that every
dialect knows have none, and whether an operator is quantified is read off its end, so that white
space before it makes no difference there and white space after it does.
-/

namespace TerseSql

namespace Text

/-! ## Letter case -/

theorem upperChar_blank {c : Char} (h : isBlank c = true) : upperChar c = [c] :=
  beq_iff_eq.mp (forall_blank (p := fun d => upperChar d == [d]) (by decide +kernel) h)

theorem lowerChar_blank {c : Char} (h : isBlank c = true) : lowerChar c = [c] :=
  beq_iff_eq.mp (forall_blank (p := fun d => lowerChar d == [d]) (by decide +kernel) h)

/-- White space neither has a case nor is passed over on the way to a character that has. -/
theorem uncased_of_blank {c : Char} (h : isBlank c = true) :
    isCased c = false ∧ isCaseIgnorable c = false := by
  have hc := forall_blank (p := fun d => !isCased d && !isCaseIgnorable d) (by decide +kernel) h
  simpa using hc

theorem upper_blank {s : String} (h : IsBlank s.toList) : upper s = s := by
  have hchars : ∀ cs : List Char, IsBlank cs → cs.flatMap upperChar = cs := by
    intro cs
    induction cs with
    | nil => exact fun _ => rfl
    | cons c cs ih =>
      intro hcs
      obtain ⟨hc, hcs⟩ := List.forall_mem_cons.mp hcs
      rw [List.flatMap_cons, upperChar_blank hc, ih hcs, List.singleton_append]
  unfold upper
  rw [hchars _ h, String.ofList_toList]

theorem upper_append (s t : String) : upper (s ++ t) = upper s ++ upper t := by
  unfold upper
  rw [String.toList_append, List.flatMap_append, String.ofList_append]

theorem nextIsCased_append_blank {gap : List Char} (h : IsBlank gap) (cs : List Char) :
    nextIsCased (cs ++ gap) = nextIsCased cs := by
  unfold nextIsCased
  induction cs with
  | nil =>
    cases gap with
    | nil => rfl
    | cons c gap =>
      obtain ⟨hcased, hignorable⟩ := uncased_of_blank (h c List.mem_cons_self)
      simp [hcased, hignorable]
  | cons c cs ih =>
    by_cases hc : isCaseIgnorable c = true
    · simpa [hc] using ih
    · simp [hc]

theorem lowerAfter_append_blank {gap : List Char} (h : IsBlank gap) (before cs : List Char) :
    lowerAfter (before ++ gap) cs = lowerAfter before cs := by
  induction cs generalizing before with
  | nil => rfl
  | cons c cs ih =>
    rw [lowerAfter, lowerAfter, nextIsCased_append_blank h, ← List.cons_append, ih]

theorem lowerAfter_blank {gap : List Char} (h : IsBlank gap) (before cs : List Char) :
    lowerAfter before (gap ++ cs) = gap ++ lowerAfter (gap.reverse ++ before) cs := by
  induction gap generalizing before with
  | nil => rfl
  | cons c gap ih =>
    obtain ⟨hc, hgap⟩ := List.forall_mem_cons.mp h
    have hsigma : c ≠ 'Σ' := by
      rintro rfl
      revert hc
      decide
    rw [List.cons_append, lowerAfter, if_neg fun hand => hsigma hand.1, lowerChar_blank hc, ih hgap]
    simp

theorem exists_lowerAfter_append (before cs ds : List Char) :
    ∃ front, lowerAfter before (cs ++ ds) = front ++ lowerAfter (cs.reverse ++ before) ds := by
  induction cs generalizing before with
  | nil => exact ⟨[], rfl⟩
  | cons c cs ih =>
    obtain ⟨front, hfront⟩ := ih (c :: before)
    rw [List.cons_append, lowerAfter, hfront, ← List.append_assoc, List.reverse_cons,
      List.append_assoc cs.reverse]
    exact ⟨_, rfl⟩

theorem lower_before {gap : String} (h : IsBlank gap.toList) (s : String) :
    (lower (gap ++ s)).toList = gap.toList ++ (lower s).toList := by
  have hreverse : IsBlank gap.toList.reverse := fun c hc => h c (List.mem_reverse.mp hc)
  have hcontext := lowerAfter_append_blank hreverse [] s.toList
  unfold lower
  rw [String.toList_ofList, String.toList_ofList, String.toList_append, lowerAfter_blank h,
    List.append_nil]
  rw [List.nil_append] at hcontext
  rw [hcontext]

theorem exists_lower_after {gap : String} (h : IsBlank gap.toList) (s : String) :
    ∃ front, (lower (s ++ gap)).toList = front ++ gap.toList := by
  obtain ⟨front, hfront⟩ := exists_lowerAfter_append [] s.toList gap.toList
  have hgap := lowerAfter_blank h (s.toList.reverse ++ []) []
  rw [List.append_nil gap.toList, lowerAfter, List.append_nil gap.toList] at hgap
  refine ⟨front, ?_⟩
  unfold lower
  rw [String.toList_ofList, String.toList_append, hfront, hgap]

/-! ## Ends of texts -/

/-- A text that has no white space ends a text if it ends what follows white space there. -/
theorem suffix_append_blank {gap cs tail : List Char} (hgap : IsBlank gap)
    (htail : ∀ c ∈ tail, isBlank c = false) : tail <:+ gap ++ cs ↔ tail <:+ cs := by
  refine ⟨fun h => ?_, fun h => h.trans (List.suffix_append gap cs)⟩
  by_cases hlength : tail.length ≤ cs.length
  · exact List.suffix_of_suffix_length_le h (List.suffix_append gap cs) hlength
  · exfalso
    obtain ⟨front, hfront⟩ := List.suffix_of_suffix_length_le (List.suffix_append gap cs) h
      (by omega)
    subst hfront
    obtain ⟨before, hbefore⟩ := h
    rw [← List.append_assoc, List.append_cancel_right_eq] at hbefore
    cases hlast : front.reverse with
    | nil => simp_all
    | cons c rest =>
      have hmem : c ∈ front := List.mem_reverse.mp (hlast ▸ List.mem_cons_self)
      have hblank := hgap c (hbefore ▸ List.mem_append_right before hmem)
      rw [htail c (List.mem_append_left cs hmem)] at hblank
      cases hblank

theorem not_suffix_of_blank {gap front tail : List Char} (hgap : IsBlank gap) (hne : gap ≠ [])
    (htail : ∀ c ∈ tail, isBlank c = false) (hsome : tail ≠ []) : ¬tail <:+ front ++ gap := by
  rintro ⟨before, h⟩
  have hlast : (before ++ tail).getLast? = (front ++ gap).getLast? := congrArg List.getLast? h
  rw [List.getLast?_append_of_ne_nil _ hsome, List.getLast?_append_of_ne_nil _ hne,
    List.getLast?_eq_some_getLast hsome, List.getLast?_eq_some_getLast hne] at hlast
  have hblank := hgap _ (List.getLast_mem hne)
  rw [← Option.some.inj hlast, htail _ (List.getLast_mem hsome)] at hblank
  cases hblank

end Text

/-! ## Quantified operators -/

theorem not_blank_of_quantifier {tail : String} (h : tail ∈ ["any", "all", "some"]) :
    tail.toList ≠ [] ∧ ∀ c ∈ tail.toList, Text.isBlank c = false := by
  have hall : ∀ tail ∈ ["any", "all", "some"],
      tail.toList ≠ [] ∧ (tail.toList.all fun c => !Text.isBlank c) = true := by decide
  obtain ⟨hsome, hsolid⟩ := hall tail h
  exact ⟨hsome, fun c hc => by simpa using List.all_eq_true.mp hsolid c hc⟩

theorem isQuantified_before {gap : String} (h : IsBlank gap.toList) (token : String) :
    isQuantified (gap ++ token) = isQuantified token := by
  have hends : ∀ tail ∈ ["any", "all", "some"],
      Text.endsWith (Text.lower (gap ++ token)) tail = Text.endsWith (Text.lower token) tail := by
    intro tail htail
    unfold Text.endsWith
    rw [Text.lower_before h, Bool.eq_iff_iff, List.isSuffixOf_iff_suffix,
      List.isSuffixOf_iff_suffix, Text.suffix_append_blank h (not_blank_of_quantifier htail).2]
  unfold isQuantified
  dsimp only
  rw [hends "any" (by decide), hends "all" (by decide), hends "some" (by decide)]

theorem isQuantified_after {gap : String} (h : IsBlank gap.toList) (hne : gap ≠ "")
    (token : String) : isQuantified (token ++ gap) = false := by
  obtain ⟨front, hfront⟩ := Text.exists_lower_after h token
  have hgap : gap.toList ≠ [] := by simpa using hne
  have hends : ∀ tail ∈ ["any", "all", "some"],
      Text.endsWith (Text.lower (token ++ gap)) tail = false := by
    intro tail htail
    obtain ⟨hsome, hblank⟩ := not_blank_of_quantifier htail
    refine Bool.eq_false_iff.mpr fun hends => ?_
    unfold Text.endsWith at hends
    rw [hfront, List.isSuffixOf_iff_suffix] at hends
    exact Text.not_suffix_of_blank h hgap hblank hsome hends
  unfold isQuantified
  dsimp only
  rw [hends "any" (by decide), hends "all" (by decide), hends "some" (by decide)]
  rfl

/-! ## Known operators -/

theorem lt_of_toLower {c : Char} (h : c.toLower.toNat < 128) : c.toNat < 128 := by
  unfold Char.toLower at h
  split at h
  · next hupper =>
    have hlast : c.val.toNat ≤ 90 := hupper.2
    exact Nat.lt_of_le_of_lt hlast (by decide)
  · exact h

theorem eq_of_toLower {c d : Char} (h : c.toLower = d) (hd : d ∈ ['i', 's']) :
    c = d ∨ c = d.toUpper := by
  have hletters : (['i', 's'].all fun d => d.toNat < 128) = true := by decide
  have hc : c.toNat < 128 := lt_of_toLower (by simpa [h] using List.all_eq_true.mp hletters d hd)
  have hcases := Lexing.forall_ascii (p := fun c =>
    (['i', 's'].all fun d => c.toLower != d || (c == d || c == d.toUpper)) = true) (by decide) hc
  simpa [h] using List.all_eq_true.mp hcases d hd

def Operator.tokens : List String :=
  ["=", "!", "!=", "~", "!~", "<>", "><", "==", "is", "iS", "Is", "IS"]

theorem mem_tokens {token : String} (h : (Operator.ofToken? token).isSome = true) :
    token ∈ Operator.tokens := by
  unfold Operator.ofToken? at h
  split at h
  all_goals first | decide | skip
  by_cases his : Text.equalsIgnoringAsciiCase token "is" = true
  · unfold Text.equalsIgnoringAsciiCase at his
    have hmap : token.toList.map Char.toLower = ['i', 's'] := beq_iff_eq.mp his
    obtain ⟨c, rest, htoken, hc, hrest⟩ := List.map_eq_cons_iff.mp hmap
    obtain ⟨d, rest, rfl, hd, hrest⟩ := List.map_eq_cons_iff.mp hrest
    obtain rfl := List.map_eq_nil_iff.mp hrest
    obtain rfl : token = String.ofList [c, d] := by rw [← htoken, String.ofList_toList]
    rcases eq_of_toLower hc (by decide) with rfl | rfl <;>
      rcases eq_of_toLower hd (by decide) with rfl | rfl <;> decide
  · rw [if_neg his] at h
    cases h

/-- The operators that every dialect knows have no white space in them, and are not quantified. -/
theorem solid_of_operator {token : String} (h : (Operator.ofToken? token).isSome = true) :
    (∀ c ∈ token.toList, Text.isBlank c = false) ∧ isQuantified token = false := by
  have hall : ∀ token ∈ Operator.tokens,
      (token.toList.all fun c => !Text.isBlank c) = true ∧ isQuantified token = false := by decide
  obtain ⟨hsolid, hbare⟩ := hall token (mem_tokens h)
  exact ⟨fun c hc => by simpa using List.all_eq_true.mp hsolid c hc, hbare⟩

/-! ## Operators between white space -/

section

variable {left right : String} (hleft : IsBlank left.toList) (hright : IsBlank right.toList)
include hleft hright

theorem normalize_padded (token : String) :
    Registry.normalize (left ++ token ++ right) = Registry.normalize token := by
  unfold Registry.normalize Text.trim
  rw [String.toList_append, String.toList_append, Text.trimChars_after hright,
    Text.trimChars_before hleft]

theorem isAllBlank_padded (token : String) :
    Text.isAllBlank (left ++ token ++ right) = Text.isAllBlank token := by
  unfold Text.isAllBlank
  rw [String.toList_append, String.toList_append, List.all_append, List.all_append,
    List.all_eq_true.mpr hleft, List.all_eq_true.mpr hright, Bool.true_and, Bool.and_true]

theorem ofToken?_padded (token : String) :
    Operator.ofToken? (left ++ token ++ right) =
      if left = "" ∧ right = "" then Operator.ofToken? token else none := by
  by_cases hempty : left = "" ∧ right = ""
  · obtain ⟨rfl, rfl⟩ := hempty
    rw [if_pos ⟨rfl, rfl⟩, String.empty_append, String.append_empty]
  · rw [if_neg hempty]
    have hgap : ∃ c, Text.isBlank c = true ∧ c ∈ (left ++ token ++ right).toList := by
      have hmem : ∀ gap : String, gap ≠ "" → ∃ c, c ∈ gap.toList :=
        fun gap hgap => List.exists_mem_of_ne_nil _ (by simpa using hgap)
      rcases not_and_or.mp hempty with h | h
      · obtain ⟨c, hc⟩ := hmem left h
        exact ⟨c, hleft c hc, by simp [hc]⟩
      · obtain ⟨c, hc⟩ := hmem right h
        exact ⟨c, hright c hc, by simp [hc]⟩
    obtain ⟨c, hblank, hc⟩ := hgap
    refine Option.not_isSome_iff_eq_none.mp fun hsome => ?_
    rw [(solid_of_operator hsome).1 c hc] at hblank
    cases hblank

theorem isQuantified_padded (token : String) :
    isQuantified (left ++ token ++ right) = (isQuantified token && right == "") := by
  by_cases hempty : right = ""
  · rw [hempty, String.append_empty, isQuantified_before hleft, beq_self_eq_true, Bool.and_true]
  · rw [isQuantified_after hright hempty, beq_false_of_ne hempty, Bool.and_false]

end

end TerseSql
