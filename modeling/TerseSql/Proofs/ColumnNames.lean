import TerseSql.Proofs.Name.Blank
import TerseSql.Proofs.Result
import TerseSql.Statement.Column

/-!
# Lists of columns

A text with commas and a list of its parts are the same columns, whatever white space stands
around the parts. The columns of a list of texts are those of one text after the other.
-/

namespace TerseSql

theorem Text.splitNames_join {texts : List String} (hne : texts ≠ [])
    (h : ∀ text ∈ texts, ',' ∉ text.toList) :
    splitNames (join "," texts) = texts.map trim := by
  unfold splitNames
  rw [show (",": String) = String.singleton ',' from rfl, split_join hne h]

namespace Column

variable {names texts : List String}

theorem map_trim_of_spaced (h : List.Forall₂ Spaced names texts) :
    texts.map Text.trim = names.map Text.trim := by
  induction h with
  | nil => rfl
  | cons hfirst _ ih => rw [List.map_cons, List.map_cons, hfirst.trim_eq, ih]

theorem no_comma_of_spaced (h : List.Forall₂ Spaced names texts)
    (hnames : ∀ name ∈ names, ',' ∉ name.toList) : ∀ text ∈ texts, ',' ∉ text.toList := by
  induction h with
  | nil => exact hnames
  | cons hfirst _ ih =>
    obtain ⟨hname, hnames⟩ := List.forall_mem_cons.mp hnames
    exact List.forall_mem_cons.mpr ⟨hfirst.not_mem (by decide) hname, ih hnames⟩

theorem listOfValue_text (text : String) : listOfValue (.text text) = .ok (listOfText text) :=
  rfl

theorem listOfValue_texts (texts : List String) :
    listOfValue (.list (texts.map .text)) = .ok (texts.map listOfText).flatten := by
  have hmap : (texts.map Value.text).mapM listOfSingle = .ok (texts.map listOfText) := by
    rw [List.mapM_map]
    exact Built.mapM_of_forall fun _ _ => rfl
  rw [listOfValue, hmap]
  rfl

theorem listOfText_join (hne : texts ≠ []) (h : ∀ text ∈ texts, ',' ∉ text.toList) :
    listOfText (Text.join "," texts) = listOfNames texts := by
  unfold listOfText listOfNames ofName
  rw [Text.splitNames_join hne h, List.map_map]
  rfl

theorem flatten_listOfText (h : ∀ text ∈ texts, ',' ∉ text.toList) :
    (texts.map listOfText).flatten = listOfNames texts := by
  induction texts with
  | nil => rfl
  | cons text texts ih =>
    obtain ⟨htext, htexts⟩ := List.forall_mem_cons.mp h
    have hone := listOfText_join (List.cons_ne_nil text []) (List.forall_mem_singleton.mpr htext)
    rw [Text.join] at hone
    rw [List.map_cons, List.flatten_cons, ih htexts, hone]
    rfl

/-- Names without commas, with white space around each, are one list of columns in four
spellings: joined to one text, and as a list of names, taken directly or as values. Of texts
with commas, a list is the columns of each of them in turn. -/
theorem lists_agree :
    (∀ names texts : List String, names ≠ [] → (∀ name ∈ names, ',' ∉ name.toList) →
      List.Forall₂ Spaced names texts →
        let columns := names.map fun name => .name (Text.trim name)
        listOfText (Text.join "," texts) = columns ∧ listOfNames texts = columns ∧
        listOfValue (.text (Text.join "," texts)) = .ok columns ∧
        listOfValue (.list (texts.map .text)) = .ok columns) ∧
      ∀ texts : List String, ∃ lists,
        List.Forall₂ (fun text columns => listOfValue (.text text) = .ok columns) texts lists ∧
        listOfValue (.list (texts.map .text)) = .ok lists.flatten := by
  constructor
  · intro names texts hne hnames hspaced columns
    have htexts := no_comma_of_spaced hspaced hnames
    have hnil : texts ≠ [] := by
      rintro rfl
      cases hspaced
      exact hne rfl
    have hcolumns : listOfNames texts = columns := by
      have htrim := congrArg (List.map Column.name) (map_trim_of_spaced hspaced)
      rwa [List.map_map, List.map_map] at htrim
    rw [listOfValue_text, listOfValue_texts, listOfText_join hnil htexts,
      flatten_listOfText htexts, hcolumns]
    exact ⟨rfl, rfl, rfl, rfl⟩
  · intro texts
    refine ⟨texts.map listOfText, ?_, listOfValue_texts texts⟩
    rw [List.forall₂_map_right_iff]
    exact List.forall₂_same.mpr fun text _ => listOfValue_text text

/-- An ideographic space inside a name, wide spaces around, and a name with nothing in it. -/
theorem lists_agree_wide :
    (listOfText " a,\u00a0\t,b\u3000c\u2003" = [.name "a", .name "", .name "b\u3000c"] ∧
      listOfNames [" a", "\u00a0\t", "b\u3000c\u2003"] =
        [.name "a", .name "", .name "b\u3000c"]) ∧
    ∃ lists,
      List.Forall₂ (fun text columns => listOfValue (.text text) = .ok columns) ["a,b", ""] lists ∧
      listOfValue (.list [.text "a,b", .text ""]) = .ok lists.flatten := by
  have hspaced : List.Forall₂ Spaced ["a", "", "b\u3000c"] [" a", "\u00a0\t", "b\u3000c\u2003"] :=
    .cons ⟨[' '], [], by decide, by decide, by decide⟩ <|
      .cons ⟨['\u00a0', '\t'], [], by decide, by decide, by decide⟩ <|
      .cons ⟨[], ['\u2003'], by decide, by decide, by decide⟩ .nil
  obtain ⟨htext, hnames, -⟩ := lists_agree.1 _ _ (by decide) (by decide) hspaced
  exact ⟨⟨htext, hnames⟩, lists_agree.2 ["a,b", ""]⟩

end Column

end TerseSql
