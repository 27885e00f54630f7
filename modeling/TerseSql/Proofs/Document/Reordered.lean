import TerseSql.Proofs.Document.Encoding
import TerseSql.Proofs.Operator.Update

/-!
# Mappings in another order

The entries of mappings may be put into another order, at any depth in a value. What the value
stands for stays the same document, so the same text is assigned under every dialect at hand.
-/

namespace TerseSql

namespace Value

mutual

/-- The second value is the first with the entries of its mappings, at any depth in lists and
mappings, in an order of their own. -/
inductive Reordered : Value → Value → Prop where
  | refl (v : Value) : Reordered v v
  | list {items items' : List Value} : List.Forall₂ Reordered items items' →
    Reordered (.list items) (.list items')
  | dict {entries between entries' : List (Key × Value)} :
    List.Forall₂ ReorderedEntry entries between → between.Perm entries' →
    Reordered (.dict ⟨entries⟩) (.dict ⟨entries'⟩)

inductive ReorderedEntry : Key × Value → Key × Value → Prop where
  | intro {key : Key} {v w : Value} : Reordered v w → ReorderedEntry (key, v) (key, w)

end

/-! ## Keys -/

theorem distinctTextsEntries_iff {entries : List (Key × Value)} :
    DistinctTextsEntries entries ↔ ∀ e ∈ entries, e.2.DistinctTexts := by
  induction entries with
  | nil => simp [DistinctTextsEntries]
  | cons e rest ih => rw [DistinctTextsEntries, List.forall_mem_cons, ih]

theorem texts_of_reorderedEntry {entries between : List (Key × Value)}
    (h : List.Forall₂ ReorderedEntry entries between) :
    (between.map fun e => e.1.text) = entries.map fun e => e.1.text := by
  induction h with
  | nil => rfl
  | cons he _ ih =>
    obtain ⟨-⟩ := he
    rw [List.map_cons, List.map_cons, ih]

mutual

theorem Reordered.distinctTexts : ∀ {v w : Value}, v.Reordered w → v.DistinctTexts →
    w.DistinctTexts
  | .list items, _, h, hv => by
    cases h with
    | refl => exact hv
    | list hitems =>
      rw [DistinctTexts] at hv ⊢
      exact distinctTexts_items hitems hv
  | .dict ⟨entries⟩, _, h, hv => by
    cases h with
    | refl => exact hv
    | @dict _ between _ hentries hperm =>
      rw [DistinctTexts] at hv ⊢
      have hbetween : DistinctTextsEntries between := distinctTexts_entries hentries hv.2
      rw [distinctTextsEntries_iff] at hbetween ⊢
      refine ⟨?_, fun e he => hbetween e (hperm.mem_iff.mpr he)⟩
      rw [← (hperm.map _).nodup_iff, texts_of_reorderedEntry hentries]
      exact hv.1
  | .null, _, .refl _, hv | .bool _, _, .refl _, hv | .int _, _, .refl _, hv
  | .float _, _, .refl _, hv | .text _, _, .refl _, hv | .raw _, _, .refl _, hv
  | .field _, _, .refl _, hv | .query _, _, .refl _, hv | .json _, _, .refl _, hv => hv

theorem Reordered.distinctTexts_items : ∀ {items items' : List Value},
    List.Forall₂ Reordered items items' → DistinctTextsItems items → DistinctTextsItems items'
  | [], _, .nil, h => h
  | _ :: _, _, .cons hv hrest, h => by
    rw [DistinctTextsItems] at h ⊢
    exact ⟨hv.distinctTexts h.1, distinctTexts_items hrest h.2⟩

theorem Reordered.distinctTexts_entries : ∀ {entries between : List (Key × Value)},
    List.Forall₂ ReorderedEntry entries between → DistinctTextsEntries entries →
      DistinctTextsEntries between
  | [], _, .nil, h => h
  | (_, _) :: _, _, .cons (.intro hv) hrest, h => by
    rw [DistinctTextsEntries] at h ⊢
    exact ⟨hv.distinctTexts h.1, distinctTexts_entries hrest h.2⟩

end

/-! ## Documents -/

mutual

/-- A value and the same value in another order stand for the same document. -/
theorem Reordered.encodes_iff : ∀ {v w : Value}, v.Reordered w → ∀ {document : Json},
    Encodes v document ↔ Encodes w document
  | .list items, _, h, document => by
    cases h with
    | refl => exact Iff.rfl
    | list hitems =>
      rw [encodes_list_iff, encodes_list_iff]
      simp only [encodes_items_iff hitems]
  | .dict ⟨entries⟩, _, h, document => by
    cases h with
    | refl => exact Iff.rfl
    | @dict _ between _ hentries hperm =>
      rw [encodes_dict_iff, encodes_dict_iff]
      -- The members of entries in another order are the same members in another order.
      constructor
      · rintro ⟨encoded, members, hencoded, hmembers, hascending, rfl⟩
        have hbetween := (encodes_entries_iff hentries).mp hencoded
        obtain ⟨encoded', hencoded', hsame⟩ := List.perm_comp_forall₂ hperm.symm hbetween
        exact ⟨encoded', members, hencoded', hsame.trans hmembers, hascending, rfl⟩
      · rintro ⟨encoded, members, hencoded, hmembers, hascending, rfl⟩
        obtain ⟨encoded', hbetween, hsame⟩ := List.perm_comp_forall₂ hperm hencoded
        exact ⟨encoded', members, (encodes_entries_iff hentries).mpr hbetween,
          hsame.trans hmembers, hascending, rfl⟩
  | .null, _, .refl _, _ | .bool _, _, .refl _, _ | .int _, _, .refl _, _
  | .float _, _, .refl _, _ | .text _, _, .refl _, _ | .raw _, _, .refl _, _
  | .field _, _, .refl _, _ | .query _, _, .refl _, _ | .json _, _, .refl _, _ => Iff.rfl

theorem Reordered.encodes_items_iff : ∀ {items items' : List Value},
    List.Forall₂ Reordered items items' → ∀ {documents : List Json},
      List.Forall₂ Encodes items documents ↔ List.Forall₂ Encodes items' documents
  | [], _, .nil, _ => Iff.rfl
  | _ :: _, _, .cons hv hrest, _ => by
    rw [List.forall₂_cons_left_iff, List.forall₂_cons_left_iff]
    simp only [hv.encodes_iff, encodes_items_iff hrest]

theorem Reordered.encodes_entries_iff : ∀ {entries between : List (Key × Value)},
    List.Forall₂ ReorderedEntry entries between → ∀ {encoded : List (String × Json)},
      List.Forall₂ EncodesEntry entries encoded ↔ List.Forall₂ EncodesEntry between encoded
  | [], _, .nil, _ => Iff.rfl
  | (_, _) :: _, _, .cons (.intro hv) hrest, encoded => by
    rw [List.forall₂_cons_left_iff, List.forall₂_cons_left_iff]
    simp only [encodesEntry_iff, hv.encodes_iff, encodes_entries_iff hrest]

end

end Value

/-! ## Assignments -/

/-- What the operator for documents assigns is the literal of the document's text. -/
theorem Builtin.assignment_json_iff (b : Builtin) {token : String}
    (htoken : Registry.normalize token = "json") (field : String) {v : Value}
    (hv : v.DistinctTexts) {sql : String} :
    b.dialect.assignment (some token) field v = .ok sql ↔ ∃ document, Value.Encodes v document ∧
      sql = field ++ "=" ++ b.dialect.quoteText document.write := by
  have hsign : token ≠ "=" := by
    rintro rfl
    exact absurd htoken (by decide)
  rw [b.assignment_eq, Option.getD_some, if_neg hsign, if_pos htoken]
  constructor
  · intro h
    obtain ⟨document, hdocument, h⟩ := Built.exists_of_bind h
    cases h
    exact ⟨document, (Value.toJson_eq_ok_iff hv).mp hdocument, rfl⟩
  · rintro ⟨document, hdocument, rfl⟩
    have hjson := (Value.toJson_eq_ok_iff hv).mpr hdocument
    unfold assignJson
    rw [hjson]
    rfl

/-- Of a value whose mappings have keys of different texts, and the same value with its mappings in
another order, either none has a document or both have the same one: that which has, for each
mapping, one object with one member for each entry. Under every dialect at hand, the operator for
documents assigns to both of them the literal of that document's text, or fails for both. -/
theorem Value.documents_canonical {v w : Value} (hv : v.DistinctTexts) (h : v.Reordered w) :
    (∀ document, v.toJson = .ok document ↔ Encodes v document) ∧
    (∀ document, w.toJson = .ok document ↔ Encodes w document) ∧
    v.toJson.toOption = w.toJson.toOption ∧
    ∀ (b : Builtin) (token field : String), Registry.normalize token = "json" →
      (∀ sql, b.dialect.assignment (some token) field v = .ok sql ↔
        ∃ document, Encodes v document ∧
          sql = field ++ "=" ++ b.dialect.quoteText document.write) ∧
      (∀ sql, b.dialect.assignment (some token) field w = .ok sql ↔
        ∃ document, Encodes w document ∧
          sql = field ++ "=" ++ b.dialect.quoteText document.write) ∧
      (b.dialect.assignment (some token) field v).toOption =
        (b.dialect.assignment (some token) field w).toOption := by
  have hw : w.DistinctTexts := h.distinctTexts hv
  refine ⟨fun _ => toJson_eq_ok_iff hv, fun _ => toJson_eq_ok_iff hw, ?_, ?_⟩
  · refine Option.ext fun document => ?_
    rw [Built.toOption_eq_some_iff, Built.toOption_eq_some_iff, toJson_eq_ok_iff hv,
      toJson_eq_ok_iff hw, h.encodes_iff]
  · intro b token field htoken
    refine ⟨fun _ => b.assignment_json_iff htoken field hv,
      fun _ => b.assignment_json_iff htoken field hw, Option.ext fun sql => ?_⟩
    rw [Built.toOption_eq_some_iff, Built.toOption_eq_some_iff,
      b.assignment_json_iff htoken field hv, b.assignment_json_iff htoken field hw]
    simp only [h.encodes_iff]

/-- A mapping in a list in a mapping, with both of them turned around. -/
theorem Value.documents_canonical_nested :
    let inner : List (Key × Value) := [(.raw ⟨"y"⟩, .null), (.name "x", .int 1)]
    let v : Value := .dict ⟨[(.name "b", .list [.dict ⟨inner⟩]), (.name "a", .text "s")]⟩
    let w : Value := .dict ⟨[(.name "a", .text "s"), (.name "b", .list [.dict ⟨inner.reverse⟩])]⟩
    let document : Json := .object [("a", .string "s"),
      ("b", .array [.object [("x", .number (.integer 1)), ("y", .null)]])]
    let text := "\x7b\x22a\x22:\x22s\x22,\x22b\x22:[\x7b\x22x\x22:1,\x22y\x22:null\x7d]\x7d"
    v.DistinctTexts ∧ v.Reordered w ∧ v.toJson = .ok document ∧ w.toJson = .ok document ∧
      document.write = text ∧
      Builtin.mssql.dialect.assignment (some " JSON") "f" v = .ok ("f='" ++ text ++ "'") ∧
      Builtin.mssql.dialect.assignment (some " JSON") "f" w = .ok ("f='" ++ text ++ "'") := by
  intro inner v w document text
  have hv : v.DistinctTexts := by
    simp [v, inner, DistinctTexts, DistinctTextsItems, DistinctTextsEntries, Key.text]
  have hinner : Reordered (.dict ⟨inner⟩) (.dict ⟨inner.reverse⟩) :=
    .dict (.cons (.intro (.refl _)) (.cons (.intro (.refl _)) .nil)) inner.reverse_perm.symm
  have h : v.Reordered w :=
    .dict (.cons (.intro (.list (.cons hinner .nil))) (.cons (.intro (.refl _)) .nil))
      (List.Perm.swap _ _ [])
  have hdocument : v.toJson = .ok document := rfl
  have htext : document.write = text := by decide
  have hliteral : "f='" ++ text ++ "'" =
      "f" ++ "=" ++ Builtin.mssql.dialect.quoteText document.write := by decide
  obtain ⟨hencodes, -, hsame, hassigned⟩ := documents_canonical hv h
  obtain ⟨hfirst, -, hboth⟩ := hassigned Builtin.mssql " JSON" "f" (by decide)
  have hwritten := (hfirst _).mpr ⟨document, (hencodes document).mp hdocument, hliteral⟩
  rw [hdocument] at hsame
  rw [hwritten] at hboth
  exact ⟨hv, h, hdocument, Built.toOption_eq_some_iff.mp hsame.symm, htext, hwritten,
    Built.toOption_eq_some_iff.mp hboth.symm⟩

end TerseSql
