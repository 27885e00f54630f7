import Mathlib.Data.List.Perm.Basic
import TerseSql.Proofs.Document.Member
import TerseSql.Proofs.Result
import TerseSql.Value.Json

/-!
# Documents of values

What a document of a value is, said without an order of work: a list becomes the documents of its
items, and a mapping the object with one member for each entry. Where the keys of each mapping have
different texts, a value is encoded as its document, if there is one.
-/

namespace TerseSql.Value

/-! ## Documents -/

mutual

/-- The document that a value stands for. Fields, queries and numbers that are not finite stand
for none. -/
inductive Encodes : Value → Json → Prop where
  | null : Encodes .null .null
  | bool (b : Bool) : Encodes (.bool b) (.bool b)
  | int (n : Int64) : Encodes (.int n) (.number (.integer n.toInt))
  | float {x : Float} : (Binary.ofFloat x).isFinite = true → Encodes (.float x) (.number (.float x))
  | text (s : String) : Encodes (.text s) (.string s)
  | raw (r : Raw) : Encodes (.raw r) (.string r.sql)
  | json (document : Json) : Encodes (.json document) document
  | list {items : List Value} {documents : List Json} : List.Forall₂ Encodes items documents →
    Encodes (.list items) (.array documents)
  | dict {entries : List (Key × Value)} {encoded members : List (String × Json)} :
    List.Forall₂ EncodesEntry entries encoded → encoded.Perm members → Json.Ascending members →
    Encodes (.dict ⟨entries⟩) (.object members)

inductive EncodesEntry : Key × Value → String × Json → Prop where
  | intro {key : Key} {v : Value} {document : Json} : Encodes v document →
    EncodesEntry (key, v) (key.text, document)

end

theorem encodes_list_iff {items : List Value} {document : Json} :
    Encodes (.list items) document ↔
      ∃ documents, List.Forall₂ Encodes items documents ∧ document = .array documents := by
  constructor
  · rintro ⟨⟩
    exact ⟨_, ‹_›, rfl⟩
  · rintro ⟨documents, hitems, rfl⟩
    exact .list hitems

theorem encodes_dict_iff {entries : List (Key × Value)} {document : Json} :
    Encodes (.dict ⟨entries⟩) document ↔ ∃ encoded members,
      List.Forall₂ EncodesEntry entries encoded ∧ encoded.Perm members ∧ Json.Ascending members ∧
        document = .object members := by
  constructor
  · rintro ⟨⟩
    exact ⟨_, _, ‹_›, ‹_›, ‹_›, rfl⟩
  · rintro ⟨encoded, members, hentries, hperm, hascending, rfl⟩
    exact .dict hentries hperm hascending

theorem encodesEntry_iff {key : Key} {v : Value} {m : String × Json} :
    EncodesEntry (key, v) m ↔ m.1 = key.text ∧ Encodes v m.2 := by
  constructor
  · rintro ⟨hv⟩
    exact ⟨rfl, hv⟩
  · obtain ⟨text, document⟩ := m
    rintro ⟨rfl, hv⟩
    exact .intro hv

theorem keys_of_encodesEntry {entries : List (Key × Value)} {encoded : List (String × Json)}
    (h : List.Forall₂ EncodesEntry entries encoded) :
    encoded.map Prod.fst = entries.map fun e => e.1.text := by
  induction h with
  | nil => rfl
  | cons he _ ih =>
    obtain ⟨-⟩ := he
    rw [List.map_cons, List.map_cons, ih]

/-! ## Keys of different texts -/

mutual

def DistinctTexts : Value → Prop
  | list items => DistinctTextsItems items
  | dict ⟨entries⟩ => (entries.map fun e => e.1.text).Nodup ∧ DistinctTextsEntries entries
  | _ => True

def DistinctTextsItems : List Value → Prop
  | [] => True
  | item :: rest => DistinctTexts item ∧ DistinctTextsItems rest

def DistinctTextsEntries : List (Key × Value) → Prop
  | [] => True
  | (_, v) :: rest => DistinctTexts v ∧ DistinctTextsEntries rest

end

/-! ## Encoding -/

mutual

/-- A value is encoded as the document that it stands for. -/
theorem toJson_eq_ok_iff : ∀ {v : Value}, v.DistinctTexts → ∀ {document : Json},
    v.toJson = .ok document ↔ Encodes v document
  | .null, _, _ | .bool _, _, _ | .int _, _, _ | .text _, _, _ | .raw _, _, _ | .json _, _, _ => by
    refine ⟨?_, ?_⟩ <;> rintro ⟨⟩
    · constructor
    · rfl
  | .field _, _, _ => ⟨fun h => (nomatch h), fun h => (nomatch h)⟩
  | .query _, _, _ => ⟨fun h => (nomatch h), fun h => (nomatch h)⟩
  | .float x, _, document => by
    rw [toJson]
    constructor
    · intro h
      split at h
      · cases h
        exact .float ‹_›
      · cases h
    · intro h
      cases h with
      | float hfinite => rw [if_pos hfinite]
  | .list items, h, document => by
    rw [DistinctTexts] at h
    rw [toJson, encodes_list_iff]
    constructor
    · intro hok
      obtain ⟨documents, hdocuments, hok⟩ := Built.exists_of_bind hok
      cases hok
      exact ⟨documents, (itemsToJson_eq_ok_iff h).mp hdocuments, rfl⟩
    · rintro ⟨documents, hdocuments, rfl⟩
      rw [(itemsToJson_eq_ok_iff h).mpr hdocuments]
      rfl
  | .dict ⟨entries⟩, h, document => by
    rw [DistinctTexts] at h
    rw [toJson, encodes_dict_iff]
    constructor
    · intro hok
      obtain ⟨members, hmembers, hok⟩ := Built.exists_of_bind hok
      cases hok
      obtain ⟨encoded, hencoded, rfl⟩ := (entriesToJson_eq_ok_iff h.2).mp hmembers
      -- Where no two members have one key, inserting them in turn sorts them.
      have hkeys : (encoded.map Prod.fst).Nodup := keys_of_encodesEntry hencoded ▸ h.1
      obtain ⟨hperm, hascending⟩ := (Json.insertAll_nil_eq_iff hkeys).mp rfl
      exact ⟨encoded, _, hencoded, hperm, hascending, rfl⟩
    · rintro ⟨encoded, members, hencoded, hperm, hascending, rfl⟩
      have hkeys : (encoded.map Prod.fst).Nodup := keys_of_encodesEntry hencoded ▸ h.1
      have hmembers := (Json.insertAll_nil_eq_iff hkeys).mpr ⟨hperm, hascending⟩
      rw [(entriesToJson_eq_ok_iff h.2).mpr ⟨encoded, hencoded, hmembers.symm⟩]
      rfl

theorem itemsToJson_eq_ok_iff : ∀ {items : List Value}, DistinctTextsItems items →
    ∀ {documents : List Json},
      itemsToJson items = .ok documents ↔ List.Forall₂ Encodes items documents
  | [], _, documents => by
    refine ⟨?_, ?_⟩ <;> rintro ⟨⟩
    · exact .nil
    · rfl
  | item :: rest, h, documents => by
    rw [DistinctTextsItems] at h
    rw [itemsToJson, Built.cons_eq_ok_iff, List.forall₂_cons_left_iff]
    simp only [toJson_eq_ok_iff h.1, itemsToJson_eq_ok_iff h.2, exists_and_left]

theorem entriesToJson_eq_ok_iff : ∀ {entries : List (Key × Value)}, DistinctTextsEntries entries →
    ∀ {members members' : List (String × Json)},
      entriesToJson members entries = .ok members' ↔
        ∃ encoded, List.Forall₂ EncodesEntry entries encoded ∧
          members' = Json.insertAll members encoded
  | [], _, members, members' => by
    rw [entriesToJson]
    constructor
    · rintro ⟨⟩
      exact ⟨[], .nil, rfl⟩
    · rintro ⟨encoded, ⟨⟩, rfl⟩
      rfl
  | (key, v) :: rest, h, members, members' => by
    rw [DistinctTextsEntries] at h
    rw [entriesToJson]
    constructor
    · intro hok
      obtain ⟨document, hdocument, hok⟩ := Built.exists_of_bind hok
      obtain ⟨encoded, hencoded, rfl⟩ := (entriesToJson_eq_ok_iff h.2).mp hok
      exact ⟨(key.text, document) :: encoded,
        .cons (.intro ((toJson_eq_ok_iff h.1).mp hdocument)) hencoded, rfl⟩
    · rintro ⟨encoded, hencoded, rfl⟩
      obtain ⟨_, encoded, ⟨hv⟩, hrest, rfl⟩ := List.forall₂_cons_left_iff.mp hencoded
      rw [(toJson_eq_ok_iff h.1).mpr hv]
      exact (entriesToJson_eq_ok_iff h.2).mpr ⟨encoded, hrest, rfl⟩

end

end TerseSql.Value
