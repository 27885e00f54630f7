import TerseSql.Dialect.Builtin
import TerseSql.Proofs.Insertion.Row

/-!
# Records after other rows

Keys of records are compared with those of a record that comes first, and with nothing else.
After a list, a record is inserted as the list of its values, in its own order and whatever
their keys are.
-/

namespace TerseSql

namespace Statement

/-! ## Records as lists -/

def positional : Value → Value
  | .dict record => .list record.values
  | row => row

theorem positional_of_not_record {row : Value} (h : ∀ record, row ≠ .dict record) :
    positional row = row := by
  cases row with
  | dict record => exact absurd rfl (h record)
  | _ => rfl

variable {d : Dialect} {table : String} {columns : Option (List Column)} {first : Value}
  {rest : List Value}

theorem insertRow_positional (row : Value) :
    insertRow d none (positional row) = insertRow d none row := by
  cases row <;> rfl

theorem insertQuery_positional (row : Value) : insertQuery (positional row) = insertQuery row := by
  cases row <;> rfl

theorem insertBody_positional (hfirst : ∀ record, first ≠ .dict record) :
    insertBody d none first (rest.map positional) = insertBody d none first rest := by
  by_cases hquery : ∃ q, first = .query q
  · obtain ⟨q, rfl⟩ := hquery
    unfold insertBody
    rw [List.mapM_map]
    simp only [Function.comp_def, insertQuery_positional]
  · have hquery : ∀ q, first ≠ .query q := fun q hq => hquery ⟨q, hq⟩
    have hmap : first :: rest.map positional = (first :: rest).map positional := by
      rw [List.map_cons, positional_of_not_record hfirst]
    rw [insertBody_of_not_query hquery, insertBody_of_not_query hquery, hmap, List.mapM_map]
    simp only [Function.comp_def, insertRow_positional]

theorem insertTerms_positional (hcolumns : Unlisted columns)
    (hfirst : ∀ record, first ≠ .dict record) :
    insertTerms d table columns ((first :: rest).map positional) =
      insertTerms d table columns (first :: rest) := by
  rw [List.map_cons, positional_of_not_record hfirst]
  unfold insertTerms
  dsimp only
  rw [insertColumns_unlisted hcolumns, insertColumns_unlisted hcolumns,
    insertColumns_positional hfirst, insertColumns_positional hfirst]
  refine bind_congr fun t => ?_
  have hbody : insertBody d none first (rest.map positional) = insertBody d none first rest :=
    insertBody_positional hfirst
  exact congrArg (fun body => do
    return "INSERT INTO" :: t.render d.toLexicon :: (← columnList d none) ++ (← body)) hbody

/-! ## Shared keys -/

/-- The records among the rows have one set of keys, and their tuples list the values of these
in one order. -/
def SharesKeys (first : Value) (rows : List Value) : Prop :=
  ∃ order : List Key, ∀ record, .dict record ∈ rows →
    (∀ k, k ∈ record.keys ↔ k ∈ order) ∧ (listed first record).map (·.1) = order

/-- A key that is listed is the one that its text is found with. -/
theorem find?_of_listed {f record : Dict Value} {k : Key}
    (h : k ∈ (listed (.dict f) record).map (·.1)) :
    ∃ e, record.entries.find? (fun e => e.1.text = k.text) = some e ∧ e.1 = k := by
  obtain ⟨e, he, rfl⟩ := List.mem_map.mp h
  obtain ⟨found, -, hfound⟩ := List.mem_filterMap.mp he
  have htext : e.1.text = found.text := by simpa using List.find?_some hfound
  exact ⟨e, by rw [htext, hfound], rfl⟩

theorem sharesKeys_record_iff {f : Dict Value}
    (hkeys : ∀ record, .dict record ∈ .dict f :: rest → ∀ k, k ∈ record.keys ↔ k ∈ f.keys) :
    SharesKeys (.dict f) (.dict f :: rest) ↔
      ∀ k ∈ f.keys, ∀ other ∈ f.keys, other.text = k.text → other = k := by
  constructor
  · rintro ⟨order, horder⟩ k hk other hother htext
    -- The first record lists all its keys, and of two with one text only one can be found.
    obtain ⟨hset, hlisted⟩ := horder f List.mem_cons_self
    have hfind : ∀ k ∈ f.keys, ∃ e, f.entries.find? (fun e => e.1.text = k.text) = some e ∧
        e.1 = k := fun k hk => find?_of_listed (f := f) (hlisted ▸ (hset k).mp hk)
    obtain ⟨e, he, rfl⟩ := hfind k hk
    obtain ⟨e', he', rfl⟩ := hfind other hother
    rw [htext, he] at he'
    exact congrArg Prod.fst (Option.some.inj he').symm
  · intro htexts
    refine ⟨f.keys, fun record hrecord => ⟨hkeys record hrecord, ?_⟩⟩
    have hlisted := listed_of_texts htexts (hkeys record hrecord)
    have hsame : List.Forall₂ Eq ((listed (.dict f) record).map (·.1)) f.keys :=
      List.forall₂_map_left_iff.mpr (hlisted.imp fun _ _ he => he.1).flip
    rwa [List.forall₂_eq_eq_eq] at hsame

theorem sharesKeys_positional_iff (hfirst : ∀ record, first ≠ .dict record) (rows : List Value) :
    SharesKeys first rows ↔ ∀ a b, .dict a ∈ rows → .dict b ∈ rows → a.keys = b.keys := by
  have hlisted : ∀ record, (listed first record).map (·.1) = record.keys := by
    intro record
    unfold listed
    cases first with
    | dict f => exact absurd rfl (hfirst f)
    | _ => rfl
  unfold SharesKeys
  simp only [hlisted]
  constructor
  · rintro ⟨order, horder⟩ a b ha hb
    rw [(horder a ha).2, (horder b hb).2]
  · intro hsame
    by_cases hany : ∃ record, .dict record ∈ rows
    · obtain ⟨a, ha⟩ := hany
      refine ⟨a.keys, fun record hrecord => ?_⟩
      rw [hsame record a hrecord ha]
      exact ⟨fun _ => Iff.rfl, rfl⟩
    · exact ⟨[], fun record hrecord => absurd ⟨record, hrecord⟩ hany⟩

end Statement

/-- The records of an insertion that succeeds without a list of columns share their keys exactly
if the first row is a record whose keys have different texts, or is no record and the records
have the same keys in the same order: in that case, they are inserted as lists of their
values. -/
theorem Clause.shares_keys_iff (d : Dialect) (s : Statement) (table : String)
    {columns : Option (List Column)} (hcolumns : Statement.Unlisted columns) (first : Value)
    (rest : List Value) :
    let outcome := fun rows => Call.run d s (.clause (.insert table rows columns))
    ((outcome (first :: rest)).error = none →
      ((∃ record, .dict record ∈ first :: rest) → ∃ head tuples,
        (outcome (first :: rest)).statement = s.push (head ++ ["VALUES", Text.join "," tuples]) ∧
        List.Forall₂ (fun row tuple => ∀ record, row = .dict record →
          Statement.IsTuple d ((Statement.listed first record).map (·.2)) tuple)
          (first :: rest) tuples) ∧
      (Statement.SharesKeys first (first :: rest) ↔
        (∃ f, first = .dict f ∧
          ∀ k ∈ f.keys, ∀ other ∈ f.keys, other.text = k.text → other = k) ∨
        (∀ f, first ≠ .dict f) ∧
          ∀ a b, .dict a ∈ first :: rest → .dict b ∈ first :: rest → a.keys = b.keys)) ∧
    ((∀ f, first ≠ .dict f) →
      outcome ((first :: rest).map Statement.positional) = outcome (first :: rest)) := by
  refine ⟨fun hok => ?_, fun hfirst => ?_⟩
  · obtain ⟨terms, hterms, hstatement⟩ := Statement.exists_insertTerms hok
    refine ⟨?_, ?_⟩
    · rintro ⟨record, hrecord⟩
      have hquery : ∀ q, first ≠ .query q := by
        rintro q rfl
        exact Statement.not_record_of_query hterms record hrecord
      obtain ⟨t, found, list, tuples, -, hfound, -, htuples, rfl⟩ :=
        Statement.exists_tuples hterms hquery
      rw [Statement.insertColumns_unlisted hcolumns] at hfound
      have hall := (List.forall₂_and_left _ _).mpr ⟨fun row hrow => hrow, htuples⟩
      refine ⟨_, tuples, hstatement, hall.imp ?_⟩
      rintro _ tuple ⟨hrow, htuple⟩ record rfl
      obtain ⟨values, hvalues, htuple⟩ := Statement.exists_values htuple
      rw [Statement.rowValues_listed hfound hrow] at hvalues
      cases hvalues
      exact htuple
    · by_cases hrecord : ∃ f, first = .dict f
      · obtain ⟨f, rfl⟩ := hrecord
        obtain ⟨t, found, list, tuples, -, hfound, -⟩ :=
          Statement.exists_tuples hterms fun q hq => nomatch hq
        rw [Statement.insertColumns_unlisted hcolumns] at hfound
        rw [Statement.sharesKeys_record_iff (Statement.insertColumns_record hfound).2]
        constructor
        · exact fun htexts => Or.inl ⟨f, rfl, htexts⟩
        · rintro (⟨g, hg, htexts⟩ | ⟨hfirst, -⟩)
          · cases hg
            exact htexts
          · exact absurd rfl (hfirst f)
      · have hfirst : ∀ f, first ≠ .dict f := fun f hf => hrecord ⟨f, hf⟩
        rw [Statement.sharesKeys_positional_iff hfirst]
        constructor
        · exact fun hsame => Or.inr ⟨hfirst, hsame⟩
        · rintro (hf | ⟨-, hsame⟩)
          · exact absurd (hf.imp fun _ => And.left) hrecord
          · exact hsame
  · exact Statement.run_insert_congr (Statement.insertTerms_positional hcolumns hfirst)

/-- After a list, two records of different keys are inserted, and what stands under one key is
in two places. -/
theorem Clause.shares_keys_iff_after_list :
    let first : Value := .list [.int 1, .int 2]
    let second : Dict Value := .ofList [(.name "a", .int 3), (.name "b", .int 4)]
    let third : Dict Value := .ofList [(.name "b", .int 5), (.name "c", .int 6)]
    let outcome := Call.run Builtin.generic.dialect .empty
      (.clause (.insert "t" [first, .dict second, .dict third] none))
    outcome.error = none ∧
      outcome.statement.terms = ["INSERT INTO", "\x22t\x22", "VALUES", "(1,2),(3,4),(5,6)"] ∧
      ¬Statement.SharesKeys first [first, .dict second, .dict third] := by
  intro first second third outcome
  have hnone : Statement.Unlisted none := fun given hgiven => nomatch hgiven
  obtain ⟨hiff, -⟩ := shares_keys_iff Builtin.generic.dialect .empty "t" hnone first
    [.dict second, .dict third]
  refine ⟨rfl, rfl, fun hshared => ?_⟩
  rcases (hiff rfl).2.mp hshared with ⟨f, hf, -⟩ | ⟨-, hsame⟩
  · change Value.list _ = Value.dict f at hf
    cases hf
  · have hkeys := hsame second third (by simp) (by simp)
    exact absurd hkeys (by decide)

end TerseSql
