import TerseSql.Clause.Condition
import TerseSql.Proofs.Name.Blank

/-!
# What the grammar of conditions reads

A key of a condition is read as a mark of negation, a field, perhaps a function, and perhaps an
operator before the end. The field and the function are as long as they can be, and white
space belongs to them.
-/

namespace TerseSql.Grammar

/-- Perhaps a mark of negation, and what stands behind it. Without a mark nothing is taken. -/
inductive ReadsMark (cs : List Char) : Bool → List Char → Prop where
  | negated {rest : List Char} : Text.trimLeft cs = '!' :: rest → ReadsMark cs true rest
  | plain : (Text.trimLeft cs).head? ≠ some '!' → ReadsMark cs false cs

structure IsField (name rest : List Char) : Prop where
  ne_nil : name ≠ []
  text : ∀ c ∈ name, isConditionText c = true
  stop : ∀ c ∈ rest.head?, isConditionText c = false

inductive ReadsBody :
    List Char → List Char → Option (List Char) → Option (List Char) → Prop where
  | bare {name rest : List Char} {op : Option (List Char)} : IsField name rest →
    rest.head? ≠ some '|' → operator? rest = some op → ReadsBody (name ++ rest) name none op
  | under {name func rest : List Char} {op : Option (List Char)} :
    IsField name ('|' :: (func ++ rest)) → IsField func rest → operator? rest = some op →
    ReadsBody (name ++ '|' :: (func ++ rest)) name (some func) op

theorem IsField.takeWhile {name rest : List Char} (h : IsField name rest) :
    (name ++ rest).takeWhile isConditionText = name :=
  takeWhile_span h.text h.stop

theorem IsField.dropWhile {name rest : List Char} (h : IsField name rest) :
    (name ++ rest).dropWhile isConditionText = rest :=
  dropWhile_span h.text h.stop

theorem conditionText_of_blank {gap : List Char} (h : IsBlank gap) :
    ∀ c ∈ gap, isConditionText c = true := by
  intro c hc
  simp [isConditionText, h c hc]

theorem isField_takeWhile {cs : List Char} (h : cs.takeWhile isConditionText ≠ []) :
    IsField (cs.takeWhile isConditionText) (cs.dropWhile isConditionText) where
  ne_nil := h
  text := fun _ hc => List.mem_takeWhile_imp hc
  stop := head_dropWhile isConditionText cs

theorem negation_eq_iff {cs body : List Char} {negated : Bool} :
    negation cs = (negated, body) ↔ ReadsMark cs negated body := by
  unfold negation
  constructor
  · intro h
    split at h
    · next rest htrim =>
      cases h
      exact .negated htrim
    · next hplain =>
      cases h
      refine .plain fun hhead => ?_
      obtain ⟨rest, hrest⟩ := List.head?_eq_some_iff.mp hhead
      exact hplain rest hrest
  · intro h
    cases h with
    | negated htrim => simp only [htrim]
    | plain hhead =>
      split
      · next rest htrim => simp [htrim] at hhead
      · rfl

theorem readsBody_bare {body : List Char} {op : Option (List Char)}
    (hname : body.takeWhile isConditionText ≠ [])
    (hbar : (body.dropWhile isConditionText).head? ≠ some '|')
    (hop : operator? (body.dropWhile isConditionText) = some op) :
    ReadsBody body (body.takeWhile isConditionText) none op := by
  have hreads := ReadsBody.bare (isField_takeWhile hname) hbar hop
  rwa [List.takeWhile_append_dropWhile] at hreads

theorem readsBody_under {body rest : List Char} {op : Option (List Char)}
    (hname : body.takeWhile isConditionText ≠ [])
    (hbar : body.dropWhile isConditionText = '|' :: rest)
    (hfunc : rest.takeWhile isConditionText ≠ [])
    (hop : operator? (rest.dropWhile isConditionText) = some op) :
    ReadsBody body (body.takeWhile isConditionText) (some (rest.takeWhile isConditionText)) op := by
  have hrest : rest = rest.takeWhile isConditionText ++ rest.dropWhile isConditionText :=
    List.takeWhile_append_dropWhile.symm
  have hfield := isField_takeWhile hname
  rw [hbar, hrest] at hfield
  have hreads := ReadsBody.under hfield (isField_takeWhile hfunc) hop
  rwa [← hrest, ← hbar, List.takeWhile_append_dropWhile] at hreads

/-- A body is read after the mark before it. -/
theorem ReadsBody.condition?_eq {s : String} {negated : Bool} {body name : List Char}
    {func op : Option (List Char)} (hmark : negation s.toList = (negated, body))
    (h : ReadsBody body name func op) :
    condition? s =
      some ⟨negated, String.ofList name, func.map String.ofList, op.map String.ofList⟩ := by
  unfold condition?
  rw [hmark]
  dsimp only
  cases h with
  | bare hname hbar hop =>
    rw [hname.takeWhile, hname.dropWhile]
    split
    · exact absurd rfl hname.ne_nil
    · exact absurd rfl hbar
    · rw [hop]
      rfl
  | under hname hfunc hop =>
    rw [hname.takeWhile, hname.dropWhile]
    split
    · exact absurd rfl hname.ne_nil
    · next heq =>
      cases heq
      rw [hfunc.takeWhile, hfunc.dropWhile, hop]
      split
      · exact absurd rfl hfunc.ne_nil
      · rfl
    · next hbar => exact absurd rfl (hbar _)

theorem condition?_eq_some_iff {s : String} {k : ConditionKey} :
    condition? s = some k ↔ ∃ negated body name func op, ReadsMark s.toList negated body ∧
      ReadsBody body name func op ∧
        k = ⟨negated, String.ofList name, func.map String.ofList, op.map String.ofList⟩ := by
  constructor
  · intro h
    unfold condition? at h
    generalize hmark : negation s.toList = marked at h
    obtain ⟨negated, body⟩ := marked
    refine ⟨negated, body, ?_⟩
    dsimp only at h
    split at h
    · cases h
    · next rest hbar hname =>
      split at h
      · cases h
      · next hfunc =>
        obtain ⟨op, hop, rfl⟩ := Option.map_eq_some_iff.mp h
        exact ⟨_, some _, op, negation_eq_iff.mp hmark, readsBody_under hname hbar hfunc hop, rfl⟩
    · next hname hbar =>
      obtain ⟨op, hop, rfl⟩ := Option.map_eq_some_iff.mp h
      have hhead : (body.dropWhile isConditionText).head? ≠ some '|' := by
        intro hhead
        obtain ⟨rest, hrest⟩ := List.head?_eq_some_iff.mp hhead
        exact hbar rest hrest
      exact ⟨_, none, op, negation_eq_iff.mp hmark, readsBody_bare hname hhead hop, rfl⟩
  · rintro ⟨negated, body, name, func, op, hmark, hbody, rfl⟩
    exact hbody.condition?_eq (negation_eq_iff.mpr hmark)

end TerseSql.Grammar
