import Mathlib.Data.List.Induction
import TerseSql.Proofs.Dict.Keys

/-!
# Histories of dictionaries

A dictionary that starts empty is edited by insertions and removals. It then holds what was
given to each key last, and its keys stand in the order in which they entered: a key that is
given another value keeps its place, and one that was removed comes back at the end
(`insertion_ordered`).
-/

namespace TerseSql.Dict

variable {α : Type}

/-! ## Edits -/

inductive Edit (α : Type) where
  | insert (key : Key) (value : α)
  | remove (name : String)

namespace Edit

def key : Edit α → Key
  | insert key _ => key
  | remove name => .name name

def Removes (key : Key) : Edit α → Prop
  | insert _ _ => False
  | remove name => .name name = key

end Edit

def edit (d : Dict α) : Edit α → Dict α
  | .insert key value => d.insert key value
  | .remove name => (d.remove name).2

def ofEdits (edits : List (Edit α)) : Dict α :=
  edits.foldl edit empty

theorem ofEdits_concat (edits : List (Edit α)) (e : Edit α) :
    ofEdits (edits ++ [e]) = (ofEdits edits).edit e := by
  unfold ofEdits
  rw [List.foldl_append, List.foldl_cons, List.foldl_nil]

theorem Distinct.edit {d : Dict α} (h : d.Distinct) (e : Edit α) : (d.edit e).Distinct := by
  cases e with
  | insert key value => exact h.insert key value
  | remove name =>
    show (d.remove name).2.keys.Nodup
    rw [h.keys_remove]
    exact h.filter _

theorem distinct_ofEdits (edits : List (Edit α)) : (ofEdits edits).Distinct := by
  induction edits using List.reverseRecOn with
  | nil => exact List.nodup_nil
  | append_singleton edits e ih =>
    rw [ofEdits_concat]
    exact ih.edit e

/-! ## What a history says about a key -/

section

variable (edits : List (Edit α))

def LastGiven (key : Key) (value : α) : Prop :=
  ∃ before after, edits = before ++ .insert key value :: after ∧ ∀ e ∈ after, e.key ≠ key

/-- The key was inserted by the edit that this many others precede, at a time when it was
absent, and it has not been removed since. -/
def EnteredAt (time : Nat) (key : Key) : Prop :=
  ∃ before value after, edits = before ++ .insert key value :: after ∧ before.length = time ∧
    (∀ value, ¬LastGiven before key value) ∧ ∀ e ∈ after, ¬e.Removes key

end

/-- A member with others on both sides is the last one, or the last one is behind it. -/
theorem concat_eq_append_cons_iff {β : Type} {l before after : List β} {a b : β} :
    l ++ [a] = before ++ b :: after ↔
      (l = before ∧ a = b ∧ after = []) ∨
        ∃ rest, after = rest ++ [a] ∧ l = before ++ b :: rest := by
  rcases List.eq_nil_or_concat after with rfl | ⟨rest, last, rfl⟩
  · simp
  · rw [List.concat_eq_append, ← List.cons_append, ← List.append_assoc, List.append_singleton_inj]
    constructor
    · rintro ⟨rfl, rfl⟩
      exact .inr ⟨rest, rfl, rfl⟩
    · rintro (⟨-, -, hnil⟩ | ⟨rest', hrest, rfl⟩)
      · simp at hnil
      · obtain ⟨rfl, rfl⟩ := List.append_singleton_inj.mp hrest
        exact ⟨rfl, rfl⟩

variable {edits : List (Edit α)} {e : Edit α} {key : Key}

theorem lastGiven_concat {value : α} : LastGiven (edits ++ [e]) key value ↔
    e = .insert key value ∨ e.key ≠ key ∧ LastGiven edits key value := by
  constructor
  · rintro ⟨before, after, hedits, hafter⟩
    rcases concat_eq_append_cons_iff.mp hedits with ⟨-, rfl, -⟩ | ⟨rest, rfl, rfl⟩
    · exact .inl rfl
    · obtain ⟨hrest, hlast⟩ := List.forall_mem_append.mp hafter
      exact .inr ⟨hlast e List.mem_cons_self, before, rest, rfl, hrest⟩
  · rintro (rfl | ⟨hlast, before, after, rfl, hafter⟩)
    · exact ⟨edits, [], rfl, fun e he => nomatch he⟩
    · exact ⟨before, after ++ [e], by simp,
        List.forall_mem_append.mpr ⟨hafter, List.forall_mem_singleton.mpr hlast⟩⟩

theorem enteredAt_concat {time : Nat} : EnteredAt (edits ++ [e]) time key ↔
    ((∃ value, e = .insert key value) ∧ edits.length = time ∧ ∀ value, ¬LastGiven edits key value) ∨
      ¬e.Removes key ∧ EnteredAt edits time key := by
  constructor
  · rintro ⟨before, value, after, hedits, htime, habsent, hafter⟩
    rcases concat_eq_append_cons_iff.mp hedits with ⟨rfl, rfl, -⟩ | ⟨rest, rfl, rfl⟩
    · exact .inl ⟨⟨value, rfl⟩, htime, habsent⟩
    · obtain ⟨hrest, hlast⟩ := List.forall_mem_append.mp hafter
      exact .inr ⟨hlast e List.mem_cons_self, before, value, rest, rfl, htime, habsent, hrest⟩
  · rintro (⟨⟨value, rfl⟩, htime, habsent⟩ | ⟨hlast, before, value, after, rfl, htime, habsent, hafter⟩)
    · exact ⟨edits, value, [], rfl, htime, habsent, fun e he => nomatch he⟩
    · exact ⟨before, value, after ++ [e], by simp, htime, habsent,
        List.forall_mem_append.mpr ⟨hafter, List.forall_mem_singleton.mpr hlast⟩⟩

theorem EnteredAt.lt_length {time : Nat} (h : EnteredAt edits time key) : time < edits.length := by
  obtain ⟨before, value, after, rfl, rfl, -⟩ := h
  simp

/-! ## What a dictionary holds -/

/-- Under each key stands what it was given last. -/
theorem lookup_ofEdits {value : α} :
    (ofEdits edits).entries.lookup key = some value ↔ LastGiven edits key value := by
  induction edits using List.reverseRecOn with
  | nil =>
    refine iff_of_false (fun h => nomatch h) ?_
    rintro ⟨before, after, hedits, -⟩
    simp at hedits
  | append_singleton edits e ih =>
    rw [ofEdits_concat, lastGiven_concat, ← ih]
    cases e with
    | insert other given =>
      show (insertEntry other given _).lookup key = some value ↔ _
      rw [lookup_insertEntry]
      by_cases hkey : key = other
      · simp [hkey, Edit.key]
      · simp [hkey, Ne.symm hkey, Edit.key]
    | remove name =>
      show (removeEntry (.name name) _).2.lookup key = some value ↔ _
      rw [lookup_removeEntry (distinct_ofEdits edits)]
      by_cases hkey : key = .name name
      · simp [hkey, Edit.key]
      · simp [hkey, Ne.symm hkey, Edit.key]

/-! ## The order of keys -/

/-- A key has a value exactly if there is a time at which it entered. -/
theorem exists_enteredAt_iff :
    (∃ time, EnteredAt edits time key) ↔ ∃ value, LastGiven edits key value := by
  induction edits using List.reverseRecOn with
  | nil => simp [EnteredAt, LastGiven]
  | append_singleton edits e ih =>
    simp only [enteredAt_concat, lastGiven_concat, exists_or, exists_and_left, ih]
    cases e with
    | insert other given =>
      by_cases hkey : other = key
      · by_cases hgiven : ∃ value, LastGiven edits key value
        · simp [hkey, hgiven, Edit.Removes]
        · simp [hkey, not_exists.mp hgiven]
      · simp [hkey, Edit.key, Edit.Removes]
    | remove name => simp [Edit.key, Edit.Removes]

theorem mem_keys_ofEdits : key ∈ (ofEdits edits).keys ↔ ∃ time, EnteredAt edits time key := by
  rw [exists_enteredAt_iff, (distinct_ofEdits edits).mem_keys_iff]
  simp only [lookup_ofEdits]

/-- A key that is there entered before the last edit. -/
theorem enteredAt_of_mem {time : Nat} (hmem : key ∈ (ofEdits edits).keys)
    (h : EnteredAt (edits ++ [e]) time key) : EnteredAt edits time key := by
  rcases enteredAt_concat.mp h with ⟨-, -, habsent⟩ | ⟨-, hentered⟩
  · obtain ⟨value, hvalue⟩ := exists_enteredAt_iff.mp (mem_keys_ofEdits.mp hmem)
    exact absurd hvalue (habsent value)
  · exact hentered

/-- A key that is not there can only have entered by the last edit. -/
theorem eq_length_of_not_mem {time : Nat} (hmem : key ∉ (ofEdits edits).keys)
    (h : EnteredAt (edits ++ [e]) time key) : time = edits.length := by
  rcases enteredAt_concat.mp h with ⟨-, htime, -⟩ | ⟨-, hentered⟩
  · exact htime.symm
  · exact absurd (mem_keys_ofEdits.mpr ⟨time, hentered⟩) hmem

/-- The keys stand in the order in which they entered. -/
theorem pairwise_ofEdits (edits : List (Edit α)) :
    (ofEdits edits).keys.Pairwise fun first second =>
      ∀ time later, EnteredAt edits time first → EnteredAt edits later second → time < later := by
  induction edits using List.reverseRecOn with
  | nil => exact .nil
  | append_singleton edits e ih =>
    -- One more edit comes after all that were made, so the times of those before it stay.
    have hkept : (ofEdits edits).keys.Pairwise fun first second => ∀ time later,
        EnteredAt (edits ++ [e]) time first → EnteredAt (edits ++ [e]) later second →
          time < later := by
      refine ih.imp_of_mem fun hfirst hsecond h time later htime hlater => ?_
      exact h time later (enteredAt_of_mem hfirst htime) (enteredAt_of_mem hsecond hlater)
    rw [ofEdits_concat]
    cases e with
    | insert key value =>
      show ((ofEdits edits).insert key value).keys.Pairwise _
      rw [keys_insert]
      by_cases hmem : key ∈ (ofEdits edits).keys
      · rw [if_pos hmem]
        exact hkept
      · rw [if_neg hmem, List.pairwise_append]
        refine ⟨hkept, List.pairwise_singleton _ _, ?_⟩
        intro first hfirst second hsecond time later htime hlater
        obtain rfl := List.mem_singleton.mp hsecond
        rw [eq_length_of_not_mem hmem hlater]
        exact (enteredAt_of_mem hfirst htime).lt_length
    | remove name =>
      show ((ofEdits edits).remove name).2.keys.Pairwise _
      rw [(distinct_ofEdits edits).keys_remove]
      exact hkept.filter _

/-- After any history, the keys are distinct and stand in the order in which they entered. Under
each stands what it was given last, and a removal gives what stands under a name and leaves the
other entries as they are. -/
theorem insertion_ordered (edits : List (Edit α)) :
    let d := ofEdits edits
    d.keys.Nodup ∧
      (∀ name value, d.get? name = some value ↔ LastGiven edits (.name name) value) ∧
      (∀ key value, (key, value) ∈ d.entries ↔ LastGiven edits key value) ∧
      (∀ key, key ∈ d.keys ↔ ∃ time, EnteredAt edits time key) ∧
      (d.keys.Pairwise fun first second =>
        ∀ time later, EnteredAt edits time first → EnteredAt edits later second → time < later) ∧
      ∀ name, (d.remove name).1 = d.get? name ∧
        (d.remove name).2.entries = d.entries.filter fun e => e.1 ≠ .name name := by
  have hdistinct := distinct_ofEdits edits
  refine ⟨hdistinct, fun name value => lookup_ofEdits, fun key value => ?_,
    fun key => mem_keys_ofEdits, pairwise_ofEdits edits,
    fun name => ⟨removeEntry_fst _ _, removeEntry_snd hdistinct⟩⟩
  rw [← hdistinct.lookup_eq_some_iff, lookup_ofEdits]

/-- A name is inserted twice, another one again after its removal, and raw SQL with the text of
the first stays when that is removed. -/
theorem insertion_ordered_again :
    let edits : List (Edit Nat) :=
      [.insert (.name "a") 1, .insert (.name "b") 2, .insert (.raw ⟨"a"⟩) 3, .insert (.name "a") 4,
       .remove "b", .insert (.name "b") 5]
    let d := ofEdits edits
    d.keys = [.name "a", .raw ⟨"a"⟩, .name "b"] ∧ d.get? "a" = some 4 ∧
      (∃ time later, EnteredAt edits time (.raw ⟨"a"⟩) ∧ EnteredAt edits later (.name "b") ∧
        time < later) ∧
      (d.remove "a").1 = some 4 ∧ (d.remove "a").2.entries = [(.raw ⟨"a"⟩, 3), (.name "b", 5)] := by
  intro edits d
  obtain ⟨-, hget, -, hkeys, horder, hremove⟩ := insertion_ordered edits
  have hvalue : d.get? "a" = some 4 := by
    refine (hget "a" 4).mpr ⟨edits.take 3, edits.drop 4, rfl, ?_⟩
    simp [edits, Edit.key]
  obtain ⟨time, htime⟩ := (hkeys (.raw ⟨"a"⟩)).mp (by decide)
  obtain ⟨later, hlater⟩ := (hkeys (.name "b")).mp (by decide)
  have hlt : time < later := by
    refine (List.pairwise_cons.mp (List.pairwise_cons.mp horder).2).1 (.name "b") ?_ _ _ htime hlater
    exact List.mem_singleton_self _
  obtain ⟨hremoved, hentries⟩ := hremove "a"
  exact ⟨rfl, hvalue, ⟨time, later, htime, hlater, hlt⟩, hremoved.trans hvalue, hentries⟩

end TerseSql.Dict
