import Mathlib.Data.List.Nodup
import Mathlib.Data.List.Perm.Subperm
import TerseSql.Dict

/-!
# Keys of dictionaries

A dictionary that was made by insertions holds every key once. An insertion adds a key at the
end unless it is there, and a removal leaves the other entries in their order.
-/

namespace TerseSql

/-! ## Distinct keys -/

namespace Dict

variable {α : Type}

def Distinct (d : Dict α) : Prop :=
  d.keys.Nodup

theorem keys_insertEntry (key : Key) (value : α) (entries : List (Key × α)) :
    (insertEntry key value entries).map Prod.fst =
      if key ∈ entries.map Prod.fst then entries.map Prod.fst
      else entries.map Prod.fst ++ [key] := by
  induction entries with
  | nil => rfl
  | cons e entries ih =>
    obtain ⟨k, v⟩ := e
    unfold insertEntry
    by_cases hk : k = key
    · simp only [hk, if_true, List.map_cons, List.mem_cons, true_or]
    · simp only [hk, Ne.symm hk, if_false, List.map_cons, List.mem_cons, false_or, ih]
      by_cases hmem : key ∈ entries.map Prod.fst
      · simp only [hmem, if_true]
      · simp only [hmem, if_false, List.cons_append]

theorem keys_insert (d : Dict α) (key : Key) (value : α) :
    (d.insert key value).keys = if key ∈ d.keys then d.keys else d.keys ++ [key] :=
  keys_insertEntry key value d.entries

theorem Distinct.insert {d : Dict α} (h : d.Distinct) (key : Key) (value : α) :
    (d.insert key value).Distinct := by
  unfold Distinct
  rw [keys_insert]
  by_cases hmem : key ∈ d.keys
  · rw [if_pos hmem]
    exact h
  · rw [if_neg hmem]
    rw [← List.concat_eq_append]
    exact List.Nodup.concat hmem h

theorem insertEntry_of_not_mem {key : Key} {value : α} {entries : List (Key × α)}
    (h : key ∉ entries.map Prod.fst) :
    insertEntry key value entries = entries ++ [(key, value)] := by
  induction entries with
  | nil => rfl
  | cons e entries ih =>
    rw [List.map_cons, List.mem_cons, not_or] at h
    rw [insertEntry, if_neg (Ne.symm h.1), ih h.2, List.cons_append]

theorem forall_insertEntry {P : Key × α → Prop} {key : Key} {value : α}
    {entries : List (Key × α)} (h : ∀ e ∈ entries, P e) (hnew : P (key, value)) :
    ∀ e ∈ insertEntry key value entries, P e := by
  induction entries with
  | nil => exact List.forall_mem_singleton.mpr hnew
  | cons e entries ih =>
    obtain ⟨hfirst, hrest⟩ := List.forall_mem_cons.mp h
    unfold insertEntry
    by_cases hk : e.1 = key
    · rw [if_pos hk, hk]
      exact List.forall_mem_cons.mpr ⟨hnew, hrest⟩
    · rw [if_neg hk]
      exact List.forall_mem_cons.mpr ⟨hfirst, ih hrest⟩

/-- What holds of every pair holds of every entry that they give. -/
theorem forall_ofList {P : Key × α → Prop} {entries : List (Key × α)}
    (h : ∀ e ∈ entries, P e) : ∀ e ∈ (ofList entries).entries, P e := by
  have hfold : ∀ (entries : List (Key × α)) (d : Dict α), (∀ e ∈ entries, P e) →
      (∀ e ∈ d.entries, P e) →
      ∀ e ∈ (entries.foldl (fun d entry => d.insert entry.1 entry.2) d).entries, P e := by
    intro entries
    induction entries with
    | nil => exact fun d _ hd => hd
    | cons e entries ih =>
      intro d hentries hd
      obtain ⟨hfirst, hrest⟩ := List.forall_mem_cons.mp hentries
      exact ih _ hrest (forall_insertEntry hd hfirst)
  exact hfold entries empty h fun e he => nomatch he

theorem distinct_foldl_insert (entries : List (Key × α)) {d : Dict α} (h : d.Distinct) :
    (entries.foldl (fun d entry => d.insert entry.1 entry.2) d).Distinct := by
  induction entries generalizing d with
  | nil => exact h
  | cons e entries ih => exact ih (h.insert e.1 e.2)

theorem foldl_insert_of_distinct {d : Dict α} {entries : List (Key × α)}
    (h : (⟨d.entries ++ entries⟩ : Dict α).Distinct) :
    entries.foldl (fun d entry => d.insert entry.1 entry.2) d = ⟨d.entries ++ entries⟩ := by
  induction entries generalizing d with
  | nil => rw [List.foldl_nil, List.append_nil]
  | cons e entries ih =>
    have hnot : e.1 ∉ d.entries.map Prod.fst := by
      unfold Distinct keys at h
      rw [List.map_append, List.map_cons, List.nodup_append] at h
      intro hmem
      exact h.2.2 e.1 hmem e.1 List.mem_cons_self rfl
    have hinsert : d.insert e.1 e.2 = ⟨d.entries ++ [e]⟩ :=
      congrArg mk (insertEntry_of_not_mem hnot)
    rw [List.foldl_cons, hinsert, ih]
    · rw [List.append_assoc, List.singleton_append]
    · rw [List.append_assoc, List.singleton_append]
      exact h

theorem entries_ofList {entries : List (Key × α)} (h : (entries.map Prod.fst).Nodup) :
    (ofList entries).entries = entries :=
  congrArg Dict.entries (foldl_insert_of_distinct (d := empty) h)

/-- No key was there twice if none got lost. -/
theorem nodup_of_length_ofList {entries : List (Key × α)}
    (h : (ofList entries).entries.length = entries.length) : (entries.map Prod.fst).Nodup := by
  have hdistinct : (ofList entries).Distinct := distinct_foldl_insert entries List.nodup_nil
  have hsubset : (ofList entries).keys ⊆ entries.map Prod.fst := by
    intro key hkey
    obtain ⟨e, he, rfl⟩ := List.mem_map.mp hkey
    exact forall_ofList (P := fun e => e.1 ∈ entries.map Prod.fst)
      (fun e he => List.mem_map_of_mem he) e he
  have hlength : (entries.map Prod.fst).length ≤ (ofList entries).keys.length := by
    rw [keys, List.length_map, List.length_map]
    exact Nat.le_of_eq h.symm
  have hsubperm := List.subperm_of_subset hdistinct hsubset
  exact (hsubperm.perm_of_length_le hlength).nodup_iff.mp hdistinct

/-- The dictionaries with distinct keys are those that insertions make. -/
theorem distinct_iff {d : Dict α} : d.Distinct ↔ ∃ entries, d = ofList entries := by
  constructor
  · intro h
    exact ⟨d.entries, (foldl_insert_of_distinct (d := empty) h).symm⟩
  · rintro ⟨entries, rfl⟩
    exact distinct_foldl_insert entries List.nodup_nil

/-! ## Removal -/

def without (names : List String) (d : Dict α) : Dict α :=
  ⟨d.entries.filter fun e => e.1 ∉ names.map Key.name⟩

theorem without_nil (d : Dict α) : d.without [] = d := by
  unfold without
  simp

theorem removeEntry_fst (key : Key) (entries : List (Key × α)) :
    (removeEntry key entries).1 = entries.lookup key := by
  induction entries with
  | nil => rfl
  | cons e entries ih =>
    unfold removeEntry
    by_cases hk : e.1 = key
    · rw [if_pos hk, List.lookup_cons, hk, beq_self_eq_true]
    · rw [if_neg hk, List.lookup_cons, beq_false_of_ne (Ne.symm hk)]
      exact ih

theorem removeEntry_of_not_mem {key : Key} {entries : List (Key × α)}
    (h : key ∉ entries.map Prod.fst) : removeEntry key entries = (none, entries) := by
  induction entries with
  | nil => rfl
  | cons e entries ih =>
    rw [List.map_cons, List.mem_cons, not_or] at h
    rw [removeEntry, if_neg (Ne.symm h.1), ih h.2]

theorem removeEntry_snd {key : Key} {entries : List (Key × α)}
    (h : (entries.map Prod.fst).Nodup) :
    (removeEntry key entries).2 = entries.filter fun e => e.1 ≠ key := by
  induction entries with
  | nil => rfl
  | cons e entries ih =>
    rw [List.map_cons, List.nodup_cons] at h
    unfold removeEntry
    by_cases hk : e.1 = key
    · have hothers : ∀ f ∈ entries, f.1 ≠ key := by
        rintro f hf rfl
        exact h.1 (hk ▸ List.mem_map_of_mem hf)
      have hkept : entries.filter (fun f => decide (f.1 ≠ key)) = entries :=
        List.filter_eq_self.mpr fun f hf => decide_eq_true (hothers f hf)
      rw [if_pos hk, List.filter_cons_of_neg (by simpa using hk), hkept]
    · rw [if_neg hk, List.filter_cons_of_pos (by simpa using hk)]
      exact congrArg (e :: ·) (ih h.2)

theorem Distinct.keys_remove {d : Dict α} (h : d.Distinct) (name : String) :
    (d.remove name).2.keys = d.keys.filter fun key => key ≠ .name name := by
  have hentries : (d.remove name).2.entries = d.entries.filter fun e => e.1 ≠ .name name :=
    removeEntry_snd h
  unfold keys
  rw [hentries, List.filter_map]
  rfl

theorem lookup_filter {p : Key → Bool} {key : Key} (h : p key = true)
    (entries : List (Key × α)) :
    (entries.filter fun e => p e.1).lookup key = entries.lookup key := by
  induction entries with
  | nil => rfl
  | cons e entries ih =>
    rw [List.filter_cons, List.lookup_cons]
    by_cases hk : p e.1 = true
    · rw [if_pos hk, List.lookup_cons, ih]
    · have hne : key ≠ e.1 := by
        rintro rfl
        exact hk h
      rw [if_neg hk, beq_false_of_ne hne, ih]

/-- One more name taken out gives its value and leaves the entries under none of the names. -/
theorem remove_without {d : Dict α} (h : d.Distinct) (names : List String) (name : String)
    (hname : name ∉ names) :
    (d.without names).remove name = (d.get? name, d.without (names ++ [name])) := by
  have hkey : Key.name name ∉ names.map Key.name := by
    intro hmem
    obtain ⟨other, hother, heq⟩ := List.mem_map.mp hmem
    cases heq
    exact hname hother
  have hvalue := lookup_filter (p := fun k => decide (k ∉ names.map Key.name))
    (decide_eq_true hkey) d.entries
  have hdistinct : ((d.without names).entries.map Prod.fst).Nodup :=
    h.sublist (List.filter_sublist.map Prod.fst)
  unfold remove
  rw [removeEntry_fst, removeEntry_snd hdistinct]
  refine Prod.ext hvalue ?_
  unfold without
  dsimp only
  rw [List.filter_filter]
  congr 2
  funext e
  simp only [List.map_append, List.map_cons, List.map_nil, List.mem_append, List.mem_singleton,
    not_or, Bool.decide_and, Bool.and_comm]

/-! ## Values -/

theorem lookup_insertEntry (key : Key) (value : α) (entries : List (Key × α)) (other : Key) :
    (insertEntry key value entries).lookup other =
      if other = key then some value else entries.lookup other := by
  induction entries with
  | nil =>
    by_cases h : other = key
    · simp [insertEntry, h]
    · simp [insertEntry, h]
  | cons e entries ih =>
    unfold insertEntry
    by_cases hk : e.1 = key
    · rw [if_pos hk, List.lookup_cons, List.lookup_cons, hk]
      by_cases h : other = key
      · simp [h]
      · simp [h, beq_false_of_ne h]
    · rw [if_neg hk, List.lookup_cons, List.lookup_cons, ih]
      by_cases h : other = e.1
      · have hne : other ≠ key := fun heq => hk (h.symm.trans heq)
        simp [h, hk]
      · simp [beq_false_of_ne h]

theorem lookup_removeEntry {key : Key} {entries : List (Key × α)}
    (h : (entries.map Prod.fst).Nodup) (other : Key) :
    (removeEntry key entries).2.lookup other =
      if other = key then none else entries.lookup other := by
  rw [removeEntry_snd h]
  by_cases hother : other = key
  · rw [if_pos hother, List.lookup_eq_none_iff]
    intro e he
    have hne : e.1 ≠ key := of_decide_eq_true (List.mem_filter.mp he).2
    simpa [hother] using Ne.symm hne
  · rw [if_neg hother]
    exact lookup_filter (p := fun k => decide (k ≠ key)) (decide_eq_true hother) entries

theorem Distinct.lookup_eq_some_iff {d : Dict α} (h : d.Distinct) {key : Key} {value : α} :
    d.entries.lookup key = some value ↔ (key, value) ∈ d.entries := by
  constructor
  · intro hlookup
    obtain ⟨before, after, hentries, -⟩ := List.lookup_eq_some_iff.mp hlookup
    rw [hentries]
    exact List.mem_append_right _ List.mem_cons_self
  · intro hmem
    obtain ⟨before, after, hentries⟩ := List.append_of_mem hmem
    refine List.lookup_eq_some_iff.mpr ⟨before, after, hentries, fun e he => ?_⟩
    unfold Distinct keys at h
    rw [hentries, List.map_append, List.nodup_append] at h
    have hne := h.2.2 e.1 (List.mem_map_of_mem he) key List.mem_cons_self
    simpa using Ne.symm hne

/-- The order of the entries does not matter to what stands under a key. -/
theorem Distinct.lookup_of_perm {a b : Dict α} (h : a.Distinct) (hperm : a.entries.Perm b.entries)
    (key : Key) : a.entries.lookup key = b.entries.lookup key := by
  have hb : b.Distinct := (hperm.map Prod.fst).nodup_iff.mp h
  apply Option.ext
  intro value
  rw [h.lookup_eq_some_iff, hb.lookup_eq_some_iff, hperm.mem_iff]

theorem Distinct.mem_keys_iff {d : Dict α} (h : d.Distinct) {key : Key} :
    key ∈ d.keys ↔ ∃ value, d.entries.lookup key = some value := by
  simp [keys, h.lookup_eq_some_iff]

end Dict

end TerseSql
