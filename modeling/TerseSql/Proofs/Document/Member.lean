import Mathlib.Data.List.Nodup
import Mathlib.Data.String.Basic
import TerseSql.Json.Basic

/-!
# Members of objects

An object keeps its members in strictly ascending order of their keys, so a set of members with
different keys makes one object, in whatever order they are inserted.
-/

namespace TerseSql.Json

def Ascending (members : List (String × Json)) : Prop :=
  members.Pairwise fun m m' => m.1 < m'.1

theorem Ascending.eq_of_perm {members members' : List (String × Json)} (h : Ascending members)
    (h' : Ascending members') (hperm : members.Perm members') : members = members' :=
  List.Perm.eq_of_pairwise (fun _ _ _ _ hlt hgt => absurd hgt (lt_asymm hlt)) h h' hperm

/-! ## One member -/

theorem mem_insertMember {key : String} {value : Json} {m : String × Json} :
    ∀ {members : List (String × Json)}, m ∈ insertMember key value members →
      m = (key, value) ∨ m ∈ members
  | [], h => Or.inl (List.mem_singleton.mp h)
  | (k, v) :: rest, h => by
    unfold insertMember at h
    split at h
    · exact (List.mem_cons.mp h).imp_right (List.mem_cons_of_mem _)
    · split at h
      · exact List.mem_cons.mp h
      · rcases List.mem_cons.mp h with rfl | h
        · exact Or.inr List.mem_cons_self
        · exact (mem_insertMember h).imp_right (List.mem_cons_of_mem _)

theorem ascending_insertMember (key : String) (value : Json) :
    ∀ {members : List (String × Json)}, Ascending members →
      Ascending (insertMember key value members)
  | [], _ => List.pairwise_singleton _ _
  | (k, v) :: rest, h => by
    obtain ⟨hhead, hrest⟩ := List.pairwise_cons.mp h
    unfold insertMember
    split
    case isTrue heq =>
      subst heq
      exact List.pairwise_cons.mpr ⟨hhead, hrest⟩
    case isFalse hne =>
      split
      case isTrue hlt =>
        refine List.pairwise_cons.mpr ⟨List.forall_mem_cons.mpr ⟨hlt, ?_⟩, h⟩
        exact fun m hm => hlt.trans (hhead m hm)
      case isFalse hge =>
        have hgt : k < key := lt_of_le_of_ne (not_lt.mp hge) (Ne.symm hne)
        refine List.pairwise_cons.mpr ⟨fun m hm => ?_, ascending_insertMember key value hrest⟩
        rcases mem_insertMember hm with rfl | hm
        · exact hgt
        · exact hhead m hm

/-- A member with a key of its own is added, and nothing is replaced. -/
theorem perm_insertMember {key : String} (value : Json) :
    ∀ {members : List (String × Json)}, key ∉ members.map Prod.fst →
      (insertMember key value members).Perm ((key, value) :: members)
  | [], _ => List.Perm.refl _
  | (k, v) :: rest, h => by
    rw [List.map_cons, List.mem_cons, not_or] at h
    unfold insertMember
    rw [if_neg h.1]
    split
    · exact List.Perm.refl _
    · exact ((perm_insertMember value h.2).cons (k, v)).trans (List.Perm.swap _ _ rest)

/-! ## All members -/

def insertAll (members added : List (String × Json)) : List (String × Json) :=
  added.foldl (fun members m => insertMember m.1 m.2 members) members

theorem ascending_insertAll {members : List (String × Json)} (h : Ascending members)
    (added : List (String × Json)) : Ascending (insertAll members added) := by
  induction added generalizing members with
  | nil => exact h
  | cons m added ih => exact ih (ascending_insertMember m.1 m.2 h)

theorem perm_insertAll {members added : List (String × Json)}
    (h : ((added ++ members).map Prod.fst).Nodup) :
    (insertAll members added).Perm (added ++ members) := by
  induction added generalizing members with
  | nil => exact List.Perm.refl _
  | cons m added ih =>
    rw [List.cons_append, List.map_cons, List.nodup_cons] at h
    have hfresh : m.1 ∉ members.map Prod.fst := fun hm =>
      h.1 (by rw [List.map_append]; exact List.mem_append_right _ hm)
    have hinsert : (added ++ insertMember m.1 m.2 members).Perm (m :: (added ++ members)) :=
      ((perm_insertMember m.2 hfresh).append_left added).trans List.perm_middle
    refine (ih ?_).trans hinsert
    rw [(hinsert.map Prod.fst).nodup_iff, List.map_cons, List.nodup_cons]
    exact h

/-- Members of different keys make the object that has them in ascending order. -/
theorem insertAll_nil_eq_iff {added members : List (String × Json)}
    (h : (added.map Prod.fst).Nodup) :
    insertAll [] added = members ↔ added.Perm members ∧ Ascending members := by
  have hperm : (insertAll [] added).Perm added := by
    have hall : (insertAll [] added).Perm (added ++ []) :=
      perm_insertAll (by rwa [List.append_nil])
    rwa [List.append_nil] at hall
  have hascending : Ascending (insertAll [] added) := ascending_insertAll List.Pairwise.nil added
  constructor
  · rintro rfl
    exact ⟨hperm.symm, hascending⟩
  · rintro ⟨hmembers, hsorted⟩
    exact hascending.eq_of_perm hsorted (hperm.trans hmembers)

end TerseSql.Json
