import TerseSql.Clause.Condition
import TerseSql.Proofs.Blank.Relation
import TerseSql.Proofs.Result

/-!
# Texts with their lists marked

What a clause adds is text in which lists are written: members between an opening and a
closing, with a separator between each two. A part keeps the lists of a text apart, so that
one can say that none of them lacks members.
-/

namespace TerseSql

open Lexing

inductive Part where
  | text (s : String)
  | list (opening separator closing : String) (members : List Part)
  /-- A part without the parentheses around the whole of it, if there are any. -/
  | unwrapped (p : Part)

namespace Part

mutual

def write : Part → String
  | text s => s
  | list opening separator closing members =>
    opening ++ Text.join separator (writeAll members) ++ closing
  | unwrapped p => (Condition.inside? (write p)).getD (write p)

def writeAll : List Part → List String
  | [] => []
  | p :: rest => write p :: writeAll rest

end

mutual

def Filled : Part → Prop
  | text s => s ≠ ""
  | list _ _ _ members => members ≠ [] ∧ FilledAll members
  | unwrapped p => Filled p ∧ (unwrapped p).write ≠ ""

def FilledAll : List Part → Prop
  | [] => True
  | p :: rest => Filled p ∧ FilledAll rest

end

def around (before : String) (p : Part) (after : String) : Part :=
  list before "" after [p]

@[simp]
theorem write_around (before : String) (p : Part) (after : String) :
    (around before p after).write = before ++ p.write ++ after := by
  rw [around, write, writeAll, writeAll, Text.join]

@[simp]
theorem filled_around (before : String) (p : Part) (after : String) :
    (around before p after).Filled ↔ p.Filled := by
  simp only [around, Filled, FilledAll, ne_eq, List.cons_ne_nil, not_false_eq_true, true_and,
    and_true]

theorem writeAll_append (ps qs : List Part) : writeAll (ps ++ qs) = writeAll ps ++ writeAll qs := by
  induction ps with
  | nil => rw [writeAll, List.nil_append, List.nil_append]
  | cons p ps ih => rw [List.cons_append, writeAll, writeAll, ih, List.cons_append]

theorem filledAll_append (ps qs : List Part) :
    FilledAll (ps ++ qs) ↔ FilledAll ps ∧ FilledAll qs := by
  induction ps with
  | nil => simp only [List.nil_append, FilledAll, true_and]
  | cons p ps ih => rw [List.cons_append, FilledAll, FilledAll, ih, and_assoc]

theorem filledAll_iff (ps : List Part) : FilledAll ps ↔ ∀ p ∈ ps, p.Filled := by
  induction ps with
  | nil => simp only [FilledAll, List.not_mem_nil, false_imp_iff, implies_true]
  | cons p ps ih => rw [FilledAll, ih, List.forall_mem_cons]

theorem alike_gives {α β : Type} {P : α → β → Prop} {Q : β → Prop} {x : Built α} {y : Built β}
    (h : Alike P x y) (hy : Gives Q y) : Alike (fun a b => P a b ∧ Q b) x y := by
  cases h with
  | ok hab => exact .ok ⟨hab, hy _ rfl⟩
  | error => exact .error

theorem append_ne_empty {s t : String} (h : s ≠ "" ∨ t ≠ "") : s ++ t ≠ "" := by
  intro hst
  rw [String.append_eq_empty_iff] at hst
  rcases h with h | h
  · exact h hst.1
  · exact h hst.2

theorem join_ne_empty {separator s : String} {ss : List String} (hs : s ∈ ss) (h : s ≠ "") :
    Text.join separator ss ≠ "" := by
  induction ss with
  | nil => cases hs
  | cons t ss ih =>
    cases ss with
    | nil =>
      rw [Text.join, ← List.mem_singleton.mp hs]
      exact h
    | cons u ss =>
      rw [Text.join]
      rcases List.mem_cons.mp hs with rfl | hs
      · exact append_ne_empty (Or.inl (append_ne_empty (Or.inl h)))
      · exact append_ne_empty (Or.inr (ih hs))

mutual

/-- What is filled is written as more than nothing. -/
theorem write_ne_empty : ∀ p : Part, p.Filled → p.write ≠ ""
  | text s, h => by
    rw [write]
    exact h
  | list opening separator closing members, h => by
    rw [write]
    obtain ⟨p, rest, rfl⟩ := List.exists_cons_of_ne_nil h.1
    have hall := writeAll_ne_empty (p :: rest) h.2
    rw [writeAll] at hall ⊢
    refine append_ne_empty (Or.inl (append_ne_empty (Or.inr ?_)))
    exact join_ne_empty List.mem_cons_self (hall p.write List.mem_cons_self)
  | unwrapped p, h => h.2

theorem writeAll_ne_empty : ∀ ps : List Part, FilledAll ps → ∀ s ∈ writeAll ps, s ≠ ""
  | [], _ => by
    rw [writeAll]
    exact fun s hs => nomatch hs
  | p :: rest, h => by
    rw [writeAll]
    exact List.forall_mem_cons.mpr ⟨write_ne_empty p h.1, writeAll_ne_empty rest h.2⟩

end

/-! ## Outlines -/

/-- The part is written as the text, and it is filled if and only if `c` holds. -/
structure Outlines (c : Prop) (p : Part) (s : String) : Prop where
  write : p.write = s
  filled : p.Filled ↔ c

structure OutlinesAll {α : Type} (l : List α) (c : α → Prop) (ps : List Part) (ss : List String) :
    Prop where
  write : writeAll ps = ss
  filled : FilledAll ps ↔ ∀ a ∈ l, c a
  length : ps.length = l.length

def ofText (x : Built String) : Built Part := do
  return text (← x)

theorem outlines_text {s : String} (h : s ≠ "") : Outlines True (text s) s := by
  refine ⟨by rw [write], ?_⟩
  rw [Filled]
  exact iff_true_intro h

theorem ofText_alike {x : Built String} (h : ∀ s, x = .ok s → s ≠ "") :
    Alike (Outlines True) (ofText x) x := by
  cases x with
  | error e => exact .error
  | ok s => exact .ok (outlines_text (h s rfl))

theorem Outlines.congr {c c' : Prop} {p : Part} {s : String} (h : Outlines c p s) (hc : c ↔ c') :
    Outlines c' p s :=
  ⟨h.write, h.filled.trans hc⟩

theorem Outlines.around {c : Prop} {p : Part} {s : String} (h : Outlines c p s)
    (before after : String) : Outlines c (p.around before after) (before ++ s ++ after) :=
  ⟨by rw [write_around, h.write], (filled_around before p after).trans h.filled⟩

variable {α : Type}

theorem OutlinesAll.list {l : List α} {c : α → Prop} {ps : List Part} {ss : List String}
    (h : OutlinesAll l c ps ss) (opening separator closing : String) :
    Outlines (l ≠ [] ∧ ∀ a ∈ l, c a) (list opening separator closing ps)
      (opening ++ Text.join separator ss ++ closing) := by
  refine ⟨by rw [Part.write, h.write], ?_⟩
  rw [Filled, h.filled, ← List.length_pos_iff, ← List.length_pos_iff, h.length]

theorem outlinesAll_nil (c : α → Prop) : OutlinesAll [] c [] [] := by
  refine ⟨by rw [writeAll], ?_, rfl⟩
  rw [FilledAll]
  exact iff_of_true trivial fun a ha => nomatch ha

theorem Outlines.cons {a : α} {l : List α} {c : α → Prop} {p : Part} {s : String}
    {ps : List Part} {ss : List String} (hp : Outlines (c a) p s) (hps : OutlinesAll l c ps ss) :
    OutlinesAll (a :: l) c (p :: ps) (s :: ss) := by
  refine ⟨by rw [writeAll, hp.write, hps.write], ?_, ?_⟩
  · rw [FilledAll, hp.filled, hps.filled, List.forall_mem_cons]
  · rw [List.length_cons, List.length_cons, hps.length]

/-- A list without anything around it. -/
theorem OutlinesAll.bare {l : List α} {c : α → Prop} {ps : List Part} {ss : List String}
    (h : OutlinesAll l c ps ss) (separator : String) :
    Outlines (l ≠ [] ∧ ∀ a ∈ l, c a) (Part.list "" separator "" ps) (Text.join separator ss) := by
  have hlist := h.list "" separator ""
  rwa [String.empty_append, String.append_empty] at hlist

/-- Parts of the members, where the text of a member is found in a result by `π`. -/
theorem mapM_alike_map {β : Type} (π : β → String) {f : α → Built Part} {g : α → Built β}
    {c : α → Prop} {l : List α}
    (h : ∀ a ∈ l, Alike (fun p x => Outlines (c a) p (π x)) (f a) (g a)) :
    Alike (fun ps xs => OutlinesAll l c ps (xs.map π)) (l.mapM f) (l.mapM g) := by
  induction l with
  | nil => exact .ok (outlinesAll_nil c)
  | cons a l ih =>
    rw [List.mapM_cons, List.mapM_cons]
    refine (h a List.mem_cons_self).bind fun p s hp => ?_
    refine (ih fun a ha => h a (List.mem_cons_of_mem _ ha)).bind fun ps ss hps => ?_
    exact .ok (hp.cons hps)

theorem mapM_alike {f : α → Built Part} {g : α → Built String} {c : α → Prop} {l : List α}
    (h : ∀ a ∈ l, Alike (Outlines (c a)) (f a) (g a)) :
    Alike (OutlinesAll l c) (l.mapM f) (l.mapM g) := by
  refine (mapM_alike_map id h).imp fun ps ss hps => ?_
  rwa [List.map_id] at hps

/-- A list without members of its own. -/
theorem mapM_ofText_alike {g : α → Built String} {l : List α}
    (h : ∀ a ∈ l, ∀ s, g a = .ok s → s ≠ "") :
    Alike (OutlinesAll l fun _ => True) (l.mapM fun a => ofText (g a)) (l.mapM g) :=
  mapM_alike fun a ha => ofText_alike (h a ha)

end Part

end TerseSql
