/-!
# Quoted text

A quoted text stands between an opening and a closing mark, and a closing mark inside it
is written twice. Reading accepts exactly what writing produces (`undouble_eq_some_iff`).
-/

namespace TerseSql.Text

def double (mark : Char) : List Char → List Char
  | [] => []
  | c :: rest => if c = mark then mark :: mark :: double mark rest else c :: double mark rest

/-- The characters with every pair of `mark` read as one. A lone mark is refused. -/
def undouble (mark : Char) : List Char → Option (List Char)
  | [] => some []
  | [c] => if c = mark then none else some [c]
  | c :: d :: rest =>
    if c = mark then
      if d = mark then (undouble mark rest).map (mark :: ·) else none
    else (undouble mark (d :: rest)).map (c :: ·)

def quoted (opening closing : Char) (s : String) : String :=
  String.ofList (opening :: double closing s.toList ++ [closing])

theorem double_append (mark : Char) (a b : List Char) :
    double mark (a ++ b) = double mark a ++ double mark b := by
  induction a with
  | nil => rfl
  | cons c a ih =>
    by_cases h : c = mark
    · simp [double, h, ih]
    · simp [double, h, ih]

theorem mem_of_mem_double {mark c : Char} {s : List Char} (h : c ∈ double mark s) : c ∈ s := by
  induction s with
  | nil => cases h
  | cons d s ih =>
    by_cases hd : d = mark
    · rw [double, if_pos hd, List.mem_cons, List.mem_cons] at h
      rcases h with rfl | rfl | h
      · exact hd ▸ List.mem_cons_self
      · exact hd ▸ List.mem_cons_self
      · exact List.mem_cons_of_mem _ (ih h)
    · rw [double, if_neg hd, List.mem_cons] at h
      rcases h with rfl | h
      · exact List.mem_cons_self
      · exact List.mem_cons_of_mem _ (ih h)

theorem double_of_not_mem {mark : Char} {s : List Char} (h : mark ∉ s) : double mark s = s := by
  induction s with
  | nil => rfl
  | cons c s ih =>
    rw [List.mem_cons, not_or] at h
    rw [double, if_neg (Ne.symm h.1), ih h.2]

theorem undouble_cons {mark c : Char} (h : c ≠ mark) (cs : List Char) :
    undouble mark (c :: cs) = (undouble mark cs).map (c :: ·) := by
  cases cs <;> simp [undouble, h]

theorem undouble_double (mark : Char) (s : List Char) : undouble mark (double mark s) = some s := by
  induction s with
  | nil => rfl
  | cons c rest ih =>
    by_cases h : c = mark
    · simp [double, undouble, h, ih]
    · simp [double, undouble_cons h, h, ih]

theorem eq_double_of_undouble {mark : Char} {t s : List Char} (h : undouble mark t = some s) :
    t = double mark s := by
  fun_induction undouble mark t generalizing s with
  | case1 => simp_all [double]
  | case2 => simp at h
  | case3 c hc =>
    obtain rfl := Option.some.inj h
    simp [double, hc]
  | case4 rest ih =>
    obtain ⟨u, hu, rfl⟩ := Option.map_eq_some_iff.1 h
    simp [double, ih hu]
  | case5 => simp at h
  | case6 c d rest hc ih =>
    obtain ⟨u, hu, rfl⟩ := Option.map_eq_some_iff.1 h
    rw [double, if_neg hc, ih hu]

/-- Each text has one quoted form. -/
theorem undouble_eq_some_iff {mark : Char} {t s : List Char} :
    undouble mark t = some s ↔ t = double mark s :=
  ⟨eq_double_of_undouble, fun h => h ▸ undouble_double mark s⟩

end TerseSql.Text
