import TerseSql.Proofs.Condition.Inside
import TerseSql.Proofs.Reading.Sentence

/-!
# Predicates of any kind

A predicate that is given as a text may start an operand with a parenthesis, as in
`(a + b) > 3`. So it is first split into alternatives of conjuncts, at every OR and AND that
stands in no parentheses and is not the AND of a BETWEEN. A conjunct is what its parentheses
enclose, if they enclose all of it, and an atom else.
-/

namespace TerseSql.Reading

open Lexing Formula

/-! ## Parentheses among lexemes -/

/-- The number of open parentheses behind a lexeme. -/
def nest? (depth : Nat) (l : Lexeme) : Option Nat :=
  match l.role with
  | .opening => some (depth + 1)
  | .closing => if depth = 0 then none else some (depth - 1)
  | _ => some depth

def depthAfter? (depth : Nat) (ls : List Lexeme) : Option Nat :=
  ls.foldlM nest? depth

def IsClosed (ls : List Lexeme) : Prop :=
  depthAfter? 0 ls = some 0

instance (ls : List Lexeme) : Decidable (IsClosed ls) :=
  inferInstanceAs (Decidable (depthAfter? 0 ls = some 0))

theorem depthAfter?_cons (depth : Nat) (l : Lexeme) (ls : List Lexeme) :
    depthAfter? depth (l :: ls) = (nest? depth l).bind fun d => depthAfter? d ls := by
  unfold depthAfter?
  rw [List.foldlM_cons]
  rfl

theorem nest?_of_role {l : Lexeme} (h : l.role ≠ .opening ∧ l.role ≠ .closing) (depth : Nat) :
    nest? depth l = some depth := by
  unfold nest?
  cases hrole : l.role <;> simp_all

theorem role_word (w : String) :
    (Lexeme.word w).role ≠ .opening ∧ (Lexeme.word w).role ≠ .closing := by
  unfold Lexeme.role
  dsimp only
  split_ifs <;> decide

/-- A word that is read opens and closes nothing. -/
theorem depthAfter?_flush (depth : Nat) (read : List Char) (ls : List Lexeme) :
    depthAfter? depth (flush read ++ ls) = depthAfter? depth ls := by
  unfold flush
  by_cases hread : read.isEmpty = true
  · rw [if_pos hread, List.nil_append]
  · rw [if_neg hread, List.singleton_append, depthAfter?_cons, nest?_of_role (role_word _),
      Option.bind_some]

/-- Parentheses close among lexemes as they do among tokens. -/
theorem depthAfter?_wordsFrom (depth : Nat) (read : List Char) (ts : List Token) :
    depthAfter? depth (wordsFrom read ts) = some 0 ↔
      Condition.closesTokens depth ts = true := by
  induction ts generalizing depth read with
  | nil =>
    rw [wordsFrom, ← List.append_nil (flush read), depthAfter?_flush]
    simp [depthAfter?, Condition.closesTokens]
  | cons t ts ih =>
    cases t with
    | mark c =>
      rw [wordsFrom, Condition.closesTokens]
      by_cases hlexical : isLexical c = true
      · -- Neither letters nor white space are parentheses, which are signs of their own.
        have hopen : c ≠ '(' := by rintro rfl; cases hlexical
        have hclose : c ≠ ')' := by rintro rfl; cases hlexical
        rw [if_pos hlexical, if_neg hopen, if_neg hclose, ih]
      rw [if_neg hlexical]
      by_cases hblank : Text.isBlank c = true
      · have hopen : c ≠ '(' := by rintro rfl; cases hblank
        have hclose : c ≠ ')' := by rintro rfl; cases hblank
        rw [if_pos hblank, if_neg hopen, if_neg hclose, depthAfter?_flush, ih]
      rw [if_neg hblank, depthAfter?_flush, depthAfter?_cons]
      by_cases hopen : c = '('
      · rw [if_pos hopen, hopen]
        exact ih (depth + 1) []
      rw [if_neg hopen]
      by_cases hclose : c = ')'
      · rw [if_pos hclose, hclose]
        by_cases hdepth : depth = 0
        · simp [nest?, Lexeme.role, hdepth]
        · simp [nest?, Lexeme.role, hdepth, ih]
      · have hrole : (Lexeme.sign c).role = .other := by simp [Lexeme.role, hopen, hclose]
        rw [if_neg hclose, nest?_of_role (by simp [hrole]), Option.bind_some, ih]
    | _ =>
      rw [wordsFrom, depthAfter?_flush, depthAfter?_cons, nest?_of_role (by simp [Lexeme.role]),
        Option.bind_some, ih]
      · rfl
      · simp

/-! ## Alternatives of conjuncts -/

/-- What has been read: the alternatives before the last OR, the conjuncts after it, and the
lexemes after the last connective, with the parentheses that are open there and whether a range
lacks its AND. -/
structure Outline where
  alternatives : List (List (List Lexeme))
  conjuncts : List (List Lexeme)
  current : List Lexeme
  depth : Nat
  ranged : Bool

namespace Outline

def empty : Outline := ⟨[], [], [], 0, false⟩

def goOn (o : Outline) (l : Lexeme) (depth : Nat) (ranged : Bool) : Outline :=
  ⟨o.alternatives, o.conjuncts, o.current ++ [l], depth, ranged⟩

def conjunct (o : Outline) : Outline :=
  ⟨o.alternatives, o.conjuncts ++ [o.current], [], 0, false⟩

def alternative (o : Outline) : Outline :=
  ⟨o.alternatives ++ [o.conjuncts ++ [o.current]], [], [], 0, false⟩

def step (o : Outline) (l : Lexeme) : Option Outline :=
  match l.role, o.depth, o.ranged with
  | .and, 0, false => some o.conjunct
  | .and, 0, true => some (o.goOn l 0 false)
  | .or, 0, false => some o.alternative
  | .or, 0, true => none
  | .between, 0, _ => some (o.goOn l 0 true)
  | _, depth, ranged => (nest? depth l).map fun d => o.goOn l d ranged

def run (o : Outline) (ls : List Lexeme) : Option Outline :=
  ls.foldlM step o

def ended? (o : Outline) : Option (List (List (List Lexeme))) :=
  if o.depth = 0 ∧ o.ranged = false then
    some (o.alternatives ++ [o.conjuncts ++ [o.current]])
  else none

variable {o o' : Outline} {l : Lexeme} {ls : List Lexeme}

/-- What one lexeme does: it goes on with the conjunct at hand, or ends it as AND or OR. -/
theorem step_cases (h : o.step l = some o') :
    nest? o.depth l = some o'.depth ∧
      ((∃ depth ranged, o' = o.goOn l depth ranged) ∨ o' = o.conjunct ∨ o' = o.alternative) := by
  have hgoOn : ∀ {d : Nat} {r : Bool}, nest? o.depth l = some d → o.goOn l d r = o' →
      nest? o.depth l = some o'.depth ∧ ((∃ d r, o' = o.goOn l d r) ∨
        o' = o.conjunct ∨ o' = o.alternative) := by
    rintro d r hnest rfl
    exact ⟨hnest, Or.inl ⟨d, r, rfl⟩⟩
  unfold step at h
  split at h
  · next hrole hdepth _ =>
    cases h
    exact ⟨by simp [nest?, hrole, hdepth, conjunct], Or.inr (Or.inl rfl)⟩
  · next hrole hdepth _ => exact hgoOn (by simp [nest?, hrole, hdepth]) (Option.some.inj h)
  · next hrole hdepth _ =>
    cases h
    exact ⟨by simp [nest?, hrole, hdepth, alternative], Or.inr (Or.inr rfl)⟩
  · cases h
  · next hrole hdepth => exact hgoOn (by simp [nest?, hrole, hdepth]) (Option.some.inj h)
  · obtain ⟨d, hnest, h⟩ := Option.map_eq_some_iff.mp h
    exact hgoOn hnest h

theorem run_cons (o : Outline) (l : Lexeme) (ls : List Lexeme) :
    o.run (l :: ls) = (o.step l).bind fun o' => o'.run ls := by
  unfold run
  rw [List.foldlM_cons]
  rfl

theorem run_append (h : o.run ls = some o') (ms : List Lexeme) : o.run (ls ++ ms) = o'.run ms := by
  unfold run at h ⊢
  rw [List.foldlM_append, h]
  rfl

theorem depthAfter?_of_run (h : o.run ls = some o') : depthAfter? o.depth ls = some o'.depth := by
  induction ls generalizing o with
  | nil =>
    cases h
    rfl
  | cons l ls ih =>
    rw [run_cons] at h
    obtain ⟨m, hstep, hrun⟩ := Option.bind_eq_some_iff.mp h
    rw [depthAfter?_cons, (step_cases hstep).1]
    exact ih hrun

theorem step_nested {d e : Nat} (h : nest? d l = some e) (hd : o.depth = d + 1) :
    o.step l = some (o.goOn l (e + 1) o.ranged) := by
  unfold step
  rw [hd]
  unfold nest? at h ⊢
  cases hrole : l.role with
  | closing =>
    rw [hrole] at h
    dsimp only at h
    by_cases hzero : d = 0
    · rw [if_pos hzero] at h
      cases h
    · rw [if_neg hzero] at h
      cases h
      have hpred : d - 1 + 1 = d := by omega
      simp [hpred]
  | _ =>
    rw [hrole] at h
    cases h
    rfl

/-- Within parentheses there are no connectives. -/
theorem run_nested {d e : Nat} (h : depthAfter? d ls = some e) (hd : o.depth = d + 1) :
    o.run ls = some ⟨o.alternatives, o.conjuncts, o.current ++ ls, e + 1, o.ranged⟩ := by
  induction ls generalizing o d with
  | nil =>
    cases h
    rw [List.append_nil, ← hd]
    rfl
  | cons l ls ih =>
    rw [depthAfter?_cons] at h
    obtain ⟨f, hnest, hrest⟩ := Option.bind_eq_some_iff.mp h
    rw [run_cons, step_nested hnest hd, Option.bind_some, ih hrest rfl]
    simp [goOn]

theorem step_inert (h : l.isInert = true) : o.step l = some (o.goOn l o.depth o.ranged) := by
  unfold Lexeme.isInert at h
  unfold step nest?
  cases hrole : l.role <;> simp_all

/-! ### Lengths -/

def parts (o : Outline) : List (List Lexeme) :=
  o.alternatives.flatten ++ o.conjuncts ++ [o.current]

theorem length_step {n : Nat} (h : o.step l = some o') (ho : ∀ c ∈ o.parts, c.length ≤ n) :
    ∀ c ∈ o'.parts, c.length ≤ n + 1 := by
  have hle : ∀ c ∈ o.parts, c.length ≤ n + 1 := fun c hc => Nat.le_succ_of_le (ho c hc)
  obtain ⟨-, ⟨d, r, rfl⟩ | rfl | rfl⟩ := step_cases h
  · have hcurrent := ho o.current (by simp [parts])
    simp only [parts, goOn, List.forall_mem_append, List.forall_mem_singleton,
      List.length_append, List.length_singleton] at hle ⊢
    exact ⟨hle.1, by omega⟩
  · simpa [parts, conjunct, or_imp, forall_and] using hle
  · simpa [parts, alternative, or_imp, forall_and, and_assoc] using hle

theorem length_run {n : Nat} (h : o.run ls = some o') (ho : ∀ c ∈ o.parts, c.length ≤ n) :
    ∀ c ∈ o'.parts, c.length ≤ n + ls.length := by
  induction ls generalizing o n with
  | nil =>
    cases h
    exact ho
  | cons l ls ih =>
    rw [run_cons] at h
    obtain ⟨m, hstep, hrun⟩ := Option.bind_eq_some_iff.mp h
    have hm := ih hrun (length_step hstep ho)
    intro c hc
    have hc := hm c hc
    rw [List.length_cons]
    omega

end Outline

def outline (ls : List Lexeme) : Option (List (List (List Lexeme))) :=
  (Outline.run .empty ls).bind Outline.ended?

theorem length_outline {ls : List Lexeme} {alternatives : List (List (List Lexeme))}
    (h : outline ls = some alternatives) {cs : List (List Lexeme)} (hcs : cs ∈ alternatives)
    {c : List Lexeme} (hc : c ∈ cs) : c.length ≤ ls.length := by
  obtain ⟨o, hrun, hended⟩ := Option.bind_eq_some_iff.mp h
  have hparts := Outline.length_run (n := 0) hrun (by simp [Outline.parts, Outline.empty])
  unfold Outline.ended? at hended
  split at hended
  · cases hended
    rw [Nat.zero_add] at hparts
    refine hparts c ?_
    simp only [Outline.parts, List.append_assoc, List.mem_append, List.mem_flatten]
    rcases List.mem_append.mp hcs with hcs | hcs
    · exact Or.inl ⟨cs, hcs, hc⟩
    · obtain rfl := List.mem_singleton.mp hcs
      exact Or.inr (List.mem_append.mp hc)
  · cases hended

/-! ## Formulas -/

def enclosed? : List Lexeme → Option (List Lexeme)
  | l :: rest =>
    if l = .sign '(' ∧ rest.getLast? = some (.sign ')') ∧ IsClosed rest.dropLast then
      some rest.dropLast
    else none
  | [] => none

theorem enclosed?_eq_some_iff {ls inner : List Lexeme} :
    enclosed? ls = some inner ↔
      ls = Lexeme.sign '(' :: (inner ++ [Lexeme.sign ')']) ∧ IsClosed inner := by
  cases ls with
  | nil => simp [enclosed?]
  | cons l rest =>
    rw [enclosed?, List.cons.injEq]
    constructor
    · intro h
      split at h
      · next hcond =>
        cases h
        exact ⟨⟨hcond.1, (List.dropLast_append_getLast? _ hcond.2.1).symm⟩, hcond.2.2⟩
      · cases h
    · intro ⟨⟨hl, hrest⟩, hclosed⟩
      subst hl hrest
      simp [hclosed]

theorem length_enclosed {ls inner : List Lexeme} (h : enclosed? ls = some inner) :
    inner.length < ls.length := by
  obtain ⟨rfl, -⟩ := enclosed?_eq_some_iff.mp h
  rw [List.length_cons, List.length_append, List.length_singleton]
  omega

def stripNots : List Lexeme → Nat × List Lexeme
  | [] => (0, [])
  | l :: ls =>
    if l.role = .not then ((stripNots ls).1 + 1, (stripNots ls).2) else (0, l :: ls)

theorem length_stripNots (ls : List Lexeme) : (stripNots ls).2.length ≤ ls.length := by
  induction ls with
  | nil => exact Nat.le_refl 0
  | cons l ls ih =>
    unfold stripNots
    split
    · exact Nat.le_succ_of_le ih
    · exact Nat.le_refl _

def atom? (ls : List Lexeme) : Option Formula :=
  if ls = [] then none else some (.atom ls)

/-- The formula of a predicate, if every parenthesis closes and every connective has operands. -/
def predicate? (ls : List Lexeme) : Option Formula :=
  match _h : outline ls with
  | none => none
  | some alternatives =>
    (alternatives.attach.mapM fun conjuncts : { cs // cs ∈ alternatives } =>
      (conjuncts.1.attach.mapM fun conjunct : { c // c ∈ conjuncts.1 } =>
        (match _h : enclosed? (stripNots conjunct.1).2 with
        | some inner => predicate? inner
        | none => atom? (stripNots conjunct.1).2).map (negate (stripNots conjunct.1).1)).map
      conj).map disj
termination_by ls.length
decreasing_by
  have hinner := length_enclosed ‹_›
  have hstrip := length_stripNots conjunct.1
  have hconjunct := length_outline ‹_› conjuncts.2 conjunct.2
  omega

def conjunct? (ls : List Lexeme) : Option Formula :=
  (match enclosed? (stripNots ls).2 with
  | some inner => predicate? inner
  | none => atom? (stripNots ls).2).map (negate (stripNots ls).1)

def alternative? (conjuncts : List (List Lexeme)) : Option Formula :=
  (conjuncts.mapM conjunct?).map conj

theorem predicate?_eq (ls : List Lexeme) : predicate? ls =
    (outline ls).bind fun alternatives => (alternatives.mapM alternative?).map disj := by
  have hconjunct : ∀ c, (match _h : enclosed? (stripNots c).2 with
      | some inner => predicate? inner
      | none => atom? (stripNots c).2).map (negate (stripNots c).1) = conjunct? c := by
    intro c
    unfold conjunct?
    split <;> simp [*]
  have halternative : ∀ cs, (cs.mapM conjunct?).map conj = alternative? cs := fun _ => rfl
  rw [predicate?]
  split
  · next h =>
    rw [h]
    rfl
  · next h =>
    rw [h, Option.bind_some]
    simp only [hconjunct]
    simp [halternative]

theorem isClosed_of_predicate? {ls : List Lexeme} {φ : Formula} (h : predicate? ls = some φ) :
    IsClosed ls := by
  rw [predicate?_eq] at h
  obtain ⟨alternatives, houtline, -⟩ := Option.bind_eq_some_iff.mp h
  obtain ⟨o, hrun, hended⟩ := Option.bind_eq_some_iff.mp houtline
  have hdepth := Outline.depthAfter?_of_run hrun
  unfold Outline.ended? at hended
  split at hended
  · next hend => rwa [hend.1] at hdepth
  · cases hended

/-! ## Branches -/

/-- The lexemes are the alternatives `φs` and, behind the last OR, the conjuncts `ψs`. -/
def Branches (φs ψs : List Formula) (ls : List Lexeme) : Prop :=
  ∃ o, Outline.run .empty ls = some o ∧ o.depth = 0 ∧ o.ranged = false ∧
    o.alternatives.mapM alternative? = some φs ∧
    (o.conjuncts ++ [o.current]).mapM conjunct? = some ψs

theorem predicate?_eq_some_iff {ls : List Lexeme} {φ : Formula} :
    predicate? ls = some φ ↔ ∃ φs ψs, Branches φs ψs ls ∧ φ = disj (φs ++ [conj ψs]) := by
  rw [predicate?_eq]
  constructor
  · intro h
    obtain ⟨alternatives, houtline, h⟩ := Option.bind_eq_some_iff.mp h
    obtain ⟨o, hrun, hended⟩ := Option.bind_eq_some_iff.mp houtline
    unfold Outline.ended? at hended
    split at hended
    · next hend =>
      cases hended
      rw [List.mapM_append] at h
      obtain ⟨all, hall, rfl⟩ := Option.map_eq_some_iff.mp h
      obtain ⟨φs, hφs, hall⟩ := Option.bind_eq_some_iff.mp hall
      obtain ⟨last, hlast, hall⟩ := Option.bind_eq_some_iff.mp hall
      cases hall
      rw [List.mapM_cons, List.mapM_nil] at hlast
      obtain ⟨χ, hχ, hlast⟩ := Option.bind_eq_some_iff.mp hlast
      cases hlast
      obtain ⟨ψs, hψs, rfl⟩ := Option.map_eq_some_iff.mp hχ
      exact ⟨φs, ψs, ⟨o, hrun, hend.1, hend.2, hφs, hψs⟩, rfl⟩
    · cases hended
  · rintro ⟨φs, ψs, ⟨o, hrun, hdepth, hranged, hφs, hψs⟩, rfl⟩
    have hlast : alternative? (o.conjuncts ++ [o.current]) = some (conj ψs) := by
      unfold alternative?
      rw [hψs]
      rfl
    unfold outline Outline.ended?
    rw [hrun, Option.bind_some, if_pos ⟨hdepth, hranged⟩, Option.bind_some, List.mapM_append, hφs,
      List.mapM_cons, hlast]
    rfl

theorem conjunct?_group {ls : List Lexeme} (h : IsClosed ls) :
    conjunct? (.sign '(' :: (ls ++ [.sign ')'])) = predicate? ls := by
  have hstrip : stripNots (.sign '(' :: (ls ++ [.sign ')'])) =
      (0, .sign '(' :: (ls ++ [.sign ')'])) := if_neg (by decide)
  unfold conjunct?
  rw [hstrip, enclosed?_eq_some_iff.mpr ⟨rfl, h⟩]
  exact Option.map_id'

theorem Outline.run_group {o : Outline} {ls : List Lexeme} (h : IsClosed ls) (ho : o.depth = 0) :
    o.run (Lexeme.sign '(' :: (ls ++ [Lexeme.sign ')'])) =
      some ⟨o.alternatives, o.conjuncts,
        o.current ++ Lexeme.sign '(' :: (ls ++ [Lexeme.sign ')']), 0, o.ranged⟩ := by
  have hopen : o.step (.sign '(') = some (o.goOn (.sign '(') 1 o.ranged) := by
    unfold step
    rw [ho]
    rfl
  have hclose : ∀ o : Outline, o.depth = 1 →
      o.run [.sign ')'] = some (o.goOn (.sign ')') 0 o.ranged) := by
    intro o ho
    rw [run_cons]
    unfold step
    rw [ho]
    rfl
  rw [run_cons, hopen, Option.bind_some, run_append (run_nested h rfl), hclose _ rfl]
  simp [goOn]

/-- A group is one conjunct, with the formula of what it encloses. -/
theorem branches_group {ls : List Lexeme} {φ : Formula} (h : predicate? ls = some φ) :
    Branches [] [φ] (.sign '(' :: (ls ++ [.sign ')'])) := by
  have hclosed := isClosed_of_predicate? h
  refine ⟨_, Outline.run_group hclosed rfl, rfl, rfl, rfl, ?_⟩
  show [.sign '(' :: (ls ++ [.sign ')'])].mapM conjunct? = some [φ]
  rw [List.mapM_cons, conjunct?_group hclosed, h]
  rfl

theorem predicate?_group {ls : List Lexeme} (h : IsClosed ls) :
    predicate? (Lexeme.sign '(' :: (ls ++ [Lexeme.sign ')'])) = predicate? ls := by
  have hgroup : outline (Lexeme.sign '(' :: (ls ++ [Lexeme.sign ')'])) =
      some [[Lexeme.sign '(' :: (ls ++ [Lexeme.sign ')'])]] := by
    unfold outline
    rw [Outline.run_group h rfl]
    rfl
  rw [predicate?_eq, hgroup, Option.bind_some, List.mapM_cons, alternative?, List.mapM_cons,
    conjunct?_group h]
  cases predicate? ls <;> rfl

/-- A group behind an AND is a conjunct of the last alternative alone. -/
theorem Branches.and {ls ms : List Lexeme} {φs ψs : List Formula} {χ : Formula}
    (h : Branches φs ψs ls) (hχ : predicate? ms = some χ) :
    Branches φs (ψs ++ [χ])
      (ls ++ Lexeme.word "AND" :: Lexeme.sign '(' :: (ms ++ [Lexeme.sign ')'])) := by
  obtain ⟨o, hrun, hdepth, hranged, hφs, hψs⟩ := h
  have hclosed := isClosed_of_predicate? hχ
  have hand : o.step (.word "AND") = some o.conjunct := by
    unfold Outline.step
    rw [hdepth, hranged]
    rfl
  refine ⟨⟨o.alternatives, o.conjuncts ++ [o.current], .sign '(' :: (ms ++ [.sign ')']), 0, false⟩,
    ?_, rfl, rfl, hφs, ?_⟩
  · rw [Outline.run_append hrun, Outline.run_cons, hand, Option.bind_some,
      Outline.run_group hclosed rfl]
    rfl
  · rw [List.mapM_append, hψs, List.mapM_cons, conjunct?_group hclosed, hχ]
    rfl

end TerseSql.Reading
