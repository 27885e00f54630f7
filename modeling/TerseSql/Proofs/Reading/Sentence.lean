import TerseSql.Proofs.Reading.Reader

/-!
# Sentences

Units are operands, perhaps after a NOT. Units joined by one connective are a sentence, and a
sentence in parentheses is an operand. Wherever a unit or a sentence stands, it is read as its
formula.
-/

namespace TerseSql.Reading

open Formula

/-- Lexemes that are read as a formula from where a frame is empty. -/
def IsSentence (ls : List Lexeme) (φ : Formula) : Prop :=
  ∀ outer, ∃ s f, State.run ⟨outer, .empty, .missing⟩ ls = some s ∧ s.outer = outer ∧
    s.ended? = some f ∧ f.formula = φ

/-- Lexemes that start with a parenthesis only if it closes at their end, around a sentence of
the same formula. -/
def Encloses (ls : List Lexeme) (φ : Formula) : Prop :=
  ls.head? = some (.sign '(') →
    ∃ inner, ls = .sign '(' :: (inner ++ [.sign ')']) ∧ IsSentence inner φ

structure IsOperand (ls : List Lexeme) (φ : Formula) : Prop where
  run (outer : List Frame) (frame : Frame) : ∃ op : Operand,
    State.run ⟨outer, frame, .missing⟩ ls = some ⟨outer, frame, op⟩ ∧ op.formula? = some φ
  encloses : Encloses ls φ

structure IsUnit (ls : List Lexeme) (φ : Formula) : Prop where
  run (outer : List Frame) (disjuncts conjuncts : List Formula) : ∃ s : State,
    State.run ⟨outer, ⟨disjuncts, conjuncts, 0⟩, .missing⟩ ls = some s ∧ s.outer = outer ∧
      s.ended? = some ⟨disjuncts, conjuncts ++ [φ], 0⟩
  encloses : Encloses ls φ

/-! ## Operands -/

def IsAtom (ls : List Lexeme) : Prop :=
  ∃ l rest, ls = l :: rest ∧ l.role = .other ∧ Continues rest

theorem IsAtom.append {a b : List Lexeme} (ha : IsAtom a) (hb : Continues b) :
    IsAtom (a ++ b) := by
  obtain ⟨l, rest, rfl, hl, hrest⟩ := ha
  exact ⟨l, rest ++ b, rfl, hl, hrest.append hb⟩

def IsPlainAtom (ls : List Lexeme) : Prop :=
  ∃ l rest, ls = l :: rest ∧ l.role = .other ∧ ∀ m ∈ rest, m.isInert = true

theorem IsPlainAtom.isAtom {ls : List Lexeme} (h : IsPlainAtom ls) : IsAtom ls := by
  obtain ⟨l, rest, rfl, hl, hrest⟩ := h
  exact ⟨l, rest, rfl, hl, continues_inert hrest⟩

theorem IsAtom.isOperand {ls : List Lexeme} (h : IsAtom ls) : IsOperand ls (.atom ls) := by
  obtain ⟨l, rest, rfl, hl, hrest⟩ := h
  constructor
  · intro outer frame
    have hstep : State.step ⟨outer, frame, .missing⟩ l =
        some ⟨outer, frame, .atom [l] 0 false⟩ := by
      unfold State.step State.begin
      simp only [hl]
    refine ⟨.atom (l :: rest) 0 false, ?_, rfl⟩
    rw [run_cons hstep, hrest]
    rfl
  · intro hhead
    obtain rfl := Option.some.inj hhead
    cases hl

/-- After an operand a connective or a closing parenthesis is read as such. -/
theorem step_of_ended {s : State} {f : Frame} {l : Lexeme} (h : s.ended? = some f)
    (hl : l.role = .and ∨ l.role = .or ∨ l.role = .closing) : s.step l = s.connect l := by
  obtain ⟨outer, frame, operand⟩ := s
  cases operand with
  | missing => cases h
  | group φ => rfl
  | atom ls depth ranged =>
    unfold State.ended? Operand.formula? at h
    dsimp only at h
    by_cases hend : depth = 0 ∧ ranged = false
    · obtain ⟨rfl, rfl⟩ := hend
      unfold State.step State.extend
      rcases hl with hl | hl | hl
      · simp [hl]
      · simp [hl]
      · simp [hl]
    · rw [if_neg hend] at h
      cases h

theorem IsSentence.isOperand {ls : List Lexeme} {φ : Formula} (h : IsSentence ls φ) :
    IsOperand (.sign '(' :: (ls ++ [Lexeme.sign ')'])) φ := by
  constructor
  · intro outer frame
    obtain ⟨s, f, hrun, houter, hended, hformula⟩ := h (frame :: outer)
    have hopen : State.step ⟨outer, frame, .missing⟩ (.sign '(') =
        some ⟨frame :: outer, .empty, .missing⟩ := rfl
    have hclose : s.step (.sign ')') = some ⟨outer, frame, .group f.formula⟩ := by
      rw [step_of_ended hended (Or.inr (Or.inr rfl))]
      unfold State.connect
      rw [hended, houter]
      rfl
    refine ⟨.group f.formula, ?_, congrArg some hformula⟩
    rw [run_cons hopen, run_append hrun, run_cons hclose]
    rfl
  · intro _
    exact ⟨ls, rfl, h⟩

/-! ## Units -/

theorem IsOperand.isUnit {ls : List Lexeme} {φ : Formula} (h : IsOperand ls φ) : IsUnit ls φ := by
  refine ⟨fun outer disjuncts conjuncts => ?_, h.encloses⟩
  obtain ⟨op, hrun, hop⟩ := h.run outer ⟨disjuncts, conjuncts, 0⟩
  refine ⟨_, hrun, rfl, ?_⟩
  unfold State.ended?
  rw [hop]
  rfl

theorem IsOperand.isUnit_not {ls : List Lexeme} {φ : Formula} (h : IsOperand ls φ) :
    IsUnit (.word "NOT" :: ls) (.not φ) := by
  refine ⟨fun outer disjuncts conjuncts => ?_, fun hhead => by cases hhead⟩
  have hnot : State.step ⟨outer, ⟨disjuncts, conjuncts, 0⟩, .missing⟩ (.word "NOT") =
      some ⟨outer, ⟨disjuncts, conjuncts, 1⟩, .missing⟩ := rfl
  obtain ⟨op, hrun, hop⟩ := h.run outer ⟨disjuncts, conjuncts, 1⟩
  refine ⟨⟨outer, ⟨disjuncts, conjuncts, 1⟩, op⟩, ?_, rfl, ?_⟩
  · rw [run_cons hnot, hrun]
  · unfold State.ended?
    rw [hop]
    rfl

theorem IsUnit.isSentence {ls : List Lexeme} {φ : Formula} (h : IsUnit ls φ) : IsSentence ls φ := by
  intro outer
  obtain ⟨s, hrun, houter, hended⟩ := h.run outer [] []
  exact ⟨s, _, hrun, houter, hended, rfl⟩

/-! ## Sentences -/

def combine : Connective → List Formula → Formula
  | .and => conj
  | .or => disj

def keyword : Connective → Lexeme
  | .and => .word "AND"
  | .or => .word "OR"

theorem run_and {l : List Lexeme} {φ : Formula} {ls : List (List Lexeme)} {φs : List Formula}
    (hfirst : IsUnit l φ) (h : List.Forall₂ IsUnit ls φs) (outer : List Frame)
    (disjuncts conjuncts : List Formula) :
    ∃ s, State.run ⟨outer, ⟨disjuncts, conjuncts, 0⟩, .missing⟩
        (List.intercalate [.word "AND"] (l :: ls)) = some s ∧ s.outer = outer ∧
      s.ended? = some ⟨disjuncts, conjuncts ++ φ :: φs, 0⟩ := by
  induction h generalizing l φ conjuncts with
  | nil =>
    rw [List.intercalate_singleton]
    exact hfirst.run outer disjuncts conjuncts
  | @cons m ψ ls φs hm hrest ih =>
    obtain ⟨s, hrun, houter, hended⟩ := hfirst.run outer disjuncts conjuncts
    obtain ⟨t, hrun', houter', hended'⟩ := ih hm (conjuncts ++ [φ])
    have hstep : s.step (.word "AND") =
        some ⟨outer, ⟨disjuncts, conjuncts ++ [φ], 0⟩, .missing⟩ := by
      rw [step_of_ended hended (Or.inl rfl)]
      unfold State.connect
      rw [hended, houter]
      rfl
    refine ⟨t, ?_, houter', ?_⟩
    · rw [List.intercalate_cons_cons, List.append_assoc, run_append hrun, List.singleton_append,
        run_cons hstep, hrun']
    · rw [hended', List.append_assoc]
      rfl

theorem run_or {l : List Lexeme} {φ : Formula} {ls : List (List Lexeme)} {φs : List Formula}
    (hfirst : IsUnit l φ) (h : List.Forall₂ IsUnit ls φs) (outer : List Frame)
    (disjuncts : List Formula) :
    ∃ s f, State.run ⟨outer, ⟨disjuncts, [], 0⟩, .missing⟩
        (List.intercalate [.word "OR"] (l :: ls)) = some s ∧ s.outer = outer ∧
      s.ended? = some f ∧ f.formula = disj (disjuncts ++ φ :: φs) := by
  induction h generalizing l φ disjuncts with
  | nil =>
    obtain ⟨s, hrun, houter, hended⟩ := hfirst.run outer disjuncts []
    rw [List.intercalate_singleton]
    exact ⟨s, _, hrun, houter, hended, rfl⟩
  | @cons m ψ ls φs hm hrest ih =>
    obtain ⟨s, hrun, houter, hended⟩ := hfirst.run outer disjuncts []
    obtain ⟨t, f, hrun', houter', hended', hformula⟩ := ih hm (disjuncts ++ [φ])
    have hstep : s.step (.word "OR") = some ⟨outer, ⟨disjuncts ++ [φ], [], 0⟩, .missing⟩ := by
      rw [step_of_ended hended (Or.inr (Or.inl rfl))]
      unfold State.connect
      rw [hended, houter]
      rfl
    refine ⟨t, f, ?_, houter', hended', ?_⟩
    · rw [List.intercalate_cons_cons, List.append_assoc, run_append hrun, List.singleton_append,
        run_cons hstep, hrun']
    · rw [hformula, List.append_assoc]
      rfl

theorem isSentence_intercalate (c : Connective) {ls : List (List Lexeme)} {φs : List Formula}
    (h : List.Forall₂ IsUnit ls φs) (hne : ls ≠ []) :
    IsSentence (List.intercalate [keyword c] ls) (combine c φs) := by
  intro outer
  cases h with
  | nil => exact absurd rfl hne
  | cons hfirst hrest =>
    cases c with
    | and =>
      obtain ⟨s, hrun, houter, hended⟩ := run_and hfirst hrest outer [] []
      exact ⟨s, _, hrun, houter, hended, rfl⟩
    | or => exact run_or hfirst hrest outer []

theorem read_of_isSentence {ls : List Lexeme} {φ : Formula} (h : IsSentence ls φ) :
    read ls = some φ := by
  obtain ⟨s, f, hrun, houter, hended, rfl⟩ := h []
  unfold read
  rw [hrun]
  simp [houter, hended]

end TerseSql.Reading
