import TerseSql.Proofs.Reading.Formula

/-!
# Reading formulas

A reader takes the lexemes of a condition one after another. NOT binds tighter than AND, and
AND tighter than OR; parentheses go before all of them where an operand is missing, and are
part of an atom elsewhere. The AND after a BETWEEN is part of the atom too.
-/

namespace TerseSql.Reading

open Formula

inductive Role where
  | and
  | or
  | not
  | between
  | opening
  | closing
  | other
deriving DecidableEq, Repr

def Lexeme.role : Lexeme → Role
  | quoted _ => .other
  | word w =>
    if Text.equalsIgnoringAsciiCase w "AND" then .and
    else if Text.equalsIgnoringAsciiCase w "OR" then .or
    else if Text.equalsIgnoringAsciiCase w "NOT" then .not
    else if Text.equalsIgnoringAsciiCase w "BETWEEN" then .between
    else .other
  | sign c => if c = '(' then .opening else if c = ')' then .closing else .other

/-- What stands after the last connective: nothing yet, an atom with its open parentheses and
whether a range in it lacks its AND, or a group in parentheses. -/
inductive Operand where
  | missing
  | atom (ls : List Lexeme) (depth : Nat) (ranged : Bool)
  | group (φ : Formula)

/-- What has been read within one pair of parentheses: the alternatives before the last OR,
the conjuncts after it, and how often NOT stands before the operand at hand. -/
structure Frame where
  disjuncts : List Formula
  conjuncts : List Formula
  negations : Nat

structure State where
  outer : List Frame
  frame : Frame
  operand : Operand

def Operand.formula? : Operand → Option Formula
  | missing => none
  | atom ls depth ranged => if depth = 0 ∧ ranged = false then some (.atom ls) else none
  | group φ => some φ

namespace Frame

def empty : Frame := ⟨[], [], 0⟩

def conjunct (f : Frame) (φ : Formula) : Frame :=
  ⟨f.disjuncts, f.conjuncts ++ [negate f.negations φ], 0⟩

def disjunct (f : Frame) : Frame :=
  ⟨f.disjuncts ++ [conj f.conjuncts], [], 0⟩

def formula (f : Frame) : Formula :=
  disj (f.disjuncts ++ [conj f.conjuncts])

end Frame

namespace State

def ended? (s : State) : Option Frame :=
  s.operand.formula?.map s.frame.conjunct

def connect (s : State) (l : Lexeme) : Option State :=
  match s.ended?, l.role, s.outer with
  | some f, .and, outer => some ⟨outer, f, .missing⟩
  | some f, .or, outer => some ⟨outer, f.disjunct, .missing⟩
  | some f, .closing, g :: outer => some ⟨outer, g, .group f.formula⟩
  | _, _, _ => none

def begin (s : State) (l : Lexeme) : Option State :=
  match l.role with
  | .not => some ⟨s.outer, { s.frame with negations := s.frame.negations + 1 }, .missing⟩
  | .opening => some ⟨s.frame :: s.outer, .empty, .missing⟩
  | .other => some ⟨s.outer, s.frame, .atom [l] 0 false⟩
  | _ => none

def extend (s : State) (ls : List Lexeme) (depth : Nat) (ranged : Bool) (l : Lexeme) :
    Option State :=
  let atom (depth : Nat) (ranged : Bool) : Option State :=
    some ⟨s.outer, s.frame, .atom (ls ++ [l]) depth ranged⟩
  match l.role, depth with
  | .opening, _ => atom (depth + 1) ranged
  | .closing, 0 => s.connect l
  | .closing, depth + 1 => atom depth ranged
  | .and, 0 => if ranged then atom 0 false else s.connect l
  | .or, 0 => s.connect l
  | .between, 0 => atom 0 true
  | _, _ => atom depth ranged

def step (s : State) (l : Lexeme) : Option State :=
  match s.operand with
  | .missing => s.begin l
  | .atom ls depth ranged => s.extend ls depth ranged l
  | .group _ => s.connect l

def run (s : State) (ls : List Lexeme) : Option State :=
  ls.foldlM step s

end State

/-- The formula of lexemes, if every parenthesis closes and every connective has operands. -/
def read (ls : List Lexeme) : Option Formula := do
  let s ← State.run ⟨[], .empty, .missing⟩ ls
  if s.outer.isEmpty then return (← s.ended?).formula else none

/-! ## Runs -/

theorem run_append {s t : State} {a : List Lexeme} (h : s.run a = some t) (b : List Lexeme) :
    s.run (a ++ b) = t.run b := by
  unfold State.run at h ⊢
  rw [List.foldlM_append, h]
  rfl

theorem run_cons {s t : State} {l : Lexeme} (h : s.step l = some t) (ls : List Lexeme) :
    s.run (l :: ls) = t.run ls := by
  unfold State.run
  rw [List.foldlM_cons, h]
  rfl

/-! ## Atoms -/

def Lexeme.isInert (l : Lexeme) : Bool :=
  l.role == .other || l.role == .not

section

variable {outer : List Frame} {frame : Frame} {ls a b : List Lexeme}

theorem run_inert (h : ∀ l ∈ a, l.isInert = true) (depth : Nat) (ranged : Bool) :
    State.run ⟨outer, frame, .atom ls depth ranged⟩ a =
      some ⟨outer, frame, .atom (ls ++ a) depth ranged⟩ := by
  induction a generalizing ls with
  | nil =>
    rw [List.append_nil]
    rfl
  | cons l a ih =>
    have hl := h l List.mem_cons_self
    have hstep : State.step ⟨outer, frame, .atom ls depth ranged⟩ l =
        some ⟨outer, frame, .atom (ls ++ [l]) depth ranged⟩ := by
      unfold Lexeme.isInert at hl
      unfold State.step State.extend
      rcases hrole : l.role <;> simp_all
    rw [run_cons hstep, ih fun m hm => h m (List.mem_cons_of_mem _ hm), List.append_assoc]
    rfl

def Continues (a : List Lexeme) : Prop :=
  ∀ outer frame ls, State.run ⟨outer, frame, .atom ls 0 false⟩ a =
    some ⟨outer, frame, .atom (ls ++ a) 0 false⟩

theorem continues_inert (h : ∀ l ∈ a, l.isInert = true) : Continues a :=
  fun _ _ _ => run_inert h 0 false

theorem Continues.append (ha : Continues a) (hb : Continues b) : Continues (a ++ b) := by
  intro outer frame ls
  rw [run_append (ha outer frame ls), hb, List.append_assoc]

theorem continues_parens (h : ∀ l ∈ a, l.isInert = true) :
    Continues (.sign '(' :: (a ++ [Lexeme.sign ')'])) := by
  intro outer frame ls
  have hopen : State.step ⟨outer, frame, .atom ls 0 false⟩ (.sign '(') =
      some ⟨outer, frame, .atom (ls ++ [Lexeme.sign '(']) 1 false⟩ := rfl
  have hclose :
      State.run ⟨outer, frame, .atom (ls ++ [Lexeme.sign '('] ++ a) 1 false⟩ [.sign ')'] =
      some ⟨outer, frame, .atom (ls ++ [Lexeme.sign '('] ++ a ++ [Lexeme.sign ')']) 0 false⟩ := rfl
  rw [run_cons hopen, run_append (run_inert h 1 false), hclose]
  simp

theorem continues_range (ha : ∀ l ∈ a, l.isInert = true) (hb : ∀ l ∈ b, l.isInert = true) :
    Continues (.word "BETWEEN" :: (a ++ .word "AND" :: b)) := by
  intro outer frame ls
  have hbetween : State.step ⟨outer, frame, .atom ls 0 false⟩ (.word "BETWEEN") =
      some ⟨outer, frame, .atom (ls ++ [Lexeme.word "BETWEEN"]) 0 true⟩ := rfl
  have hand : State.step ⟨outer, frame, .atom (ls ++ [Lexeme.word "BETWEEN"] ++ a) 0 true⟩
      (.word "AND") =
      some ⟨outer, frame,
        .atom (ls ++ [Lexeme.word "BETWEEN"] ++ a ++ [Lexeme.word "AND"]) 0 false⟩ := rfl
  rw [run_cons hbetween, run_append (run_inert ha 0 true), run_cons hand, run_inert hb]
  simp

end

end TerseSql.Reading
