import TerseSql.Proofs.Reading.Predicate

/-!
# Two readers of conditions

What is read as a condition one lexeme after another is the same formula when it is split into
alternatives of conjuncts. After each step the lexemes so far are those of the frames, with an
open parenthesis before each inner one.
-/

namespace TerseSql.Reading

open Formula

theorem eq_of_opening {l : Lexeme} (h : l.role = .opening) : l = .sign '(' := by
  cases l with
  | quoted s => cases h
  | word w => exact absurd h (role_word w).1
  | sign c =>
    rw [Lexeme.role] at h
    split_ifs at h with hc
    rw [hc]

theorem eq_of_closing {l : Lexeme} (h : l.role = .closing) : l = .sign ')' := by
  cases l with
  | quoted s => cases h
  | word w => exact absurd h (role_word w).2
  | sign c =>
    rw [Lexeme.role] at h
    split_ifs at h with _ hc
    rw [hc]

theorem stripNots_append {nots : List Lexeme} (body : List Lexeme)
    (hnots : ∀ l ∈ nots, l.role = .not) (hbody : ∀ l ∈ body.head?, l.role ≠ .not) :
    stripNots (nots ++ body) = (nots.length, body) := by
  induction nots with
  | nil =>
    cases body with
    | nil => rfl
    | cons l body => exact if_neg (hbody l rfl)
  | cons l nots ih =>
    obtain ⟨hl, hnots⟩ := List.forall_mem_cons.mp hnots
    rw [List.cons_append, stripNots, if_pos hl, ih hnots]
    rfl

/-! ## Operands -/

/-- The lexemes of an operand, the parentheses that are open in it and whether a range in it lacks
its AND. -/
inductive Shows : Operand → List Lexeme → Nat → Bool → Prop
  | missing : Shows .missing [] 0 false
  | atom {l : Lexeme} {rest : List Lexeme} {depth : Nat} {ranged : Bool} (hl : l.role = .other) :
    Shows (.atom (l :: rest) depth ranged) (l :: rest) depth ranged
  | group {inner : List Lexeme} {φ : Formula} (hinner : predicate? inner = some φ) :
    Shows (.group φ) (.sign '(' :: (inner ++ [.sign ')'])) 0 false

namespace Shows

variable {ls body : List Lexeme} {depth depth' : Nat} {ranged ranged' : Bool}

theorem eq_of_missing (h : Shows .missing body depth ranged) :
    body = [] ∧ depth = 0 ∧ ranged = false := by
  cases h
  exact ⟨rfl, rfl, rfl⟩

theorem eq_of_atom (h : Shows (.atom ls depth ranged) body depth' ranged') :
    depth' = depth ∧ ranged' = ranged := by
  cases h
  exact ⟨rfl, rfl⟩

theorem append (h : Shows (.atom ls depth ranged) body depth ranged) (l : Lexeme) :
    Shows (.atom (ls ++ [l]) depth' ranged') (body ++ [l]) depth' ranged' := by
  cases h with
  | atom hl => exact .atom hl

/-- An operand that may be over is a conjunct, whatever NOTs stand before it. -/
theorem conjunct? {op : Operand} {nots : List Lexeme} {φ : Formula}
    (h : Shows op body depth ranged) (hφ : op.formula? = some φ)
    (hnots : ∀ l ∈ nots, l.role = .not) :
    depth = 0 ∧ ranged = false ∧
      Reading.conjunct? (nots ++ body) = some (negate nots.length φ) := by
  cases h with
  | missing => cases hφ
  | @atom l rest _ _ hl =>
    rw [Operand.formula?] at hφ
    split at hφ
    · next hend =>
      cases hφ
      have hsign : l ≠ .sign '(' := by
        rintro rfl
        cases hl
      have hstrip := stripNots_append (l :: rest) hnots fun m hm => by
        obtain rfl := Option.some.inj hm
        simp [hl]
      refine ⟨hend.1, hend.2, ?_⟩
      unfold Reading.conjunct?
      rw [hstrip]
      simp [enclosed?, hsign, atom?]
    · cases hφ
  | @group inner _ hinner =>
    cases hφ
    have hstrip := stripNots_append (.sign '(' :: (inner ++ [.sign ')'])) hnots
      fun m hm => by
        obtain rfl := Option.some.inj hm
        decide
    refine ⟨rfl, rfl, ?_⟩
    unfold Reading.conjunct?
    rw [hstrip, enclosed?_eq_some_iff.mpr ⟨rfl, isClosed_of_predicate? hinner⟩]
    dsimp only
    rw [hinner]
    rfl

end Shows

/-! ## Frames -/

structure Outlined (o : Outline) (f : Frame) (op : Operand) : Prop where
  alternatives : o.alternatives.mapM alternative? = some f.disjuncts
  conjuncts : o.conjuncts.mapM conjunct? = some f.conjuncts
  current : ∃ nots body, o.current = nots ++ body ∧ nots.length = f.negations ∧
    (∀ l ∈ nots, l.role = .not) ∧ Shows op body o.depth o.ranged

namespace Outlined

variable {o : Outline} {f : Frame} {op op' : Operand} {l : Lexeme} {φ : Formula}

theorem empty : Outlined .empty .empty .missing where
  alternatives := rfl
  conjuncts := rfl
  current := ⟨[], [], rfl, rfl, fun _ => by simp, .missing⟩

theorem goOn (h : Outlined o f op) {depth : Nat} {ranged : Bool}
    (hop : ∀ body, Shows op body o.depth o.ranged → Shows op' (body ++ [l]) depth ranged) :
    Outlined (o.goOn l depth ranged) f op' := by
  obtain ⟨nots, body, hcurrent, hlength, hnots, hshows⟩ := h.current
  refine ⟨h.alternatives, h.conjuncts, nots, body ++ [l], ?_, hlength, hnots, hop body hshows⟩
  rw [← List.append_assoc, ← hcurrent]
  rfl

/-- One more NOT before the operand that is missing. -/
theorem goOn_not (h : Outlined o f .missing) (hl : l.role = .not) :
    Outlined (o.goOn l o.depth o.ranged) { f with negations := f.negations + 1 } .missing := by
  obtain ⟨nots, body, hcurrent, hlength, hnots, hshows⟩ := h.current
  obtain ⟨rfl, -⟩ := hshows.eq_of_missing
  refine ⟨h.alternatives, h.conjuncts, nots ++ [l], [], ?_, ?_, ?_, hshows⟩
  · rw [Outline.goOn, hcurrent, List.append_nil, List.append_nil]
  · rw [List.length_append, hlength, List.length_singleton]
  · exact List.forall_mem_append.mpr ⟨hnots, by simpa using hl⟩

theorem ended (h : Outlined o f op) (hφ : op.formula? = some φ) :
    o.depth = 0 ∧ o.ranged = false ∧ conjunct? o.current = some (negate f.negations φ) := by
  obtain ⟨nots, body, hcurrent, hlength, hnots, hshows⟩ := h.current
  rw [hcurrent, ← hlength]
  exact hshows.conjunct? hφ hnots

theorem mapM_conjuncts (h : Outlined o f op) (hφ : op.formula? = some φ) :
    (o.conjuncts ++ [o.current]).mapM conjunct? = some (f.conjunct φ).conjuncts := by
  rw [List.mapM_append, h.conjuncts, List.mapM_cons, (h.ended hφ).2.2]
  rfl

theorem conjunct (h : Outlined o f op) (hφ : op.formula? = some φ) :
    Outlined o.conjunct (f.conjunct φ) .missing where
  alternatives := h.alternatives
  conjuncts := h.mapM_conjuncts hφ
  current := ⟨[], [], rfl, rfl, fun _ => by simp, .missing⟩

theorem alternative (h : Outlined o f op) (hφ : op.formula? = some φ) :
    Outlined o.alternative (f.conjunct φ).disjunct .missing where
  alternatives := by
    have hlast : alternative? (o.conjuncts ++ [o.current]) =
        some (conj (f.conjunct φ).conjuncts) := by
      rw [alternative?, h.mapM_conjuncts hφ]
      rfl
    rw [Outline.alternative, List.mapM_append, h.alternatives, List.mapM_cons, hlast]
    rfl
  conjuncts := rfl
  current := ⟨[], [], rfl, rfl, fun _ => by simp, .missing⟩

end Outlined

def Level (f : Frame) (op : Operand) (ls : List Lexeme) : Prop :=
  ∃ o, Outline.run .empty ls = some o ∧ Outlined o f op

namespace Level

variable {f f' : Frame} {op op' : Operand} {l : Lexeme} {ls : List Lexeme} {φ : Formula}

theorem empty : Level .empty .missing [] :=
  ⟨_, rfl, .empty⟩

theorem step (h : Level f op ls)
    (hstep : ∀ o, Outlined o f op → ∃ o', o.step l = some o' ∧ Outlined o' f' op') :
    Level f' op' (ls ++ [l]) := by
  obtain ⟨o, hrun, ho⟩ := h
  obtain ⟨o', hstep, ho'⟩ := hstep o ho
  refine ⟨o', ?_, ho'⟩
  rw [Outline.run_append hrun, Outline.run_cons, hstep]
  rfl

theorem predicate? (h : Level f op ls) (hφ : op.formula? = some φ) :
    predicate? ls = some (f.conjunct φ).formula := by
  obtain ⟨o, hrun, ho⟩ := h
  obtain ⟨hdepth, hranged, -⟩ := ho.ended hφ
  exact predicate?_eq_some_iff.mpr
    ⟨_, _, ⟨o, hrun, hdepth, hranged, ho.alternatives, ho.mapM_conjuncts hφ⟩, rfl⟩

/-- A group where an operand is missing. -/
theorem group {inner : List Lexeme} (h : Level f .missing ls)
    (hinner : Reading.predicate? inner = some φ) :
    Level f (.group φ) (ls ++ .sign '(' :: (inner ++ [.sign ')'])) := by
  obtain ⟨o, hrun, ho⟩ := h
  obtain ⟨nots, body, hcurrent, hlength, hnots, hshows⟩ := ho.current
  obtain ⟨rfl, hdepth, hranged⟩ := hshows.eq_of_missing
  refine ⟨⟨o.alternatives, o.conjuncts, nots ++ .sign '(' :: (inner ++ [.sign ')']), 0, false⟩,
    ?_, ho.alternatives, ho.conjuncts, nots, _, rfl, hlength, hnots, .group hinner⟩
  rw [Outline.run_append hrun, Outline.run_group (isClosed_of_predicate? hinner) hdepth, hcurrent,
    hranged, List.append_nil]

end Level

/-! ## Steps -/

/-- What stands after an operand ends it: AND and OR go on with the frame, and a closing
parenthesis makes the frame a group in the one around it. -/
theorem connect_cases {s t : State} {l : Lexeme} (h : s.connect l = some t) :
    ∃ φ, s.operand.formula? = some φ ∧
      ((l.role = .and ∧ t = ⟨s.outer, s.frame.conjunct φ, .missing⟩) ∨
        (l.role = .or ∧ t = ⟨s.outer, (s.frame.conjunct φ).disjunct, .missing⟩) ∨
        (l.role = .closing ∧ ∃ g outer, s.outer = g :: outer ∧
          t = ⟨outer, g, .group (s.frame.conjunct φ).formula⟩)) := by
  unfold State.connect at h
  split at h
  · next f outer hended hrole =>
    obtain ⟨φ, hφ, rfl⟩ := Option.map_eq_some_iff.mp hended
    exact ⟨φ, hφ, Or.inl ⟨hrole, (Option.some.inj h).symm⟩⟩
  · next f outer hended hrole =>
    obtain ⟨φ, hφ, rfl⟩ := Option.map_eq_some_iff.mp hended
    exact ⟨φ, hφ, Or.inr (Or.inl ⟨hrole, (Option.some.inj h).symm⟩)⟩
  · next f g outer hended hrole houter =>
    obtain ⟨φ, hφ, rfl⟩ := Option.map_eq_some_iff.mp hended
    exact ⟨φ, hφ, Or.inr (Or.inr ⟨hrole, g, outer, houter, (Option.some.inj h).symm⟩)⟩
  · cases h

def Outline.GoesOn (l : Lexeme) (depth : Nat) (ranged : Bool) (depth' : Nat) (ranged' : Bool) :
    Prop :=
  ∀ o : Outline, o.depth = depth → o.ranged = ranged → o.step l = some (o.goOn l depth' ranged')

/-- What stands in an atom ends it, or goes on with it as with the conjunct of an outline. -/
theorem extend_cases {s t : State} {ls : List Lexeme} {depth : Nat} {ranged : Bool} {l : Lexeme}
    (h : s.extend ls depth ranged l = some t) :
    s.connect l = some t ∨ ∃ depth' ranged',
      t = ⟨s.outer, s.frame, .atom (ls ++ [l]) depth' ranged'⟩ ∧
        Outline.GoesOn l depth ranged depth' ranged' := by
  have hgoOn : ∀ {depth' : Nat} {ranged' : Bool},
      some (⟨s.outer, s.frame, .atom (ls ++ [l]) depth' ranged'⟩ : State) = some t →
      Outline.GoesOn l depth ranged depth' ranged' → s.connect l = some t ∨ ∃ depth' ranged',
        t = ⟨s.outer, s.frame, .atom (ls ++ [l]) depth' ranged'⟩ ∧
          Outline.GoesOn l depth ranged depth' ranged' :=
    fun ht ho => Or.inr ⟨_, _, (Option.some.inj ht).symm, ho⟩
  -- In parentheses everything goes on with the atom. Outside them a connective ends it, unless the
  -- AND is that of BETWEEN.
  unfold State.extend at h
  cases hrole : l.role with
  | opening =>
    rw [hrole] at h
    exact hgoOn h fun o hdepth _ => by simp [Outline.step, nest?, *]
  | closing =>
    rw [hrole] at h
    cases depth with
    | zero => exact Or.inl h
    | succ depth => exact hgoOn h fun o hdepth _ => by simp [Outline.step, nest?, *]
  | and =>
    rw [hrole] at h
    cases depth with
    | zero =>
      cases ranged with
      | true => exact hgoOn h fun o hdepth hranged => by simp [Outline.step, *]
      | false => exact Or.inl h
    | succ depth => exact hgoOn h fun o hdepth _ => by simp [Outline.step, nest?, *]
  | or =>
    rw [hrole] at h
    cases depth with
    | zero => exact Or.inl h
    | succ depth => exact hgoOn h fun o hdepth _ => by simp [Outline.step, nest?, *]
  | between =>
    rw [hrole] at h
    cases depth with
    | zero => exact hgoOn h fun o hdepth _ => by simp [Outline.step, *]
    | succ depth => exact hgoOn h fun o hdepth _ => by simp [Outline.step, nest?, *]
  | not | other =>
    rw [hrole] at h
    exact hgoOn h fun o hdepth _ => by simp [Outline.step, nest?, *]

/-- The lexemes so far: those of the outer frames, each before an open parenthesis, and those of
the innermost one. -/
inductive Covers : List Frame → Frame → Operand → List Lexeme → Prop
  | innermost {f : Frame} {op : Operand} {ls : List Lexeme} (h : Level f op ls) : Covers [] f op ls
  | within {outer : List Frame} {f g : Frame} {op : Operand} {before ls : List Lexeme}
    (hbefore : Covers outer g .missing before) (h : Level f op ls) :
    Covers (g :: outer) f op (before ++ .sign '(' :: ls)

theorem Covers.map {outer : List Frame} {f f' : Frame} {op op' : Operand} {ls us : List Lexeme}
    (h : Covers outer f op ls) (hlevel : ∀ ls, Level f op ls → Level f' op' (ls ++ us)) :
    Covers outer f' op' (ls ++ us) := by
  cases h with
  | innermost h => exact .innermost (hlevel _ h)
  | within hbefore h =>
    rw [List.append_assoc]
    exact .within hbefore (hlevel _ h)

def State.Covers (s : State) (ls : List Lexeme) : Prop :=
  Reading.Covers s.outer s.frame s.operand ls

theorem covers_connect {s t : State} {l : Lexeme} {ls : List Lexeme} (h : s.Covers ls)
    (hstep : s.connect l = some t) : t.Covers (ls ++ [l]) := by
  obtain ⟨φ, hφ, ⟨hrole, rfl⟩ | ⟨hrole, rfl⟩ | ⟨hrole, g, outer, houter, rfl⟩⟩ :=
    connect_cases hstep
  · refine h.map fun us hus => hus.step fun o ho => ⟨_, ?_, ho.conjunct hφ⟩
    obtain ⟨hdepth, hranged, -⟩ := ho.ended hφ
    simp only [Outline.step, hrole, hdepth, hranged]
  · refine h.map fun us hus => hus.step fun o ho => ⟨_, ?_, ho.alternative hφ⟩
    obtain ⟨hdepth, hranged, -⟩ := ho.ended hφ
    simp only [Outline.step, hrole, hdepth, hranged]
  · unfold State.Covers at h ⊢
    rw [houter] at h
    cases h with
    | within hbefore h =>
      obtain rfl := eq_of_closing hrole
      rw [List.append_assoc]
      exact hbefore.map fun us hus => hus.group (h.predicate? hφ)

theorem covers_begin {s t : State} {l : Lexeme} {ls : List Lexeme} (h : s.Covers ls)
    (hs : s.operand = .missing) (hstep : s.begin l = some t) : t.Covers (ls ++ [l]) := by
  unfold State.Covers at h
  rw [hs] at h
  unfold State.begin at hstep
  split at hstep
  · next hrole =>
    cases hstep
    have hinert : l.isInert = true := by simp [Lexeme.isInert, hrole]
    exact h.map fun us hus => hus.step fun o ho =>
      ⟨_, Outline.step_inert hinert, ho.goOn_not hrole⟩
  · next hrole =>
    cases hstep
    obtain rfl := eq_of_opening hrole
    exact .within h .empty
  · next hrole =>
    cases hstep
    have hinert : l.isInert = true := by simp [Lexeme.isInert, hrole]
    refine h.map fun us hus => hus.step fun o ho => ⟨_, Outline.step_inert hinert, ho.goOn ?_⟩
    intro body hbody
    obtain ⟨rfl, hdepth, hranged⟩ := hbody.eq_of_missing
    rw [hdepth, hranged]
    exact .atom hrole
  · cases hstep

theorem covers_step {s t : State} {l : Lexeme} {ls : List Lexeme} (h : s.Covers ls)
    (hstep : s.step l = some t) : t.Covers (ls ++ [l]) := by
  unfold State.step at hstep
  split at hstep
  · next hs => exact covers_begin h hs hstep
  · next us depth ranged hs =>
    rcases extend_cases hstep with hconnect | ⟨depth', ranged', rfl, hextend⟩
    · exact covers_connect h hconnect
    · unfold State.Covers at h
      rw [hs] at h
      refine h.map fun vs hvs => hvs.step fun o ho => ?_
      obtain ⟨nots, body, -, -, -, hshows⟩ := ho.current
      obtain ⟨hdepth, hranged⟩ := hshows.eq_of_atom
      refine ⟨_, hextend o hdepth hranged, ho.goOn fun body hbody => ?_⟩
      rw [hdepth, hranged] at hbody
      exact hbody.append l
  · exact covers_connect h hstep

theorem covers_run {s t : State} {ls us : List Lexeme} (h : s.Covers ls)
    (hrun : s.run us = some t) : t.Covers (ls ++ us) := by
  induction us generalizing s ls with
  | nil =>
    cases hrun
    rwa [List.append_nil]
  | cons l us ih =>
    unfold State.run at hrun ih
    rw [List.foldlM_cons] at hrun
    obtain ⟨m, hstep, hrun⟩ := Option.bind_eq_some_iff.mp hrun
    have hm := ih (covers_step h hstep) hrun
    rwa [List.append_assoc] at hm

/-- What is read as a condition is the same formula as a predicate. -/
theorem predicate?_of_read {ls : List Lexeme} {φ : Formula} (h : read ls = some φ) :
    predicate? ls = some φ := by
  obtain ⟨s, hrun, h⟩ := Option.bind_eq_some_iff.mp h
  split at h
  · next houter =>
    obtain ⟨f, hended, h⟩ := Option.bind_eq_some_iff.mp h
    cases h
    obtain ⟨ψ, hψ, rfl⟩ := Option.map_eq_some_iff.mp hended
    have hstart : State.Covers ⟨[], .empty, .missing⟩ [] := .innermost .empty
    have hcovers := covers_run hstart hrun
    unfold State.Covers at hcovers
    rw [List.isEmpty_iff.mp houter] at hcovers
    cases hcovers with
    | innermost hlevel => exact hlevel.predicate? hψ
  · cases h

end TerseSql.Reading
