import TerseSql.Proofs.Condition.Rule
import TerseSql.Proofs.Blank.Value
import TerseSql.Proofs.Blank.Condition
import TerseSql.Proofs.Reading.Literal

/-!
# Conditions on a field as operands

Whatever rule writes a condition on a field, its text is one operand: an atom, or the matches
with a list of patterns in parentheses.
-/

namespace TerseSql

open Lexing Reading

/-! ## Formulas of conditions -/

namespace Builtin

variable (b : Builtin)

def atom (s : String) : Formula :=
  .atom (words (((b.rules false).scan s).getD []))

/-- The formula of a condition on a field: matches with the patterns of a list hold together or
are alternatives, anything else is an atom. -/
def conditionFormula? (token : Option String) (field : String) (v : Value) : Option Formula :=
  match b.rule token, v.collapse with
  | .pattern op joiner, .list items =>
    (items.mapM (b.dialect.matchOne op field)).toOption.map fun matches_ =>
      if joiner = Connective.and.separator then .all (matches_.map b.atom)
      else .any (matches_.map b.atom)
  | _, _ => (b.dialect.condition token field v).toOption.map b.atom

end Builtin

namespace Reading

variable {b : Builtin}

theorem atom_of_lexed {s : String} {ls : List Lexeme} (h : Lexed (b.rules false) s ls) :
    b.atom s = .atom ls := by
  obtain ⟨ts, hs, rfl⟩ := h
  unfold Builtin.atom
  rw [hs.scan]
  rfl

/-! ## Texts of rules -/

def isInertText (s : String) : Bool :=
  (words (marks s)).all Lexeme.isInert

def isInertBefore (l : Lexeme) (s : String) : Bool :=
  (words (marks s)).getLast? == some l && (words (marks s)).dropLast.all Lexeme.isInert

/-- What a rule writes between a field and literals goes on with an atom, or opens a
parenthesis or a range in it. -/
def isReadable : Rule → Bool
  | .member op listOp =>
    isInertText (" " ++ op ++ " ") && isInertBefore (.sign '(') (" " ++ listOp ++ " (")
  | .pattern op joiner =>
    isInertText (" " ++ op ++ " ") && (joiner == " AND " || joiner == " OR ")
  | .range op => isInertBefore (.word "BETWEEN") (" " ++ op ++ " ")
  | .null => true
  | .plain op => isInertText (" " ++ op ++ " ")

theorem readable_of_named {rule : Rule} (h : rule ∈ Rule.named) : isReadable rule = true := by
  have hall : ∀ rule ∈ Rule.named, isReadable rule = true := by decide
  exact hall rule h

theorem readable_of_symbolic {token : String} (h : isSymbolic token = true) :
    isReadable (.plain token) = true := by
  unfold isSymbolic at h
  rw [Bool.and_eq_true, List.all_eq_true] at h
  have hsymbol : ∀ c, isSymbol c = true → (c ≠ '(' ∧ c ≠ ')') ∧ isLexical c = false := by
    intro c hc
    have hnot := forall_symbol (p := fun d => !isLexical d) (by decide) hc
    rw [Bool.not_eq_true'] at hnot
    refine ⟨⟨?_, ?_⟩, hnot⟩ <;> rintro rfl <;> cases hc
  have hchar : ∀ c, .mark c ∈ marks (" " ++ token ++ " ") →
      (c ≠ '(' ∧ c ≠ ')') ∧ isLexical c = false := by
    intro c hc
    have hmem := mark_mem_marks hc
    simp only [String.toList_append, List.mem_append] at hmem
    rcases hmem with (hmem | hmem) | hmem
    · rw [List.mem_singleton.mp hmem]
      decide
    · exact hsymbol c (h.2 c hmem)
    · rw [List.mem_singleton.mp hmem]
      decide
  unfold isReadable isInertText
  rw [List.all_eq_true]
  refine inert_of_tokens (fun c hc => (hchar c hc).1) fun c hc hlexical => ?_
  rw [(hchar c hc).2] at hlexical
  cases hlexical

theorem isGap_between (op : String) {tail : String} (h : tail = " " ∨ tail = " (") :
    isGap (" " ++ op ++ tail) = true := by
  have hends : tail.toList ≠ [] ∧ tail.toList.getLast?.any (!isLexical ·) = true := by
    rcases h with rfl | rfl <;> decide
  unfold isGap
  rw [Bool.and_eq_true]
  constructor
  · rw [String.toList_append, String.toList_append]
    rfl
  · rw [String.toList_append, List.getLast?_append]
    cases hlast : tail.toList.getLast? with
    | none => exact absurd (List.getLast?_eq_none_iff.mp hlast) hends.1
    | some c =>
      have hc := hends.2
      rw [hlast] at hc
      exact hc

theorem exists_of_inertBefore {l : Lexeme} {s : String} (h : isInertBefore l s = true) :
    ∃ ls, words (marks s) = ls ++ [l] ∧ ∀ m ∈ ls, m.isInert = true := by
  unfold isInertBefore at h
  rw [Bool.and_eq_true, beq_iff_eq, List.all_eq_true] at h
  obtain ⟨hlast, hall⟩ := h
  obtain ⟨ls, hls⟩ := List.getLast?_eq_some_iff.mp hlast
  rw [hls] at hall ⊢
  rw [List.dropLast_concat] at hall
  exact ⟨ls, rfl, hall⟩

/-! ## Conditions by a rule -/

def IsLiteral (v : Value) : Prop :=
  ∀ x ∈ v.leaves, (∀ sql, x ≠ .raw sql) ∧ ∀ q, x ≠ .query q

theorem IsLiteral.of_mem {items : List Value} (h : IsLiteral (.list items)) {item : Value}
    (hitem : item ∈ items) : IsLiteral item :=
  fun x hx => h x (Value.mem_leaves_list hitem hx)

theorem IsLiteral.of_cons {item : Value} {items : List Value}
    (h : IsLiteral (.list (item :: items))) : IsLiteral (.list items) := by
  intro x hx
  rw [Value.leaves_list] at hx
  obtain ⟨other, hother, hx⟩ := List.mem_flatMap.mp hx
  exact h x (Value.mem_leaves_list (List.mem_cons_of_mem item hother) hx)

theorem IsLiteral.collapse {v : Value} (h : IsLiteral v) : IsLiteral v.collapse := by
  intro x hx
  rw [Value.leaves_collapse] at hx
  exact h x hx

theorem IsLiteral.lexed {v : Value} (hv : IsLiteral v) {s : String}
    (h : b.dialect.literal v = .ok s) :
    ∃ ls, Lexed (b.rules false) s ls ∧ ∀ l ∈ ls, l.isInert = true := by
  cases v with
  | list items =>
    rw [literal_eq] at h
    cases h
  | _ =>
    obtain ⟨hraw, hquery⟩ := hv _ List.mem_cons_self
    exact lexed_literal b h hraw hquery

theorem lexed_literals {items : List Value} (hitems : IsLiteral (.list items)) {ss : List String}
    (h : items.mapM b.dialect.literal = .ok ss) :
    ∃ ls, List.Forall₂ (Lexed (b.rules false)) ss ls ∧ ∀ l ∈ ls, ∀ m ∈ l, m.isInert = true := by
  have hall := Built.forall₂_of_mapM h
  clear h
  induction hall with
  | nil => exact ⟨[], .nil, fun l hl => by cases hl⟩
  | @cons item s items ss hs _ ih =>
    obtain ⟨l, hl, hinert⟩ := (hitems.of_mem List.mem_cons_self).lexed hs
    obtain ⟨ls, hls, hinerts⟩ := ih hitems.of_cons
    refine ⟨l :: ls, .cons hl hls, fun m hm => ?_⟩
    rcases List.mem_cons.mp hm with rfl | hm
    · exact hinert
    · exact hinerts m hm

theorem inert_join {ls : List (List Lexeme)} (h : ∀ l ∈ ls, ∀ m ∈ l, m.isInert = true) :
    ∀ m ∈ List.intercalate (words (marks ",")) ls, m.isInert = true := by
  intro m hm
  rcases mem_of_mem_intercalate hm with hm | ⟨l, hl, hm⟩
  · obtain rfl : m = .sign ',' := List.mem_singleton.mp hm
    rfl
  · exact h l hl m hm

/-! ## Texts that are read -/

def ReadsAtom (b : Builtin) (s : String) : Prop :=
  ∃ ls, Lexed (b.rules false) s ls ∧ IsAtom ls

/-- A text whose lexemes are, by `P`, of a formula that says the same as `φ`. -/
def ReadsBy (P : List Lexeme → Formula → Prop) (b : Builtin) (s : String) (φ : Formula) : Prop :=
  ∃ ls ψ, Lexed (b.rules false) s ls ∧ P ls ψ ∧ ∀ v, ψ.eval v = φ.eval v

theorem ReadsBy.imp {P Q : List Lexeme → Formula → Prop} (h : ∀ ls φ, P ls φ → Q ls φ) {s : String}
    {φ : Formula} (hs : ReadsBy P b s φ) : ReadsBy Q b s φ := by
  obtain ⟨ls, ψ, hlexed, hP, heval⟩ := hs
  exact ⟨ls, ψ, hlexed, h ls ψ hP, heval⟩

theorem ReadsBy.congr {P : List Lexeme → Formula → Prop} {s : String} {φ φ' : Formula}
    (hs : ReadsBy P b s φ) (h : ∀ v, φ.eval v = φ'.eval v) : ReadsBy P b s φ' := by
  obtain ⟨ls, ψ, hlexed, hP, heval⟩ := hs
  exact ⟨ls, ψ, hlexed, hP, fun v => (heval v).trans (h v)⟩

theorem ReadsAtom.operand {s : String} (h : ReadsAtom b s) :
    ReadsBy IsOperand b s (b.atom s) := by
  obtain ⟨ls, hlexed, hatom⟩ := h
  refine ⟨ls, .atom ls, hlexed, hatom.isOperand, fun v => ?_⟩
  rw [atom_of_lexed hlexed]

def gather : Connective → List Formula → Formula
  | .and => .all
  | .or => .any

theorem eval_combine (c : Connective) (v : List Lexeme → Truth) {φs ψs : List Formula}
    (h : List.Forall₂ (fun φ ψ => φ.eval v = ψ.eval v) φs ψs) :
    (combine c φs).eval v = (gather c ψs).eval v := by
  have hall := Formula.evalAll_congr v h
  cases c with
  | and =>
    rw [combine, Formula.eval_conj, gather, Formula.eval, Formula.eval, hall]
  | or =>
    rw [combine, Formula.eval_disj, gather, Formula.eval, Formula.eval, hall]

theorem readsBy_join (c : Connective) {ss : List String} {φs : List Formula}
    (h : List.Forall₂ (ReadsBy IsUnit b) ss φs) (hne : ss ≠ []) :
    ReadsBy IsSentence b (Text.join c.separator ss) (gather c φs) := by
  have hjoin : (b.rules false).isSeparator c.separator = true :=
    isSeparator_of_steady (by cases c <;> decide)
  have hgap : isGap c.separator = true := by cases c <;> decide
  have hkeyword : words (marks c.separator) = [keyword c] := by
    cases c <;> decide
  have hunits : ∃ ls ψs, List.Forall₂ (Lexed (b.rules false)) ss ls ∧
      List.Forall₂ IsUnit ls ψs ∧
      ∀ v, List.Forall₂ (fun φ ψ => φ.eval v = ψ.eval v) ψs φs := by
    clear hne
    induction h with
    | nil => exact ⟨[], [], .nil, .nil, fun _ => .nil⟩
    | cons hfirst _ ih =>
      obtain ⟨l, ψ, hl, hunit, heval⟩ := hfirst
      obtain ⟨ls, ψs, hls, hunits, hevals⟩ := ih
      exact ⟨l :: ls, ψ :: ψs, .cons hl hls, .cons hunit hunits,
        fun v => .cons (heval v) (hevals v)⟩
  obtain ⟨ls, ψs, hls, hunits, hevals⟩ := hunits
  have hsome : ls ≠ [] := by
    rintro rfl
    cases hls
    exact hne rfl
  have htext := Lexed.join hjoin hgap hls
  rw [hkeyword] at htext
  exact ⟨_, _, htext, isSentence_intercalate c hunits hsome, fun v => eval_combine c v (hevals v)⟩

theorem readsBy_parens {s : String} {φ : Formula} (h : ReadsBy IsSentence b s φ) :
    ReadsBy IsOperand b ("(" ++ s ++ ")") φ := by
  have hopen : (b.rules false).isSeparator "(" = true := isSeparator_of_steady (by decide)
  have hclose : (b.rules false).isSeparator ")" = true := isSeparator_of_steady (by decide)
  obtain ⟨ls, ψ, hlexed, hsentence, heval⟩ := h
  have htext := (hlexed.before hopen (by decide)).after hclose (by decide)
  exact ⟨_, ψ, htext, hsentence.isOperand, heval⟩

inductive ReadsAs (b : Builtin) : String → Formula → Prop where
  | atom {s : String} : ReadsAtom b s → ReadsAs b s (b.atom s)
  | matches_ (c : Connective) {ss : List String} : ss ≠ [] → (∀ s ∈ ss, ReadsAtom b s) →
      ReadsAs b ("(" ++ Text.join c.separator ss ++ ")") (gather c (ss.map b.atom))

theorem ReadsAtom.unit {s : String} (h : ReadsAtom b s) : ReadsBy IsUnit b s (b.atom s) :=
  h.operand.imp fun _ _ => IsOperand.isUnit

theorem readsUnit_atoms {ss : List String} (h : ∀ s ∈ ss, ReadsAtom b s) :
    List.Forall₂ (ReadsBy IsUnit b) ss (ss.map b.atom) := by
  rw [List.forall₂_map_right_iff, List.forall₂_same]
  exact fun s hs => (h s hs).unit

theorem ReadsAs.operand {s : String} {φ : Formula} (h : ReadsAs b s φ) :
    ReadsBy IsOperand b s φ := by
  cases h with
  | atom hatom => exact hatom.operand
  | matches_ c hne hatoms => exact readsBy_parens (readsBy_join c (readsUnit_atoms hatoms) hne)

section

variable {field : String} (hfield : ReadsAtom b field)
include hfield

theorem readsAtom_infixed {op : String}
    (hsep : (b.rules false).isSeparator (" " ++ op ++ " ") = true)
    (hop : isInertText (" " ++ op ++ " ") = true) {v : Value} (hv : IsLiteral v) {s : String}
    (h : b.dialect.literal v = .ok s) : ReadsAtom b (field ++ " " ++ op ++ " " ++ s) := by
  obtain ⟨fs, hfield, hatom⟩ := hfield
  obtain ⟨ls, hlexed, hinert⟩ := hv.lexed h
  unfold isInertText at hop
  rw [List.all_eq_true] at hop
  have htext := hfield.joint hsep (isGap_between op (Or.inl rfl)) hlexed
  refine ⟨_, by simpa only [String.append_assoc] using htext, ?_⟩
  exact (hatom.append (continues_inert hop)).append (continues_inert hinert)

theorem readsAtom_membership {op listOp : String}
    (hsep : ∀ sep ∈ (Rule.member op listOp).separators, (b.rules false).isSeparator sep = true)
    (hrule : isReadable (.member op listOp) = true) {v : Value} (hv : IsLiteral v) {s : String}
    (h : b.dialect.membership op listOp field v = .ok s) : ReadsAtom b s := by
  have hop := hsep (" " ++ op ++ " ") (by simp [Rule.separators])
  have hlist := hsep (" " ++ listOp ++ " (") (by simp [Rule.separators])
  have hcomma := hsep "," (by simp [Rule.separators])
  have hclose := hsep ")" (by simp [Rule.separators])
  unfold isReadable at hrule
  rw [Bool.and_eq_true] at hrule
  obtain ⟨hinert, hbefore⟩ := hrule
  -- A single value is compared without parentheses.
  have hscalar : ∀ w : Value, IsLiteral w →
      (do return field ++ " " ++ op ++ " " ++ (← b.dialect.literal w)) = Except.ok s →
      ReadsAtom b s := by
    intro w hw hs
    obtain ⟨t, ht, hs⟩ := Built.exists_of_bind hs
    cases hs
    exact readsAtom_infixed hfield hop hinert hw ht
  unfold Renderer.membership at h
  have hcollapse := hv.collapse
  generalize v.collapse = w at h hcollapse
  cases w with
  | query q => exact absurd rfl ((hcollapse _ List.mem_cons_self).2 q)
  | list items =>
    cases items with
    | nil => cases h
    | cons item rest =>
      have hall : (do
          let literals ← (item :: rest).mapM b.dialect.literal
          return field ++ " " ++ listOp ++ " (" ++ Text.join "," literals ++ ")") =
            Except.ok s := h
      obtain ⟨ss, hliterals, hall⟩ := Built.exists_of_bind hall
      cases hall
      obtain ⟨ls, hls, hinerts⟩ := lexed_literals hcollapse hliterals
      obtain ⟨fs, hfield, hatom⟩ := hfield
      obtain ⟨ks, hks, hkeyword⟩ := exists_of_inertBefore hbefore
      have htext := (hfield.joint hlist (isGap_between listOp (Or.inr rfl))
        (Lexed.join hcomma (by decide) hls)).after hclose (by decide)
      rw [hks] at htext
      refine ⟨_, by simpa only [String.append_assoc] using htext, ?_⟩
      have hparens := (hatom.append (continues_inert hkeyword)).append
        (continues_parens (inert_join hinerts))
      have hclosing : words (marks ")") = [.sign ')'] := rfl
      simpa only [hclosing, List.append_assoc, List.singleton_append, List.cons_append,
        List.nil_append] using hparens
  | _ => exact hscalar _ hcollapse h

theorem readsAtom_matchOne {op : String}
    (hsep : (b.rules false).isSeparator (" " ++ op ++ " ") = true)
    (hop : isInertText (" " ++ op ++ " ") = true) {v : Value} (hv : IsLiteral v) {s : String}
    (h : b.dialect.matchOne op field v = .ok s) : ReadsAtom b s := by
  have hwrapped : IsLiteral v.wrapPattern := by
    cases v with
    | text t =>
      unfold Value.wrapPattern
      dsimp only
      intro x hx
      split at hx <;> obtain rfl := List.mem_singleton.mp hx <;> simp
    | _ => exact hv
  unfold Renderer.matchOne at h
  obtain ⟨t, ht, h⟩ := Built.exists_of_bind h
  cases h
  exact readsAtom_infixed hfield hsep hop hwrapped ht

theorem readsAtom_matches {op : String}
    (hsep : (b.rules false).isSeparator (" " ++ op ++ " ") = true)
    (hop : isInertText (" " ++ op ++ " ") = true) {items : List Value}
    (hitems : IsLiteral (.list items)) {ss : List String}
    (h : items.mapM (b.dialect.matchOne op field) = .ok ss) : ∀ s ∈ ss, ReadsAtom b s := by
  have hall := Built.forall₂_of_mapM h
  clear h
  induction hall with
  | nil => exact List.forall_mem_nil _
  | cons hs _ ih =>
    have hatom := readsAtom_matchOne hfield hsep hop (hitems.of_mem List.mem_cons_self) hs
    exact List.forall_mem_cons.mpr ⟨hatom, ih hitems.of_cons⟩

theorem readsAtom_range {op : String}
    (hsep : ∀ sep ∈ (Rule.range op).separators, (b.rules false).isSeparator sep = true)
    (hrule : isReadable (.range op) = true) {v : Value} (hv : IsLiteral v) {s : String}
    (h : b.dialect.range op field v = .ok s) : ReadsAtom b s := by
  have hop := hsep (" " ++ op ++ " ") (by simp [Rule.separators])
  have hand := hsep " AND " (by simp [Rule.separators])
  unfold Renderer.range at h
  cases v with
  | list items =>
    rcases items with _ | ⟨low, _ | ⟨high, _ | ⟨_, _⟩⟩⟩
    case cons.cons.nil =>
      dsimp only at h
      obtain ⟨t, ht, h⟩ := Built.exists_of_bind h
      obtain ⟨u, hu, h⟩ := Built.exists_of_bind h
      cases h
      obtain ⟨fs, hfield, hatom⟩ := hfield
      obtain ⟨ls, hls, hlow⟩ := (hv.of_mem List.mem_cons_self).lexed ht
      obtain ⟨rs, hrs, hhigh⟩ := (hv.of_mem (List.mem_cons_of_mem _ List.mem_cons_self)).lexed hu
      obtain ⟨ks, hks, hkeyword⟩ := exists_of_inertBefore hrule
      have htext := (hfield.joint hop (isGap_between op (Or.inl rfl)) hls).joint hand
        (by decide) hrs
      rw [hks] at htext
      refine ⟨_, by simpa only [String.append_assoc] using htext, ?_⟩
      have hrange := (hatom.append (continues_inert hkeyword)).append
        (continues_range hlow hhigh)
      have hword : words (marks " AND ") = [.word "AND"] := by decide
      simpa only [hword, List.append_assoc, List.singleton_append, List.cons_append,
        List.nil_append] using hrange
    all_goals cases h
  | _ => cases h

theorem readsAtom_nullTest {v : Value} {s : String} (h : Renderer.nullTest field v = .ok s) :
    ReadsAtom b s := by
  have hspace : (b.rules false).isSeparator " " = true := isSeparator_of_steady (by decide)
  have hnull : Lexed (b.rules false) "IS NULL" [.word "IS", .word "NULL"] :=
    ⟨marks "IS NULL", Spells.calm (calm_of_separator (isSeparator_of_steady (by decide))),
      by decide⟩
  obtain ⟨fs, hfield, hatom⟩ := hfield
  unfold Renderer.nullTest at h
  by_cases hv : v.isNull = true
  · rw [if_pos hv] at h
    cases h
    have htext := hfield.joint hspace (by decide) hnull
    rw [String.append_assoc] at htext
    refine ⟨_, htext, ?_⟩
    exact (hatom.append (continues_inert (by decide))).append (continues_inert (by decide))
  · rw [if_neg hv] at h
    cases h

theorem readsAs_pattern {op joiner : String}
    (hsep : ∀ sep ∈ (Rule.pattern op joiner).separators, (b.rules false).isSeparator sep = true)
    (hrule : isReadable (.pattern op joiner) = true) {token : Option String}
    (htoken : b.rule token = .pattern op joiner) {v : Value} (hv : IsLiteral v) {s : String}
    (hcondition : b.dialect.condition token field v = .ok s)
    (h : b.dialect.pattern op joiner field v = .ok s) :
    ∃ φ, b.conditionFormula? token field v = some φ ∧ ReadsAs b s φ := by
  have hop := hsep (" " ++ op ++ " ") (by simp [Rule.separators])
  unfold isReadable at hrule
  rw [Bool.and_eq_true, Bool.or_eq_true, beq_iff_eq, beq_iff_eq] at hrule
  obtain ⟨hinert, hjoiner⟩ := hrule
  -- Rules join several patterns by the words of a connective only.
  have hc : ∃ c : Connective, joiner = c.separator := by
    rcases hjoiner with rfl | rfl
    · exact ⟨.and, rfl⟩
    · exact ⟨.or, rfl⟩
  obtain ⟨c, rfl⟩ := hc
  unfold Builtin.conditionFormula?
  rw [htoken, hcondition]
  unfold Renderer.pattern at h
  have hcollapse := hv.collapse
  generalize v.collapse = w at h hcollapse ⊢
  cases w with
  | list items =>
    cases items with
    | nil => cases h
    | cons item rest =>
      have hall : (do
          let matches_ ← (item :: rest).mapM (b.dialect.matchOne op field)
          return "(" ++ Text.join c.separator matches_ ++ ")") = Except.ok s := h
      obtain ⟨ss, hmatches, hall⟩ := Built.exists_of_bind hall
      cases hall
      have hsome : ss ≠ [] := by
        rintro rfl
        cases Built.forall₂_of_mapM hmatches
      have hatoms := readsAtom_matches hfield hop hinert hcollapse hmatches
      refine ⟨gather c (ss.map b.atom), ?_, .matches_ c hsome hatoms⟩
      dsimp only
      rw [hmatches]
      cases c <;> rfl
  | _ =>
    exact ⟨b.atom s, rfl, .atom (readsAtom_matchOne hfield hop hinert hcollapse h)⟩

/-- How a condition on a field is written, with the formula that it says. -/
theorem readsAs_condition {token : Option String}
    (hknows : ∀ t, token = some t → b.Knows t) {v : Value} (hv : IsLiteral v) {s : String}
    (h : b.dialect.condition token field v = .ok s) :
    ∃ φ, b.conditionFormula? token field v = some φ ∧ ReadsAs b s φ := by
  have hsep := separates_of_knows hknows
  have hrule : isReadable (b.rule token) = true := by
    rcases rule_cases hknows with hnamed | ⟨t, hsymbolic, hplain⟩
    · exact readable_of_named hnamed
    · rw [hplain]
      exact readable_of_symbolic hsymbolic
  have happly : (b.rule token).apply b.dialect.toRenderer field v = .ok s := by
    rw [← condition_eq hknows]
    exact h
  -- Every rule but that of patterns writes a single atom.
  have hatom : (∀ op joiner, b.rule token ≠ .pattern op joiner) → ReadsAtom b s →
      ∃ φ, b.conditionFormula? token field v = some φ ∧ ReadsAs b s φ := by
    intro hnot hreads
    refine ⟨b.atom s, ?_, .atom hreads⟩
    unfold Builtin.conditionFormula?
    rw [h]
    split
    · next op joiner _ hp _ => exact absurd hp (hnot op joiner)
    · rfl
  cases htoken : b.rule token with
  | member op listOp =>
    rw [htoken] at hsep hrule happly hatom
    exact hatom (by simp) (readsAtom_membership hfield hsep hrule hv happly)
  | pattern op joiner =>
    rw [htoken] at hsep hrule happly
    exact readsAs_pattern hfield hsep hrule htoken hv h happly
  | range op =>
    rw [htoken] at hsep hrule happly hatom
    exact hatom (by simp) (readsAtom_range hfield hsep hrule hv happly)
  | null =>
    rw [htoken] at happly hatom
    exact hatom (by simp) (readsAtom_nullTest hfield happly)
  | plain op =>
    rw [htoken] at hsep hrule happly hatom
    have hop := hsep (" " ++ op ++ " ") (by simp [Rule.separators])
    have hinfix : (do return field ++ " " ++ op ++ " " ++ (← b.dialect.literal v)) =
        Except.ok s := happly
    obtain ⟨t, ht, hinfix⟩ := Built.exists_of_bind hinfix
    cases hinfix
    exact hatom (by simp) (readsAtom_infixed hfield hop hrule hv ht)

theorem readsOperand_condition {token : Option String}
    (hknows : ∀ t, token = some t → b.Knows t) {v : Value} (hv : IsLiteral v) {s : String}
    (h : b.dialect.condition token field v = .ok s) :
    ∃ φ, b.conditionFormula? token field v = some φ ∧ ReadsBy IsOperand b s φ := by
  obtain ⟨φ, hφ, hreads⟩ := readsAs_condition hfield hknows hv h
  exact ⟨φ, hφ, hreads.operand⟩

end

end Reading

end TerseSql
