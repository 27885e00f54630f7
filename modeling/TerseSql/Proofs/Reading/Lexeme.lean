import TerseSql.Proofs.Lexing.Term

/-!
# Lexemes

A reader of conditions takes names and texts in quotes as units, puts characters that make a
word together, and passes over white space. Every other character is a sign by itself.
-/

namespace TerseSql.Reading

open Lexing

inductive Lexeme where
  | quoted (t : Token)
  | word (w : String)
  | sign (c : Char)
deriving DecidableEq, Repr

/-- The word that is being read, the latest character first. -/
def flush (read : List Char) : List Lexeme :=
  if read.isEmpty then [] else [.word (String.ofList read.reverse)]

def wordsFrom (read : List Char) : List Token → List Lexeme
  | [] => flush read
  | .mark c :: ts =>
    if isLexical c then wordsFrom (c :: read) ts
    else if Text.isBlank c then flush read ++ wordsFrom [] ts
    else flush read ++ .sign c :: wordsFrom [] ts
  | t :: ts => flush read ++ .quoted t :: wordsFrom [] ts

def words (ts : List Token) : List Lexeme :=
  wordsFrom [] ts

/-! ## Where words end -/

def breaksWord : Token → Bool
  | .mark c => !isLexical c
  | _ => true

theorem wordsFrom_of_breaks {t : Token} (h : breaksWord t = true) (read : List Char)
    (ts : List Token) : wordsFrom read (t :: ts) = flush read ++ wordsFrom [] (t :: ts) := by
  cases t with
  | mark c =>
    have hc : isLexical c = false := by simpa [breaksWord] using h
    simp only [wordsFrom, hc, Bool.false_eq_true, if_false]
    by_cases hblank : Text.isBlank c = true
    · simp [hblank, flush]
    · simp [hblank, flush]
  | _ => simp [wordsFrom, flush]

/-- Before a token that is no part of a word, lexemes are over. -/
theorem wordsFrom_append_breaks {t : Token} (h : breaksWord t = true) (read : List Char)
    (ts us : List Token) :
    wordsFrom read (ts ++ t :: us) = wordsFrom read ts ++ wordsFrom [] (t :: us) := by
  induction ts generalizing read with
  | nil => exact wordsFrom_of_breaks h read us
  | cons x ts ih =>
    cases x with
    | mark c =>
      simp only [List.cons_append, wordsFrom, ih]
      by_cases hc : isLexical c = true
      · simp [hc]
      · by_cases hblank : Text.isBlank c = true
        · simp [hc, hblank]
        · simp [hc, hblank]
    | _ => simp [wordsFrom, ih]

/-- After a token that is no part of a word, lexemes start anew. -/
theorem wordsFrom_breaks_append {t : Token} (h : breaksWord t = true) (read : List Char)
    (ts us : List Token) :
    wordsFrom read (ts ++ t :: us) = wordsFrom read (ts ++ [t]) ++ wordsFrom [] us := by
  have hlast : ∀ us, wordsFrom [] (t :: us) = wordsFrom [] [t] ++ wordsFrom [] us := by
    intro us
    cases t with
    | mark c =>
      have hc : isLexical c = false := by simpa [breaksWord] using h
      simp only [wordsFrom, hc, Bool.false_eq_true, if_false]
      by_cases hblank : Text.isBlank c = true
      · simp [hblank, flush]
      · simp [hblank, flush]
    | _ => simp [wordsFrom, flush]
  rw [wordsFrom_append_breaks h, wordsFrom_append_breaks h, hlast us, List.append_assoc]

/-- A text that starts and ends with characters of no word. -/
def isGap (s : String) : Bool :=
  s.toList.head?.any (!isLexical ·) && s.toList.getLast?.any (!isLexical ·)

theorem words_gap {gap : String} (h : isGap gap = true) (ts us : List Token) :
    words (ts ++ marks gap ++ us) = words ts ++ words (marks gap) ++ words us := by
  unfold isGap at h
  rw [Bool.and_eq_true] at h
  obtain ⟨hhead, hlast⟩ := h
  obtain ⟨first, hfirst, hbreaks⟩ := Option.any_eq_true _ _ |>.mp hhead
  obtain ⟨last, hlast, hends⟩ := Option.any_eq_true _ _ |>.mp hlast
  obtain ⟨tail, htail⟩ := List.head?_eq_some_iff.mp hfirst
  obtain ⟨init, hinit⟩ := List.getLast?_eq_some_iff.mp hlast
  have hleft : ∀ vs, words (ts ++ (marks gap ++ vs)) = words ts ++ words (marks gap ++ vs) := by
    intro vs
    unfold marks
    rw [htail]
    exact wordsFrom_append_breaks (t := .mark first) hbreaks [] ts _
  have hright : words (marks gap ++ us) = words (marks gap) ++ words us := by
    unfold marks
    rw [hinit, List.map_append, List.append_assoc]
    exact wordsFrom_breaks_append (t := .mark last) hends [] _ us
  rw [List.append_assoc, hleft, hright, List.append_assoc]

theorem words_parens (ts : List Token) :
    words (Token.mark '(' :: (ts ++ [Token.mark ')'])) =
      Lexeme.sign '(' :: (words ts ++ [Lexeme.sign ')']) := by
  have hopen : isGap "(" = true := by decide
  have hclose : isGap ")" = true := by decide
  have hgap := words_gap hopen [] (ts ++ [Token.mark ')'])
  have hgap' := words_gap hclose ts []
  have hopening : words (marks "(") = [.sign '('] := rfl
  have hclosing : words (marks ")") = [.sign ')'] := rfl
  have hnil : words [] = [] := rfl
  rw [hopening, hnil] at hgap
  rw [hclosing, hnil, List.append_nil, List.append_nil] at hgap'
  exact hgap.trans (congrArg (Lexeme.sign '(' :: ·) hgap')

/-! ## Texts as lexemes -/

def Lexed (r : Rules) (s : String) (ls : List Lexeme) : Prop :=
  ∃ ts, Spells r s ts ∧ words ts = ls

namespace Lexed

variable {r : Rules} {s t : String} {a b : List Lexeme}

theorem empty : Lexed r "" [] :=
  ⟨[], Spells.empty, rfl⟩

theorem joint (hs : Lexed r s a) {gap : String} (hsep : r.isSeparator gap = true)
    (hgap : isGap gap = true) (ht : Lexed r t b) :
    Lexed r (s ++ gap ++ t) (a ++ words (marks gap) ++ b) := by
  obtain ⟨ts, hs, rfl⟩ := hs
  obtain ⟨us, ht, rfl⟩ := ht
  exact ⟨_, hs.joint hsep ht, words_gap hgap ts us⟩

theorem before {gap : String} (hsep : r.isSeparator gap = true) (hgap : isGap gap = true)
    (ht : Lexed r t b) : Lexed r (gap ++ t) (words (marks gap) ++ b) := by
  have hjoint := empty.joint hsep hgap ht
  rwa [String.empty_append, List.nil_append] at hjoint

theorem after (hs : Lexed r s a) {gap : String} (hsep : r.isSeparator gap = true)
    (hgap : isGap gap = true) : Lexed r (s ++ gap) (a ++ words (marks gap)) := by
  have hjoint := hs.joint hsep hgap empty
  rwa [String.append_empty, List.append_nil] at hjoint

theorem join {gap : String} (hsep : r.isSeparator gap = true) (hgap : isGap gap = true)
    {ss : List String} {ls : List (List Lexeme)} (h : List.Forall₂ (Lexed r) ss ls) :
    Lexed r (Text.join gap ss) (List.intercalate (words (marks gap)) ls) := by
  induction h with
  | nil => exact empty
  | @cons s l ss ls hs hrest ih =>
    cases hrest with
    | nil => simpa [Text.join] using hs
    | @cons t m ss ls ht hrest =>
      rw [Text.join, List.intercalate_cons_cons]
      exact hs.joint hsep hgap ih

end Lexed

/-! ## What is in lexemes -/

theorem mem_flush {read : List Char} {l : Lexeme} (h : l ∈ flush read) :
    read ≠ [] ∧ l = .word (String.ofList read.reverse) := by
  unfold flush at h
  by_cases hread : read.isEmpty = true
  · rw [if_pos hread] at h
    cases h
  · rw [if_neg hread] at h
    exact ⟨fun hnil => hread (by rw [hnil]; rfl), List.mem_singleton.mp h⟩

def ComesFrom (read : List Char) (ts : List Token) : Lexeme → Prop
  | .quoted _ => True
  | .sign c => .mark c ∈ ts
  | .word w => w.toList ≠ [] ∧
      ∀ c ∈ w.toList, c ∈ read ∨ .mark c ∈ ts ∧ isLexical c = true

theorem comesFrom_of_mem_flush {read : List Char} {l : Lexeme} (h : l ∈ flush read)
    (ts : List Token) : ComesFrom read ts l := by
  obtain ⟨hread, rfl⟩ := mem_flush h
  rw [ComesFrom, String.toList_ofList]
  exact ⟨by simpa using hread, fun c hc => Or.inl (List.mem_reverse.mp hc)⟩

theorem ComesFrom.cons {ts : List Token} {l : Lexeme}
    (h : ComesFrom [] ts l) (read : List Char) (t : Token) : ComesFrom read (t :: ts) l := by
  cases l with
  | quoted u => exact trivial
  | sign c => exact List.mem_cons_of_mem t h
  | word w =>
    refine ⟨h.1, fun c hc => Or.inr ?_⟩
    rcases h.2 c hc with hread | hmark
    · cases hread
    · exact ⟨List.mem_cons_of_mem t hmark.1, hmark.2⟩

theorem comesFrom_of_mem {ts : List Token} {read : List Char} {l : Lexeme}
    (h : l ∈ wordsFrom read ts) : ComesFrom read ts l := by
  -- A word may have been begun before the tokens, so the induction is for any that was.
  induction ts generalizing read with
  | nil => exact comesFrom_of_mem_flush h []
  | cons t ts ih =>
    cases t with
    | mark c =>
      rw [wordsFrom] at h
      by_cases hc : isLexical c = true
      · rw [if_pos hc] at h
        have hrest := ih h
        cases l with
        | quoted u => exact trivial
        | sign d => exact List.mem_cons_of_mem _ hrest
        | word w =>
          refine ⟨hrest.1, fun d hd => ?_⟩
          rcases hrest.2 d hd with hread | hmark
          · rcases List.mem_cons.mp hread with rfl | hread
            · exact Or.inr ⟨List.mem_cons_self, hc⟩
            · exact Or.inl hread
          · exact Or.inr ⟨List.mem_cons_of_mem _ hmark.1, hmark.2⟩
      · rw [if_neg hc] at h
        by_cases hblank : Text.isBlank c = true
        · rw [if_pos hblank] at h
          rcases List.mem_append.mp h with h | h
          · exact comesFrom_of_mem_flush h _
          · exact (ih h).cons read _
        · rw [if_neg hblank] at h
          rcases List.mem_append.mp h with h | h
          · exact comesFrom_of_mem_flush h _
          · rcases List.mem_cons.mp h with rfl | h
            · exact List.mem_cons_self
            · exact (ih h).cons read _
    | _ =>
      rw [wordsFrom] at h
      · rcases List.mem_append.mp h with h | h
        · exact comesFrom_of_mem_flush h _
        · rcases List.mem_cons.mp h with rfl | h
          · exact trivial
          · exact (ih h).cons read _
      · simp

theorem comesFrom_of_mem_words {ts : List Token} {l : Lexeme} (h : l ∈ words ts) :
    ComesFrom [] ts l :=
  comesFrom_of_mem h

end TerseSql.Reading
