import Mathlib.Data.List.TakeWhile
import TerseSql.Dialect.Builtin

/-!
# Literals in which a backslash escapes

MySQL reads a text between single quotes in which two quotes are one of the text and a
backslash escapes the character after it. A text is written with its quotes doubled and its
backslashes as they are, so a backslash may take the first of two quotes away from the second
one. The writing is one literal, to its last character, exactly if no backslash of the text
escapes a quote or ends the text (`one_literal_iff`).
-/

namespace TerseSql.Backslash

/-- A character of a literal, by itself or behind the backslash that escapes it. -/
inductive Piece where
  | plain (c : Char)
  | escaped (c : Char)
deriving DecidableEq, Repr

/-- A piece as the text spells it: a backslash sequence is left as it is. -/
def Piece.spell : Piece → List Char
  | plain c => [c]
  | escaped c => ['\\', c]

def spell (ps : List Piece) : List Char :=
  ps.flatMap Piece.spell

/-! ## Reading -/

def readBody : List Char → Option (List Piece × List Char)
  | [] => none
  | [c] => if c = '\x27' then some ([], []) else none
  | c :: d :: rest =>
    if c = '\\' then (readBody rest).map fun (ps, left) => (.escaped d :: ps, left)
    else if c = '\x27' then
      if d = '\x27' then (readBody rest).map fun (ps, left) => (.plain c :: ps, left)
      else some ([], d :: rest)
    else (readBody (d :: rest)).map fun (ps, left) => (.plain c :: ps, left)

def read (s : String) : Option (List Piece × List Char) :=
  match s.toList with
  | '\x27' :: rest => readBody rest
  | _ => none

/-! ## What writing makes of a text -/

def Piece.IsStable : Piece → Prop
  | plain c => c ≠ '\\'
  | escaped c => c ≠ '\x27'

/-- What is read where the characters of a text stand, with its quotes doubled and one behind
it. Up to the first backslash that escapes a quote or ends the text, pieces are stable. Of
the quotes behind that backslash the first is escaped, and the others make pairs with one
left over, which pairs with the closing one or ends the literal too early. -/
inductive Outcome (s : List Char) : Option (List Piece × List Char) → Prop where
  | whole {ps : List Piece} : (∀ p ∈ ps, p.IsStable) → s = spell ps → Outcome s (some (ps, []))
  | endless {ps : List Piece} {n : Nat} : (∀ p ∈ ps, p.IsStable) →
    s = spell ps ++ '\\' :: List.replicate n '\x27' → Outcome s none
  | early {ps : List Piece} {n : Nat} {c : Char} {rest : List Char} :
    (∀ p ∈ ps, p.IsStable) → c ≠ '\x27' →
    s = spell ps ++ '\\' :: (List.replicate (n + 1) '\x27' ++ c :: rest) →
    Outcome s (some (ps ++ .escaped '\x27' :: List.replicate n (.plain '\x27'),
      Text.double '\x27' (c :: rest) ++ ['\x27']))

theorem Outcome.cons {s : List Char} {p : Piece} {o : Option (List Piece × List Char)}
    (hp : p.IsStable) (h : Outcome s o) : ∃ o', Outcome (p.spell ++ s) o' := by
  have hcons : ∀ {ps : List Piece}, (∀ q ∈ ps, q.IsStable) → ∀ q ∈ p :: ps, q.IsStable :=
    fun hps => List.forall_mem_cons.mpr ⟨hp, hps⟩
  cases h with
  | whole hps hs => exact ⟨_, .whole (hcons hps) (by rw [hs]; rfl)⟩
  | endless hps hs =>
    exact ⟨_, .endless (hcons hps) (by rw [hs, ← List.append_assoc]; rfl)⟩
  | early hps hc hs =>
    exact ⟨_, .early (hcons hps) hc (by rw [hs, ← List.append_assoc]; rfl)⟩

theorem forall_stable_nil : ∀ p ∈ ([] : List Piece), p.IsStable :=
  fun _ hp => nomatch hp

/-- The quotes behind the first one that a backslash escapes are counted. -/
theorem exists_outcome_quote (rest : List Char) : ∃ o, Outcome ('\\' :: '\x27' :: rest) o := by
  have hquotes : rest.takeWhile (· = '\x27') =
      List.replicate (rest.takeWhile (· = '\x27')).length '\x27' :=
    List.eq_replicate_of_mem fun c hc => by simpa using List.mem_takeWhile_imp hc
  have hrest : rest.takeWhile (· = '\x27') ++ rest.dropWhile (· = '\x27') = rest :=
    List.takeWhile_append_dropWhile
  generalize (rest.takeWhile (· = '\x27')).length = n at hquotes
  rw [hquotes] at hrest
  cases hdrop : rest.dropWhile (· = '\x27') with
  | nil =>
    have htext : '\\' :: '\x27' :: rest = spell [] ++ '\\' :: List.replicate (n + 1) '\x27' := by
      rw [← hrest, hdrop, List.append_nil]
      rfl
    exact ⟨_, .endless forall_stable_nil htext⟩
  | cons c left =>
    have hc : c ≠ '\x27' := by
      have hhead := List.head?_dropWhile_not (· = '\x27') rest
      rw [hdrop] at hhead
      simpa using hhead
    have htext : '\\' :: '\x27' :: rest =
        spell [] ++ '\\' :: (List.replicate (n + 1) '\x27' ++ c :: left) := by
      rw [← hrest, hdrop]
      rfl
    exact ⟨_, .early forall_stable_nil hc htext⟩

theorem exists_outcome : ∀ s : List Char, ∃ o, Outcome s o
  | [] => ⟨_, .whole forall_stable_nil rfl⟩
  | [c] => by
    by_cases hc : c = '\\'
    · have htext : [c] = spell [] ++ '\\' :: List.replicate 0 '\x27' := by rw [hc]; rfl
      exact ⟨_, .endless forall_stable_nil htext⟩
    · have hnil : Outcome [] (some ([], [])) := .whole forall_stable_nil rfl
      exact hnil.cons (p := .plain c) hc
  | c :: d :: rest => by
    by_cases hc : c = '\\'
    · rw [hc]
      by_cases hd : d = '\x27'
      · rw [hd]
        exact exists_outcome_quote rest
      · obtain ⟨o, ho⟩ := exists_outcome rest
        exact ho.cons (p := .escaped d) hd
    · obtain ⟨o, ho⟩ := exists_outcome (d :: rest)
      exact ho.cons (p := .plain c) hc

/-! ## Reading it -/

theorem readBody_plain {c : Char} (hslash : c ≠ '\\') (hquote : c ≠ '\x27') (cs : List Char) :
    readBody (c :: cs) = (readBody cs).map fun (ps, left) => (.plain c :: ps, left) := by
  cases cs with
  | nil => simp [readBody, hquote]
  | cons d rest => rw [readBody, if_neg hslash, if_neg hquote]

theorem readBody_quotes (cs : List Char) :
    readBody ('\x27' :: '\x27' :: cs) =
      (readBody cs).map fun (ps, left) => (.plain '\x27' :: ps, left) := by
  rw [readBody, if_neg (by decide), if_pos rfl, if_pos rfl]

theorem readBody_piece {p : Piece} (hp : p.IsStable) (cs : List Char) :
    readBody (Text.double '\x27' p.spell ++ cs) =
      (readBody cs).map fun (ps, left) => (p :: ps, left) := by
  cases p with
  | plain c =>
    by_cases hc : c = '\x27'
    · rw [hc]
      exact readBody_quotes cs
    · have hspell : Text.double '\x27' (Piece.plain c).spell = [c] := by
        simp [Piece.spell, Text.double, hc]
      rw [hspell]
      exact readBody_plain hp hc cs
  | escaped c =>
    have hc : c ≠ '\x27' := hp
    have hspell : Text.double '\x27' (Piece.escaped c).spell = ['\\', c] := by
      simp [Piece.spell, Text.double, hc]
    rw [hspell]
    exact if_pos rfl

/-- Stable pieces are read as they are, whatever follows. -/
theorem readBody_stable {ps : List Piece} (h : ∀ p ∈ ps, p.IsStable) (cs : List Char) :
    readBody (Text.double '\x27' (spell ps) ++ cs) =
      (readBody cs).map fun (qs, left) => (ps ++ qs, left) := by
  induction ps with
  | nil => exact Option.map_id'.symm
  | cons p ps ih =>
    obtain ⟨hp, hps⟩ := List.forall_mem_cons.mp h
    have hspell : spell (p :: ps) = p.spell ++ spell ps := rfl
    rw [hspell, Text.double_append, List.append_assoc, readBody_piece hp, ih hps, Option.map_map]
    rfl

/-- After an escaped quote the second of its pair goes with the next one, and so on: one quote
is left over. -/
theorem readBody_shifted (n : Nat) (cs : List Char) :
    readBody ('\x27' :: (Text.double '\x27' (List.replicate n '\x27') ++ cs)) =
      (readBody ('\x27' :: cs)).map fun (qs, left) =>
        (List.replicate n (.plain '\x27') ++ qs, left) := by
  induction n with
  | zero => exact Option.map_id'.symm
  | succ n ih =>
    have hdouble : Text.double '\x27' (List.replicate (n + 1) '\x27') =
        '\x27' :: '\x27' :: Text.double '\x27' (List.replicate n '\x27') := rfl
    rw [hdouble, List.cons_append, List.cons_append, readBody_quotes, ih, Option.map_map]
    rfl

theorem readBody_escape (n : Nat) (cs : List Char) :
    readBody ('\\' :: (Text.double '\x27' (List.replicate (n + 1) '\x27') ++ cs)) =
      (readBody ('\x27' :: cs)).map fun (qs, left) =>
        (.escaped '\x27' :: (List.replicate n (.plain '\x27') ++ qs), left) := by
  have hdouble : Text.double '\x27' (List.replicate (n + 1) '\x27') =
      '\x27' :: '\x27' :: Text.double '\x27' (List.replicate n '\x27') := rfl
  rw [hdouble, List.cons_append, List.cons_append, readBody, if_pos rfl, readBody_shifted,
    Option.map_map]
  rfl

theorem readBody_of_outcome {s : List Char} {o : Option (List Piece × List Char)}
    (h : Outcome s o) : readBody (Text.double '\x27' s ++ ['\x27']) = o := by
  have hslash : ∀ cs : List Char,
      Text.double '\x27' ('\\' :: cs) = '\\' :: Text.double '\x27' cs := fun _ => rfl
  cases h with
  | @whole ps hps hs =>
    rw [hs, readBody_stable hps]
    simp [readBody]
  | @endless ps n hps hs =>
    rw [hs, Text.double_append, List.append_assoc, readBody_stable hps, hslash, List.cons_append]
    cases n with
    | zero => rfl
    | succ n =>
      rw [readBody_escape, readBody_quotes]
      rfl
  | @early ps n c rest hps hc hs =>
    have hclose : readBody ('\x27' :: (Text.double '\x27' (c :: rest) ++ ['\x27'])) =
        some ([], Text.double '\x27' (c :: rest) ++ ['\x27']) := by
      simp [readBody, Text.double, hc]
    rw [hs, Text.double_append, List.append_assoc, readBody_stable hps, hslash, Text.double_append,
      List.cons_append, List.append_assoc, readBody_escape, hclose]
    simp

theorem readBody_eq_iff {s : List Char} {o : Option (List Piece × List Char)} :
    readBody (Text.double '\x27' s ++ ['\x27']) = o ↔ Outcome s o := by
  refine ⟨?_, readBody_of_outcome⟩
  rintro rfl
  obtain ⟨o, ho⟩ := exists_outcome s
  rwa [readBody_of_outcome ho]

/-! ## One literal -/

theorem outcome_whole_iff {s : List Char} {ps : List Piece} :
    Outcome s (some (ps, [])) ↔ (∀ p ∈ ps, p.IsStable) ∧ spell ps = s := by
  constructor
  · intro h
    generalize ho : some (ps, []) = o at h
    cases h with
    | whole hps hs =>
      cases ho
      exact ⟨hps, hs.symm⟩
    | endless => cases ho
    | early => simp at ho
  · rintro ⟨hps, hs⟩
    exact .whole hps hs.symm

theorem outcome_endless_iff {s : List Char} :
    Outcome s none ↔ ∃ ps n, (∀ p ∈ ps, p.IsStable) ∧
      s = spell ps ++ '\\' :: List.replicate n '\x27' := by
  constructor
  · intro h
    generalize ho : none = o at h
    cases h with
    | @endless ps n hps hs => exact ⟨ps, n, hps, hs⟩
    | whole => cases ho
    | early => cases ho
  · rintro ⟨ps, n, hps, hs⟩
    exact .endless hps hs

theorem outcome_early_iff {s left : List Char} {qs : List Piece} {c : Char} :
    Outcome s (some (qs, c :: left)) ↔ ∃ ps n rest, (∀ p ∈ ps, p.IsStable) ∧ c ≠ '\x27' ∧
      s = spell ps ++ '\\' :: (List.replicate (n + 1) '\x27' ++ c :: rest) ∧
        qs = ps ++ Piece.escaped '\x27' :: List.replicate n (Piece.plain '\x27') ∧
        left = Text.double '\x27' rest ++ ['\x27'] := by
  constructor
  · intro h
    generalize ho : some (qs, c :: left) = o at h
    cases h with
    | whole => cases ho
    | endless => cases ho
    | @early ps n d rest hps hd hs =>
      simp only [Text.double, if_neg hd, List.cons_append, Option.some.injEq, Prod.mk.injEq,
        List.cons.injEq] at ho
      obtain ⟨rfl, rfl, rfl⟩ := ho
      exact ⟨ps, n, rest, hps, hd, hs, rfl, rfl⟩
  · rintro ⟨ps, n, rest, hps, hc, hs, rfl, rfl⟩
    have h := Outcome.early hps hc hs
    simpa [Text.double, hc] using h

theorem read_quoted (s : String) :
    read (textLiteral false s) = readBody (Text.double '\x27' s.toList ++ ['\x27']) := by
  have htext : (textLiteral false s).toList =
      '\x27' :: (Text.double '\x27' s.toList ++ ['\x27']) := by
    simp [textLiteral, Text.quoted]
  unfold read
  simp only [htext]

/-- The writing of a text is one literal that ends with it, and spells the text up to its
backslash sequences, exactly if the text is made of stable pieces. Otherwise take the first
backslash that escapes a quote or ends the text: if only quotes follow it, the literal has no
end, and if there is more, the literal ends behind them and the rest of the text is read
outside of it. -/
theorem one_literal_iff (s : String) :
    ∃ text, Builtin.mysql.dialect.literal (.text s) = .ok text ∧
      (∀ ps, read text = some (ps, []) ↔
        (∀ p ∈ ps, p.IsStable) ∧ spell ps = s.toList) ∧
      (read text = none ↔ ∃ ps n, (∀ p ∈ ps, p.IsStable) ∧
        s.toList = spell ps ++ '\\' :: List.replicate n '\x27') ∧
      ∀ qs c left, read text = some (qs, c :: left) ↔ ∃ ps n rest,
        (∀ p ∈ ps, p.IsStable) ∧ c ≠ '\x27' ∧
          s.toList = spell ps ++ '\\' :: (List.replicate (n + 1) '\x27' ++ c :: rest) ∧
          qs = ps ++ .escaped '\x27' :: List.replicate n (.plain '\x27') ∧
          left = Text.double '\x27' rest ++ ['\x27'] := by
  refine ⟨textLiteral false s, rfl, fun ps => ?_, ?_, fun qs c left => ?_⟩
  · rw [read_quoted, readBody_eq_iff, outcome_whole_iff]
  · rw [read_quoted, readBody_eq_iff, outcome_endless_iff]
  · rw [read_quoted, readBody_eq_iff, outcome_early_iff]

/-- A quote behind a backslash ends the literal, and what follows is read as SQL. -/
example : read "'\\'' OR 1=1 -- '" = some ([.escaped '\x27'], " OR 1=1 -- '".toList) := by
  decide

end TerseSql.Backslash
