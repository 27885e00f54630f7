import Mathlib.Data.List.Chain
import TerseSql.Lexicon

/-!
# Tokens of a text

How a server takes a text apart: names between the marks of the dialect, text between single
quotes, comments, and every other character by itself. A closing mark that is written twice
is one that belongs to the name or the text.
-/

namespace TerseSql.Lexing

/-- What differs between dialects. `national` says whether an `N` directly before a quoted
text belongs to it, `comments` whether two dashes open a comment to the end of the line and a
slash with a star one that the reverse closes. -/
structure Rules where
  delimiters : Delimiters
  national : Bool
  comments : Bool

inductive Token where
  | name (s : String)
  | literal (national : Bool) (s : String)
  | mark (c : Char)
  | comment (s : String)
deriving DecidableEq, Repr

/-- What has been read of the token at hand, the latest character first. A token is `Closed`
where it may be over: only a mark that continues it makes it longer. -/
inductive Mode where
  | start
  | mark (c : Char)
  | name (read : List Char)
  | nameClosed (read : List Char)
  | literal (national : Bool) (read : List Char)
  | literalClosed (national : Bool) (read : List Char)
  | line (read : List Char)
  | block (read : List Char)
  | blockStar (read : List Char)
  | blockClosed (read : List Char)
deriving DecidableEq, Repr

namespace Mode

def finish : Mode → Option (List Token)
  | start => some []
  | mark c => some [.mark c]
  | nameClosed read => some [.name (String.ofList read.reverse)]
  | literalClosed n read => some [.literal n (String.ofList read.reverse)]
  | line read | blockClosed read => some [.comment (String.ofList read.reverse)]
  | name _ | literal _ _ | block _ | blockStar _ => none

def isComment : Mode → Bool
  | line _ | block _ | blockStar _ => true
  | _ => false

end Mode

namespace Rules

variable (r : Rules)

def opened (c : Char) : Mode :=
  if c = '\x27' then .literal false []
  else if c = r.delimiters.opening then .name []
  else .mark c

def continued (m : Mode) (c : Char) : Option Mode :=
  match m with
  | .start => none
  | .mark d =>
    if r.national ∧ d = 'N' ∧ c = '\x27' then some (.literal true [])
    else if r.comments ∧ d = '-' ∧ c = '-' then some (.line [])
    else if r.comments ∧ d = '/' ∧ c = '*' then some (.block [])
    else none
  | .name read =>
    if c = r.delimiters.closing then some (.nameClosed read) else some (.name (c :: read))
  | .nameClosed read => if c = r.delimiters.closing then some (.name (c :: read)) else none
  | .literal n read =>
    if c = '\x27' then some (.literalClosed n read) else some (.literal n (c :: read))
  | .literalClosed n read => if c = '\x27' then some (.literal n (c :: read)) else none
  | .line read => if c = '\n' then none else some (.line (c :: read))
  | .block read => if c = '*' then some (.blockStar read) else some (.block (c :: read))
  | .blockStar read =>
    if c = '/' then some (.blockClosed read)
    else if c = '*' then some (.blockStar ('*' :: read))
    else some (.block (c :: '*' :: read))
  | .blockClosed _ => none

def step (m : Mode) (c : Char) : Mode :=
  (r.continued m c).getD (r.opened c)

def modeAfter (m : Mode) (cs : List Char) : Mode :=
  cs.foldl r.step m

/-- The tokens of the token at hand and the text that follows, unless the text ends within a
name, a quoted text or a comment that is to be closed. -/
def tokensFrom (m : Mode) : List Char → Option (List Token)
  | [] => m.finish
  | c :: cs =>
    match r.continued m c with
    | some m' => tokensFrom m' cs
    | none => do return (← m.finish) ++ (← tokensFrom (r.opened c) cs)

def scan (s : String) : Option (List Token) :=
  r.tokensFrom .start s.toList

/-- Whether what follows a text stands in a comment that the text opens. -/
def hides (s : String) : Bool :=
  (r.modeAfter .start s.toList).isComment

end Rules

/-! ## Writing tokens -/

namespace Token

def write (r : Rules) : Token → List Char
  | name s => r.delimiters.opening :: Text.double r.delimiters.closing s.toList ++
      [r.delimiters.closing]
  | literal n s => (if n then ['N'] else []) ++ '\x27' :: Text.double '\x27' s.toList ++ ['\x27']
  | mark c => [c]
  | comment s => s.toList

def first (r : Rules) : Token → Char
  | name _ => r.delimiters.opening
  | literal n _ => if n then 'N' else '\x27'
  | mark c => c
  | comment _ => ' '

def closed : Token → Mode
  | name s => .nameClosed s.toList.reverse
  | literal n s => .literalClosed n s.toList.reverse
  | mark c => .mark c
  | comment s => .blockClosed s.toList.reverse

theorem finish_closed (t : Token) : t.closed.finish = some [t] := by
  cases t <;> simp [closed, Mode.finish]

end Token

def isDelimiter (c : Char) : Bool :=
  c == '\x27' || c == '"' || c == '\x60' || c == '[' || c == ']'

namespace Rules

variable (r : Rules)

/-- Tokens that can be written as they are: a mark is no delimiter, an `N` before a text is
one that the rules know, and comments are left out. -/
def Writes : Token → Prop
  | .name _ => True
  | .literal n _ => n = true → r.national = true
  | .mark c => isDelimiter c = false
  | .comment _ => False

def write (ts : List Token) : List Char :=
  ts.flatMap (Token.write r)

/-- Each token can be written, and none goes on with the first character of the next. -/
structure Fits (ts : List Token) : Prop where
  writes : ∀ t ∈ ts, r.Writes t
  chain : ts.IsChain fun t u => r.continued t.closed (u.first r) = none

end Rules

/-! ## Reading what was written -/

section

variable {r : Rules}

theorem opened_opening : r.opened r.delimiters.opening = .name [] := by
  unfold Rules.opened
  cases r.delimiters <;> rfl

theorem ne_of_not_delimiter {c : Char} (h : isDelimiter c = false) :
    c ≠ '\x27' ∧ ∀ d : Delimiters, c ≠ d.opening ∧ c ≠ d.closing := by
  unfold isDelimiter at h
  simp only [Bool.or_eq_false_iff, beq_eq_false_iff_ne, ne_eq] at h
  obtain ⟨⟨⟨⟨hquote, hdouble⟩, hbacktick⟩, hopening⟩, hclosing⟩ := h
  refine ⟨hquote, fun d => ?_⟩
  cases d <;> constructor <;> assumption

theorem opened_of_not_delimiter {c : Char} (h : isDelimiter c = false) : r.opened c = .mark c := by
  obtain ⟨hquote, hmarks⟩ := ne_of_not_delimiter h
  rw [Rules.opened, if_neg hquote, if_neg (hmarks r.delimiters).1]

/-- A character that belongs to the token at hand is read with it. -/
theorem tokensFrom_of_continued {m m' : Mode} {c : Char} (h : r.continued m c = some m')
    (cs : List Char) : r.tokensFrom m (c :: cs) = r.tokensFrom m' cs := by
  rw [Rules.tokensFrom, h]

/-- Any other character ends the token at hand and opens the next. -/
theorem tokensFrom_of_stopped {m : Mode} {c : Char} (h : r.continued m c = none) {cs : List Char}
    {ts : List Token} :
    r.tokensFrom m (c :: cs) = some ts ↔
      ∃ before after, m.finish = some before ∧ r.tokensFrom (r.opened c) cs = some after ∧
        ts = before ++ after := by
  rw [Rules.tokensFrom, h]
  simp only [Option.bind_eq_bind, Option.bind_eq_some_iff, Option.pure_def, Option.some.injEq]
  constructor
  · rintro ⟨before, hbefore, after, hafter, rfl⟩
    exact ⟨before, after, hbefore, hafter, rfl⟩
  · rintro ⟨before, after, hbefore, hafter, rfl⟩
    exact ⟨before, hbefore, after, hafter, rfl⟩

def Rules.readOn (r : Rules) (m : Mode) (cs : List Char) : Option Mode :=
  cs.foldlM r.continued m

theorem readOn_cons (m : Mode) (c : Char) (cs : List Char) :
    r.readOn m (c :: cs) = (r.continued m c).bind fun m' => r.readOn m' cs := by
  unfold Rules.readOn
  rw [List.foldlM_cons]
  rfl

theorem readOn_name (s read : List Char) :
    r.readOn (.name read) (Text.double r.delimiters.closing s ++ [r.delimiters.closing]) =
      some (.nameClosed (s.reverse ++ read)) := by
  induction s generalizing read with
  | nil => simp [Text.double, Rules.readOn, Rules.continued]
  | cons c s ih =>
    by_cases h : c = r.delimiters.closing
    · simp [Text.double, h, readOn_cons, Rules.continued, ih]
    · simp [Text.double, h, readOn_cons, Rules.continued, ih]

theorem readOn_literal (n : Bool) (s read : List Char) :
    r.readOn (.literal n read) (Text.double '\x27' s ++ ['\x27']) =
      some (.literalClosed n (s.reverse ++ read)) := by
  induction s generalizing read with
  | nil => simp [Text.double, Rules.readOn, Rules.continued]
  | cons c s ih =>
    by_cases h : c = '\x27'
    · simp [Text.double, h, readOn_cons, Rules.continued, ih]
    · simp [Text.double, h, readOn_cons, Rules.continued, ih]

theorem write_eq_first_cons {t : Token} (h : r.Writes t) :
    ∃ tail, t.write r = t.first r :: tail ∧ r.readOn (r.opened (t.first r)) tail = some t.closed := by
  cases t with
  | name s =>
    refine ⟨Text.double r.delimiters.closing s.toList ++ [r.delimiters.closing], rfl, ?_⟩
    rw [Token.first, opened_opening, readOn_name, List.append_nil]
    rfl
  | literal n s =>
    have hopen : r.opened '\x27' = .literal false [] := by simp [Rules.opened]
    cases n with
    | false =>
      refine ⟨Text.double '\x27' s.toList ++ ['\x27'], rfl, ?_⟩
      rw [Token.first, if_neg Bool.false_ne_true, hopen, readOn_literal, List.append_nil]
      rfl
    | true =>
      have hn : r.national = true := h rfl
      refine ⟨'\x27' :: (Text.double '\x27' s.toList ++ ['\x27']), rfl, ?_⟩
      have hmark : r.opened 'N' = .mark 'N' := opened_of_not_delimiter (by decide)
      have hcont : r.continued (.mark 'N') '\x27' = some (.literal true []) := by
        simp [Rules.continued, hn]
      rw [Token.first, if_pos rfl, hmark, readOn_cons, hcont, Option.bind_some, readOn_literal,
        List.append_nil]
      rfl
  | mark c =>
    refine ⟨[], rfl, ?_⟩
    rw [Token.first, opened_of_not_delimiter h]
    rfl
  | comment s => exact absurd h id

theorem tokensFrom_of_readOn {m m' : Mode} {cs : List Char} (h : r.readOn m cs = some m')
    (rest : List Char) : r.tokensFrom m (cs ++ rest) = r.tokensFrom m' rest := by
  induction cs generalizing m with
  | nil =>
    have hm : m = m' := Option.some.inj h
    rw [hm]
    rfl
  | cons c cs ih =>
    rw [readOn_cons] at h
    cases hc : r.continued m c with
    | none => rw [hc] at h; cases h
    | some k =>
      rw [hc] at h
      rw [List.cons_append, tokensFrom_of_continued hc]
      exact ih h

theorem modeAfter_of_readOn {m m' : Mode} {cs : List Char} (h : r.readOn m cs = some m') :
    r.modeAfter m cs = m' := by
  induction cs generalizing m with
  | nil => exact Option.some.inj h
  | cons c cs ih =>
    rw [readOn_cons] at h
    cases hc : r.continued m c with
    | none => rw [hc] at h; cases h
    | some k =>
      rw [hc] at h
      unfold Rules.modeAfter
      rw [List.foldl_cons, Rules.step, hc]
      exact ih h

/-- A token is read where the token before it may be over. -/
theorem tokensFrom_write {m : Mode} {before : List Token} {t : Token} (h : r.Writes t)
    (hm : m.finish = some before) (hc : r.continued m (t.first r) = none) (rest : List Char) :
    r.tokensFrom m (t.write r ++ rest) =
      (r.tokensFrom t.closed rest).map fun ts => before ++ ts := by
  obtain ⟨tail, hw, hread⟩ := write_eq_first_cons h
  rw [hw, List.cons_append, Rules.tokensFrom, hc, hm, tokensFrom_of_readOn hread]
  cases r.tokensFrom t.closed rest <;> rfl

theorem modeAfter_write {m : Mode} {t : Token} (h : r.Writes t)
    (hc : r.continued m (t.first r) = none) : r.modeAfter m (t.write r) = t.closed := by
  obtain ⟨tail, hw, hread⟩ := write_eq_first_cons h
  rw [hw]
  have hstep : r.modeAfter m (t.first r :: tail) = r.modeAfter (r.opened (t.first r)) tail := by
    simp [Rules.modeAfter, Rules.step, hc]
  rw [hstep, modeAfter_of_readOn hread]

theorem Rules.Fits.tail {t : Token} {ts : List Token} (h : r.Fits (t :: ts)) : r.Fits ts where
  writes := fun u hu => h.writes u (List.mem_cons_of_mem _ hu)
  chain := h.chain.tail

/-- Tokens that fit are read back one after another, each where the one before it ends. -/
theorem tokensFrom_write_append {m : Mode} {before : List Token} {t : Token} {ts : List Token}
    (h : r.Fits (t :: ts)) (hm : m.finish = some before)
    (hc : r.continued m (t.first r) = none) (rest : List Char) :
    r.tokensFrom m (r.write (t :: ts) ++ rest) =
      (r.tokensFrom ((t :: ts).getLast (List.cons_ne_nil _ _)).closed rest).map fun us =>
        before ++ (t :: ts).dropLast ++ us := by
  -- Each token is over where the next one starts, so the mode is that of the last one read.
  induction ts generalizing m before t with
  | nil =>
    have ht : r.Writes t := h.writes t List.mem_cons_self
    simpa [Rules.write] using tokensFrom_write ht hm hc rest
  | cons u ts ih =>
    have ht : r.Writes t := h.writes t List.mem_cons_self
    have hu : r.continued t.closed (u.first r) = none := (List.isChain_cons_cons.mp h.chain).1
    have hsplit : r.write (t :: u :: ts) ++ rest = t.write r ++ (r.write (u :: ts) ++ rest) := by
      simp [Rules.write]
    rw [hsplit, tokensFrom_write ht hm hc, ih h.tail t.finish_closed hu, Option.map_map]
    simp [Function.comp_def]

theorem modeAfter_write_cons {m : Mode} {t : Token} {ts : List Token} (h : r.Fits (t :: ts))
    (hc : r.continued m (t.first r) = none) :
    r.modeAfter m (r.write (t :: ts)) = ((t :: ts).getLast (List.cons_ne_nil _ _)).closed := by
  induction ts generalizing m t with
  | nil =>
    have ht : r.Writes t := h.writes t List.mem_cons_self
    simpa [Rules.write] using modeAfter_write ht hc
  | cons u ts ih =>
    have ht : r.Writes t := h.writes t List.mem_cons_self
    have hu : r.continued t.closed (u.first r) = none := (List.isChain_cons_cons.mp h.chain).1
    have hsplit : r.modeAfter m (r.write (t :: u :: ts)) =
        r.modeAfter (r.modeAfter m (t.write r)) (r.write (u :: ts)) := by
      simp [Rules.modeAfter, Rules.write]
    rw [hsplit, modeAfter_write ht hc, ih h.tail hu]
    rfl

/-- Reading undoes writing. -/
theorem tokensFrom_start_write {ts : List Token} (h : r.Fits ts) :
    r.tokensFrom .start (r.write ts) = some ts := by
  cases ts with
  | nil => rfl
  | cons t ts =>
    have hread := tokensFrom_write_append (m := .start) h rfl rfl []
    rw [List.append_nil, Rules.tokensFrom, Token.finish_closed] at hread
    simpa [List.dropLast_concat_getLast] using hread

/-! ## Comments -/

/-- A text whose tokens are no comments opens none. -/
theorem isComment_modeAfter {m : Mode} {cs : List Char} {ts : List Token}
    (h : r.tokensFrom m cs = some ts) (hts : ∀ s, Token.comment s ∉ ts) :
    (r.modeAfter m cs).isComment = false := by
  induction cs generalizing m ts with
  | nil =>
    -- A comment up to the end of its line may end the text, and then it is one of the tokens.
    cases m with
    | line read =>
      obtain rfl := Option.some.inj h
      exact absurd (List.mem_singleton_self _) (hts _)
    | block read => cases h
    | blockStar read => cases h
    | _ => rfl
  | cons c cs ih =>
    cases hc : r.continued m c with
    | some m' =>
      rw [tokensFrom_of_continued hc] at h
      have hstep : r.modeAfter m (c :: cs) = r.modeAfter m' cs := by
        simp [Rules.modeAfter, Rules.step, hc]
      rw [hstep]
      exact ih h hts
    | none =>
      have hstep : r.modeAfter m (c :: cs) = r.modeAfter (r.opened c) cs := by
        simp [Rules.modeAfter, Rules.step, hc]
      rw [hstep]
      obtain ⟨before, after, -, hafter, rfl⟩ := (tokensFrom_of_stopped hc).mp h
      exact ih hafter fun s hs => hts s (List.mem_append_right _ hs)

end

end TerseSql.Lexing
