import TerseSql.Clause.Condition
import TerseSql.Proofs.Lexing.Spelling

/-!
# Parentheses around a condition

Whether a text is one group in parentheses is found by reading its characters. For a text
that spells tokens the tokens tell as much, since parentheses within names and texts count
for neither.
-/

namespace TerseSql.Condition

open Lexing

/-- A text is one group if it stands in parentheses that close each other. -/
theorem inside?_eq_some_iff {s inner : String} :
    inside? s = some inner ↔
      s.toList = '(' :: (inner.toList ++ [')']) ∧ closesWithin none 0 inner.toList = true := by
  unfold inside?
  constructor
  · intro h
    split at h
    · next rest hs =>
      by_cases hcond : rest.getLast? = some ')' ∧ closesWithin none 0 rest.dropLast = true
      · rw [if_pos hcond] at h
        obtain rfl := Option.some.inj h
        rw [String.toList_ofList, hs]
        refine ⟨?_, hcond.2⟩
        rw [List.dropLast_append_getLast? _ hcond.1]
      · rw [if_neg hcond] at h
        cases h
    · cases h
  · intro ⟨hs, hcloses⟩
    rw [hs]
    simp [hcloses]

variable {r : Rules}

/-! ## Tokens in parentheses -/

theorem eq_mark_of_first {t : Token} {rest cs : List Char} (ht : r.Writes t)
    (h : t.write r ++ rest = '(' :: cs) : t = .mark '(' ∧ rest = cs := by
  obtain ⟨tail, hw, _⟩ := write_eq_first_cons ht
  have hfirst : t.first r = '(' := by
    rw [hw] at h
    exact (List.cons.inj h).1
  cases t with
  | name s =>
    have hne : ∀ d : Delimiters, d.opening ≠ '(' := by
      intro d
      cases d <;> decide
    exact absurd hfirst (hne _)
  | literal n s => cases n <;> simp [Token.first] at hfirst
  | mark c =>
    obtain rfl : c = '(' := hfirst
    exact ⟨rfl, (List.cons.inj h).2⟩
  | comment s => exact absurd ht id

theorem eq_mark_of_last {t : Token} {before cs : List Char} (ht : r.Writes t)
    (h : before ++ t.write r = cs ++ [')']) : t = .mark ')' ∧ before = cs := by
  cases t with
  | name s =>
    have hne : ∀ d : Delimiters, d.closing ≠ ')' := by
      intro d
      cases d <;> decide
    rw [Token.write, ← List.append_assoc] at h
    have hlast := (List.append_inj' h rfl).2
    exact absurd (List.singleton_inj.mp hlast) (hne _)
  | literal n s =>
    rw [Token.write, ← List.append_assoc] at h
    have hlast := (List.append_inj' h rfl).2
    cases hlast
  | mark c =>
    obtain ⟨hbefore, hlast⟩ := List.append_inj' h rfl
    obtain rfl := List.singleton_inj.mp hlast
    exact ⟨rfl, hbefore⟩
  | comment s => exact absurd ht id

/-- The tokens of a text in parentheses are those of its inside, in parentheses. -/
theorem spells_inner {s inner : String} {ts : List Token} (h : Spells r s ts)
    (hs : s.toList = '(' :: (inner.toList ++ [')'])) :
    ∃ mid, ts = .mark '(' :: (mid ++ [Token.mark ')']) ∧ Spells r inner mid := by
  have hwrite : r.write ts = '(' :: (inner.toList ++ [')']) := by rw [← h.text, hs]
  cases ts with
  | nil => cases hwrite
  | cons t us =>
    unfold Rules.write at hwrite
    rw [List.flatMap_cons] at hwrite
    obtain ⟨rfl, hrest⟩ := eq_mark_of_first (h.fits.writes t List.mem_cons_self) hwrite
    have hus := h.fits.tail
    rcases List.eq_nil_or_concat us with rfl | ⟨mid, u, rfl⟩
    · simp at hrest
    · rw [List.concat_eq_append] at *
      rw [List.flatMap_append, List.flatMap_cons, List.flatMap_nil, List.append_nil] at hrest
      obtain ⟨rfl, hmid⟩ := eq_mark_of_last (hus.writes u (by simp)) hrest
      refine ⟨mid, rfl, hmid.symm, fun t ht => hus.writes t (List.mem_append_left _ ht), ?_⟩
      exact (List.isChain_append.mp hus.chain).1

/-! ## Parentheses that close -/

/-- A name that does not mislead a reader who does not know brackets around it. -/
def IsPlainName (s : String) : Prop :=
  ∀ c ∈ s.toList, isDelimiter c = false ∧ c ≠ '(' ∧ c ≠ ')'

-- Named, since the search for an instance may settle on one that tries every character there is.
instance (s : String) : Decidable (IsPlainName s) :=
  List.decidableBAll (fun c => isDelimiter c = false ∧ c ≠ '(' ∧ c ≠ ')') s.toList

theorem plain_of_all {p : Char → Bool}
    (hp : (['\x27', '"', '\x60', '[', ']', '(', ')'].all fun d => !p d) = true) {s : String}
    (h : ∀ c ∈ s.toList, p c = true) : IsPlainName s := by
  intro c hc
  by_contra hnot
  have hspecial : c ∈ ['\x27', '"', '\x60', '[', ']', '(', ')'] := by
    unfold isDelimiter at hnot
    simp at hnot ⊢
    tauto
  have hfalse := List.all_eq_true.mp hp c hspecial
  rw [h c hc] at hfalse
  cases hfalse

def closesTokens (depth : Nat) : List Token → Bool
  | [] => depth == 0
  | .mark c :: ts =>
    if c = '(' then closesTokens (depth + 1) ts
    else if c = ')' then depth != 0 && closesTokens (depth - 1) ts
    else closesTokens depth ts
  | _ :: ts => closesTokens depth ts

theorem closesWithin_quoted {q : Char} (hq : q = '\x27' ∨ q = '"' ∨ q = '\x60') (depth : Nat)
    (s rest : List Char) :
    closesWithin (some q) depth (Text.double q s ++ q :: rest) = closesWithin none depth rest := by
  induction s with
  | nil => simp [Text.double, closesWithin]
  | cons c s ih =>
    by_cases hc : c = q
    · simp only [Text.double, hc, if_true, List.cons_append, closesWithin]
      rw [if_pos hq, ih]
    · simp only [Text.double, hc, if_false, List.cons_append, closesWithin, ih]

def isCounted (c : Char) : Bool :=
  c == '\x27' || c == '"' || c == '\x60' || c == '(' || c == ')'

theorem closesWithin_uncounted (depth : Nat) {cs : List Char} (h : ∀ c ∈ cs, isCounted c = false)
    (rest : List Char) : closesWithin none depth (cs ++ rest) = closesWithin none depth rest := by
  induction cs with
  | nil => rfl
  | cons c cs ih =>
    have hc := h c List.mem_cons_self
    simp only [isCounted, Bool.or_eq_false_iff, beq_eq_false_iff_ne, ne_eq] at hc
    simp only [List.cons_append, closesWithin, hc, or_self, if_false]
    exact ih fun d hd => h d (List.mem_cons_of_mem _ hd)

theorem uncounted_of_plain {c : Char} (h : isDelimiter c = false ∧ c ≠ '(' ∧ c ≠ ')') :
    isCounted c = false := by
  obtain ⟨hdelimiter, hopen, hclose⟩ := h
  unfold isDelimiter at hdelimiter
  simp only [Bool.or_eq_false_iff, beq_eq_false_iff_ne, ne_eq] at hdelimiter
  simp [isCounted, hdelimiter, hopen, hclose]

/-- A token that a reader of parentheses takes for something else, if it knows the quotes of
every dialect and no brackets. -/
def misleads (r : Rules) : Token → Bool
  | .mark c => c == '\x27' || c == '"' || c == '\x60'
  | .name s => r.delimiters == .bracket && s.toList.any isCounted
  | .literal _ _ => false
  | .comment _ => true

theorem not_misleads_name {s : String} (h : r.delimiters = .bracket → IsPlainName s) :
    misleads r (.name s) = false := by
  unfold misleads
  rw [Bool.and_eq_false_imp, beq_iff_eq, List.any_eq_false]
  intro hr c hc
  rw [uncounted_of_plain (h hr c hc)]
  exact Bool.false_ne_true

theorem closesWithin_name (depth : Nat) {s : String} (h : misleads r (.name s) = false)
    (rest : List Char) :
    closesWithin none depth ((Token.name s).write r ++ rest) = closesWithin none depth rest := by
  simp only [Token.write, List.cons_append, List.append_assoc, List.nil_append]
  cases hd : r.delimiters with
  | double =>
    simp only [Delimiters.opening, Delimiters.closing, closesWithin]
    exact closesWithin_quoted (by decide) depth s.toList rest
  | backtick =>
    simp only [Delimiters.opening, Delimiters.closing, closesWithin]
    exact closesWithin_quoted (by decide) depth s.toList rest
  | bracket =>
    have hs : ∀ c ∈ s.toList, isCounted c = false := by simpa [misleads, hd] using h
    have hopen : isCounted '[' = false := by decide
    have hclose : isCounted ']' = false := by decide
    have huncounted : ∀ c ∈ '[' :: (Text.double ']' s.toList ++ [']']), isCounted c = false := by
      simp only [List.forall_mem_cons, List.forall_mem_append]
      exact ⟨hopen, fun c hc => hs c (Text.mem_of_mem_double hc), hclose, List.forall_mem_nil _⟩
    simpa [Delimiters.opening, Delimiters.closing] using
      closesWithin_uncounted depth huncounted rest

theorem closesWithin_literal (depth : Nat) (n : Bool) (s : String) (rest : List Char) :
    closesWithin none depth ((Token.literal n s).write r ++ rest) =
      closesWithin none depth rest := by
  have hquoted := closesWithin_quoted (q := '\x27') (by decide) depth s.toList rest
  unfold Token.write
  cases n with
  | false => simpa [closesWithin] using hquoted
  | true => simpa [closesWithin] using hquoted

/-- Where no token misleads, the characters say of parentheses what the tokens do. -/
theorem closesWithin_write {ts : List Token} (h : ∀ t ∈ ts, misleads r t = false) (depth : Nat) :
    closesWithin none depth (r.write ts) = closesTokens depth ts := by
  induction ts generalizing depth with
  | nil => rfl
  | cons t ts ih =>
    have ht := h t List.mem_cons_self
    have hrest := ih fun u hu => h u (List.mem_cons_of_mem _ hu)
    unfold Rules.write at hrest ⊢
    rw [List.flatMap_cons]
    cases t with
    | name s =>
      rw [closesWithin_name depth ht, hrest]
      rfl
    | literal n s =>
      rw [closesWithin_literal, hrest]
      rfl
    | mark c =>
      simp only [misleads, Bool.or_eq_false_iff, beq_eq_false_iff_ne, ne_eq] at ht
      obtain ⟨⟨hsingle, hdouble⟩, hbacktick⟩ := ht
      simp only [Token.write, List.singleton_append, closesWithin, hsingle, hdouble, hbacktick,
        or_self, if_false, hrest, closesTokens]
    | comment s => cases ht

theorem not_misleads_of_writes {t : Token} (ht : r.Writes t)
    (hplain : ∀ s, t = .name s → r.delimiters = .bracket → IsPlainName s) :
    misleads r t = false := by
  cases t with
  | name s => exact not_misleads_name (hplain s rfl)
  | literal n s => rfl
  | mark c =>
    have hd : isDelimiter c = false := ht
    simp only [isDelimiter, Bool.or_eq_false_iff, beq_eq_false_iff_ne, ne_eq] at hd
    simp [misleads, hd]
  | comment s => exact absurd ht id

/-- Tokens tell whether a text is one group in parentheses, and which tokens are inside. -/
theorem inside?_spells {s inner : String} {ts : List Token} (h : Spells r s ts)
    (hplain : ∀ n, .name n ∈ ts → r.delimiters = .bracket → IsPlainName n) :
    inside? s = some inner ↔
      ∃ mid, ts = .mark '(' :: (mid ++ [Token.mark ')']) ∧ closesTokens 0 mid = true ∧
        Spells r inner mid := by
  constructor
  · intro hinside
    obtain ⟨hs, hcloses⟩ := inside?_eq_some_iff.mp hinside
    obtain ⟨mid, rfl, hmid⟩ := spells_inner h hs
    refine ⟨mid, rfl, ?_, hmid⟩
    have hmisleads : ∀ t ∈ mid, misleads r t = false := fun t ht =>
      not_misleads_of_writes (hmid.fits.writes t ht) fun n hn => hplain n (by simp [← hn, ht])
    rwa [hmid.text, closesWithin_write hmisleads] at hcloses
  · intro ⟨mid, hts, hcloses, hmid⟩
    subst hts
    have hmisleads : ∀ t ∈ mid, misleads r t = false := fun t ht =>
      not_misleads_of_writes (hmid.fits.writes t ht) fun n hn => hplain n (by simp [← hn, ht])
    refine inside?_eq_some_iff.mpr ⟨?_, ?_⟩
    · rw [h.text, hmid.text]
      simp [Rules.write, Token.write]
    · rwa [hmid.text, closesWithin_write hmisleads]

theorem eq_of_inside? {s inner : String} (h : inside? ("(" ++ s ++ ")") = some inner) :
    inner = s := by
  obtain ⟨hs, -⟩ := inside?_eq_some_iff.mp h
  apply String.toList_injective
  simpa using hs.symm

end TerseSql.Condition
