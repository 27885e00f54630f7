import TerseSql.Proofs.Reading.Sentence

/-!
# Fields and literals in conditions

A field starts an atom, under a function or not, and a literal goes on with one: neither holds
a connective, and their parentheses close.
-/

namespace TerseSql.Reading

open Lexing

/-! ## Lexemes without connectives -/

/-- A word is no connective if its first letter is that of none. -/
theorem role_of_head {w : String} {c : Char} {rest : List Char} (hw : w.toList = c :: rest)
    (h : c.toLower ∉ ['a', 'o', 'n', 'b']) : (Lexeme.word w).role = .other := by
  have hnot : ∀ keyword : String, ∀ d ∈ (keyword.toList.map Char.toLower).head?,
      d ∈ ['a', 'o', 'n', 'b'] → Text.equalsIgnoringAsciiCase w keyword = false := by
    intro keyword d hd hmem
    refine Bool.eq_false_iff.mpr fun heq => h ?_
    unfold Text.equalsIgnoringAsciiCase at heq
    rw [beq_iff_eq, hw] at heq
    rw [← heq] at hd
    obtain rfl := Option.some.inj hd
    exact hmem
  unfold Lexeme.role
  dsimp only
  rw [hnot "AND" 'a' rfl (by decide), hnot "OR" 'o' rfl (by decide),
    hnot "NOT" 'n' rfl (by decide), hnot "BETWEEN" 'b' rfl (by decide)]
  rfl

theorem toLower_of_digit {c : Char} (h : c.isDigit = true ∨ c = 'e') :
    c.toLower ∉ ['a', 'o', 'n', 'b'] := by
  have hsmall : c.toNat < 128 := by
    have hnine : '9'.toNat = 57 := rfl
    rcases h with h | rfl
    · have hdigit := Char.isDigit_iff_toNat.mp h
      omega
    · decide
  exact forall_ascii (p := fun d => d.isDigit = true ∨ d = 'e' → d.toLower ∉ ['a', 'o', 'n', 'b'])
    (by decide) hsmall h

/-- Tokens without parentheses whose words are of digits. -/
theorem inert_of_tokens {ts : List Token} (hparens : ∀ c, .mark c ∈ ts → c ≠ '(' ∧ c ≠ ')')
    (hwords : ∀ c, .mark c ∈ ts → isLexical c = true → c.isDigit = true ∨ c = 'e') :
    ∀ l ∈ words ts, l.isInert = true := by
  intro l hl
  have hfrom := comesFrom_of_mem_words hl
  cases l with
  | quoted t => rfl
  | sign c =>
    obtain ⟨hopen, hclose⟩ := hparens c hfrom
    simp [Lexeme.isInert, Lexeme.role, hopen, hclose]
  | word w =>
    obtain ⟨hne, hchars⟩ := hfrom
    cases hw : w.toList with
    | nil => exact absurd hw hne
    | cons c rest =>
      have hc := hchars c (hw ▸ List.mem_cons_self)
      simp only [List.not_mem_nil, false_or] at hc
      have hrole := role_of_head hw (toLower_of_digit (hwords c hc.1 hc.2))
      simp [Lexeme.isInert, hrole]

theorem inert_of_numeral {s : String} (h : ∀ c ∈ s.toList, isNumeral c = true) :
    ∀ l ∈ words (marks s), l.isInert = true := by
  refine inert_of_tokens (fun c hc => ?_) fun c hc hlex => ?_
  · have hnumeral := h c (mark_mem_marks hc)
    constructor
    · rintro rfl
      cases hnumeral
    · rintro rfl
      cases hnumeral
  · have hnumeral := h c (mark_mem_marks hc)
    unfold isNumeral at hnumeral
    simp only [Bool.or_eq_true, beq_iff_eq] at hnumeral
    rcases hnumeral with ((hdigit | rfl) | rfl) | he
    · exact Or.inl hdigit
    · cases hlex
    · cases hlex
    · exact Or.inr he

/-! ## Fields -/

theorem inert_field (f : Field) : ∀ l ∈ words f.tokens, l.isInert = true := by
  refine inert_of_tokens (fun c hc => ?_) fun c hc hlex => ?_
  · rcases mark_of_mem_field_tokens hc with rfl | rfl <;> decide
  · rcases mark_of_mem_field_tokens hc with rfl | rfl <;> cases hlex

theorem words_nameToken (n : String) (ts : List Token) :
    ∃ l, words (nameToken n :: ts) = l :: words ts ∧ l.role = .other := by
  unfold nameToken
  by_cases hstar : n = "*"
  · rw [if_pos hstar]
    exact ⟨.sign '*', rfl, rfl⟩
  · rw [if_neg hstar]
    exact ⟨.quoted (.name n), rfl, rfl⟩

theorem isAtom_field (f : Field) : IsAtom (words f.tokens) := by
  have hinert := inert_field f
  have hfirst : ∃ n ts, f.tokens = nameToken n :: ts := by
    obtain ⟨schema, table, name⟩ := f
    cases schema <;> cases table <;> exact ⟨_, _, rfl⟩
  obtain ⟨n, ts, hts⟩ := hfirst
  obtain ⟨l, hwords, hl⟩ := words_nameToken n ts
  rw [hts, hwords] at hinert ⊢
  exact ⟨l, words ts, rfl, hl, continues_inert fun m hm => hinert m (List.mem_cons_of_mem _ hm)⟩

/-! ## Functions -/

/-- A name that a function may have: a word that is no connective when it is written. -/
def IsFunctionName (func : String) : Prop :=
  func.toList ≠ [] ∧ (∀ c ∈ func.toList, Text.isWord c = true) ∧
    (Lexeme.word (Text.upper func)).role = .other

theorem words_lexical {s : String} (hne : s.toList ≠ [])
    (h : ∀ c ∈ s.toList, isLexical c = true) : words (marks s) = [.word s] := by
  have hread : ∀ cs read : List Char, (∀ c ∈ cs, isLexical c = true) →
      wordsFrom read (cs.map .mark) = flush (cs.reverse ++ read) := by
    intro cs
    induction cs with
    | nil => exact fun read _ => rfl
    | cons c cs ih =>
      intro read hcs
      rw [List.map_cons, wordsFrom, if_pos (hcs c List.mem_cons_self),
        ih _ fun d hd => hcs d (List.mem_cons_of_mem _ hd)]
      simp
  unfold words marks
  rw [hread _ _ h, List.append_nil]
  unfold flush
  rw [if_neg (by simpa using hne), List.reverse_reverse, String.ofList_toList]

variable (b : Builtin)

/-- What a dialect calls a function is no connective either. -/
theorem functionName_word {func : String} (h : IsFunctionName func) :
    ∃ w, FieldExpr.functionName b.dialect.toLexicon func = w ∧ w.toList ≠ [] ∧
      (∀ c ∈ w.toList, isLexical c = true) ∧ (Lexeme.word w).role = .other := by
  obtain ⟨hne, hword, hrole⟩ := h
  refine ⟨_, rfl, ?_⟩
  rcases functionName_cases b func with hname | ⟨other, hother, hname⟩
  · rw [hname]
    exact ⟨upper_ne_nil hne, upper_lexical fun c hc => lexical_of_word (hword c hc), hrole⟩
  · have hremapped : other.toList ≠ [] ∧ (Lexeme.word (Text.upper other)).role = .other := by
      unfold transactFunction at hother
      split at hother <;> cases hother <;> decide
    rw [hname]
    exact ⟨upper_ne_nil hremapped.1,
      upper_lexical fun c hc => transactFunction_lexical hother c hc, hremapped.2⟩

theorem lexed_fieldExpr {e : FieldExpr} (hbare : e.aliasName = none)
    (hfunc : ∀ func, e.func = some func → IsFunctionName func) :
    ∃ ls, Lexed (b.rules false) (e.render b.dialect.toLexicon) ls ∧ IsAtom ls := by
  unfold FieldExpr.render FieldExpr.renderBare
  rw [hbare]
  have hfield : Lexed (b.rules false) (e.field.render b.dialect.toLexicon)
      (words e.field.tokens) := ⟨_, spells_field b false e.field, rfl⟩
  cases hf : e.func with
  | none => exact ⟨_, hfield, isAtom_field e.field⟩
  | some func =>
    obtain ⟨w, hname, hne, hlexical, hrole⟩ := functionName_word b (hfunc func hf)
    have hword : Lexed (b.rules false) w [.word w] :=
      ⟨_, spells_lexical (List.all_eq_true.mpr hlexical), words_lexical hne hlexical⟩
    let distinct := if e.distinct then "DISTINCT " else ""
    let modifier := if e.distinct then [Lexeme.word "DISTINCT"] else []
    have hopen : (b.rules false).isSeparator ("(" ++ distinct) = true ∧
        isGap ("(" ++ distinct) = true ∧ words (marks ("(" ++ distinct)) = .sign '(' :: modifier := by
      refine ⟨isSeparator_of_steady ?_, ?_⟩ <;>
        cases hdistinct : e.distinct <;> simp only [distinct, modifier, hdistinct] <;> decide
    have hclose : (b.rules false).isSeparator ")" = true ∧ isGap ")" = true :=
      ⟨isSeparator_of_steady (by decide), by decide⟩
    have hinert : ∀ l ∈ modifier ++ words e.field.tokens, l.isInert = true := by
      intro l hl
      rcases List.mem_append.mp hl with hl | hl
      · cases hdistinct : e.distinct with
        | false => simp [modifier, hdistinct] at hl
        | true =>
          have hword : l = .word "DISTINCT" := by simpa [modifier, hdistinct] using hl
          rw [hword]
          rfl
      · exact inert_field e.field l hl
    -- The name of the function is the atom, and its parentheses continue it.
    have htext := (hword.joint hopen.1 hopen.2.1 hfield).after hclose.1 hclose.2
    rw [hopen.2.2] at htext
    refine ⟨_, by simpa only [hname, distinct, String.append_assoc] using htext, ?_⟩
    refine ⟨.word w, .sign '(' :: ((modifier ++ words e.field.tokens) ++ [Lexeme.sign ')']), ?_,
      hrole, continues_parens hinert⟩
    simp only [List.cons_append, List.nil_append, List.append_assoc]
    rfl

/-! ## Literals -/

theorem lexed_literal {v : Value} {s : String} (h : b.dialect.literal v = .ok s)
    (hraw : ∀ sql, v ≠ .raw sql) (hquery : ∀ q, v ≠ .query q) :
    ∃ ls, Lexed (b.rules false) s ls ∧ ∀ l ∈ ls, l.isInert = true := by
  refine ⟨_, ⟨_, spells_literal b false h hraw hquery, rfl⟩, ?_⟩
  rw [literal_eq] at h
  have hquoted : ∀ t : String, ∀ l ∈ words [b.literalToken t], l.isInert = true := by
    intro t l hl
    obtain rfl : l = .quoted (b.literalToken t) := List.mem_singleton.mp hl
    rfl
  cases v with
  | null =>
    rw [Value.tokens, b.null_eq]
    decide
  | bool x =>
    rw [Value.tokens]
    cases b <;> cases x <;> decide
  | int n => exact inert_of_numeral fun c hc => numeral_of_mem_int hc
  | float x =>
    obtain ⟨hfinite, -⟩ := floatLiteral_eq_ok_iff.mp h
    exact inert_of_numeral fun c hc => numeral_of_mem_float hfinite hc
  | text t => exact hquoted t
  | json document => exact hquoted document.write
  | field f => exact inert_field f
  | raw sql => exact absurd rfl (hraw sql)
  | query q => exact absurd rfl (hquery q)
  | list items => cases h
  | dict entries => cases h

end TerseSql.Reading
