import TerseSql.Proofs.Blank.Condition
import TerseSql.Proofs.Condition.Inside
import TerseSql.Proofs.Condition.Key

/-!
# Texts of one shape

Two texts have one shape if their tokens are the same up to what is in quotes. What is
rendered from a value and from its blank has one shape, and the texts in quotes are those of
the value.
-/

namespace TerseSql.Lexing

open Condition (IsPlainName closesTokens)

def Token.hide : Token → Token
  | literal _ _ => literal false ""
  | t => t

def Token.content? : Token → Option String
  | literal _ s => some s
  | _ => none

/-- The texts spell tokens of one shape, with names that satisfy `P`, and those of the first
hold the texts `a`. -/
def Parallel (r : Rules) (P : String → Prop) (s s' : String) (a : List String) : Prop :=
  ∃ ts ts', Spells r s ts ∧ Spells r s' ts' ∧ ts.map Token.hide = ts'.map Token.hide ∧
    ts.filterMap Token.content? = a ∧ ∀ n, .name n ∈ ts → P n

variable {r : Rules} {P : String → Prop}

theorem content_marks (s : String) : (marks s).filterMap Token.content? = [] := by
  unfold marks
  rw [List.filterMap_map]
  exact List.filterMap_eq_nil_iff.mpr fun c _ => rfl

theorem name_not_mem_marks (n s : String) : Token.name n ∉ marks s := by
  unfold marks
  intro h
  obtain ⟨c, _, hc⟩ := List.mem_map.mp h
  cases hc

def parallel (r : Rules) (P : String → Prop) : TextRelation r where
  holds := Parallel r P
  empty := ⟨[], [], Spells.empty, Spells.empty, rfl, rfl, fun n hn => by cases hn⟩
  joint := by
    intro s s' t t' sep a b ⟨us, us', hs, hs', hshape, hcontent, hplain⟩ hsep
      ⟨vs, vs', ht, ht', hshape', hcontent', hplain'⟩
    refine ⟨_, _, hs.joint hsep ht, hs'.joint hsep ht', ?_, ?_, fun n hn => ?_⟩
    · simp only [List.map_append, hshape, hshape']
    · simp only [List.filterMap_append, content_marks, hcontent, hcontent', List.append_nil]
    · rcases List.mem_append.mp hn with hn | hn
      · rcases List.mem_append.mp hn with hn | hn
        · exact hplain n hn
        · exact absurd hn (name_not_mem_marks n sep)
      · exact hplain' n hn

/-! ## Parentheses -/

theorem closesTokens_hide (depth : Nat) (ts : List Token) :
    closesTokens depth (ts.map Token.hide) = closesTokens depth ts := by
  induction ts generalizing depth with
  | nil => rfl
  | cons t ts ih =>
    cases t with
    | mark c => simp only [List.map_cons, Token.hide, closesTokens, ih]
    | _ => simp only [List.map_cons, Token.hide, closesTokens, ih]

theorem hide_eq_mark {t : Token} {c : Char} (h : t.hide = .mark c) : t = .mark c := by
  cases t with
  | literal n s => cases h
  | _ => exact h

theorem exists_inner {mid ts' : List Token}
    (h : (Token.mark '(' :: (mid ++ [Token.mark ')'])).map Token.hide = ts'.map Token.hide) :
    ∃ mid', ts' = .mark '(' :: (mid' ++ [Token.mark ')']) ∧
      mid.map Token.hide = mid'.map Token.hide := by
  rw [List.map_cons, List.map_append, List.map_singleton] at h
  obtain ⟨t, us, rfl, ht, hus⟩ := List.map_eq_cons_iff.mp h.symm
  obtain ⟨mid', last, rfl, hmid, hlast⟩ := List.map_eq_append_iff.mp hus
  obtain ⟨u, rfl, hu⟩ := List.map_eq_singleton_iff.mp hlast
  rw [hide_eq_mark ht, hide_eq_mark hu]
  exact ⟨mid', rfl, hmid.symm⟩

theorem name_mem_of_shape {ts ts' : List Token} (h : ts.map Token.hide = ts'.map Token.hide)
    {n : String} (hn : .name n ∈ ts') : .name n ∈ ts := by
  have hmem : Token.name n ∈ ts.map Token.hide := by
    rw [h]
    exact List.mem_map.mpr ⟨_, hn, rfl⟩
  obtain ⟨t, ht, heq⟩ := List.mem_map.mp hmem
  cases t with
  | name m =>
    obtain rfl : m = n := Token.name.inj heq
    exact ht
  | literal _ _ => cases heq
  | mark _ => cases heq
  | comment _ => cases heq

/-- Texts of one shape are groups in parentheses together. -/
theorem inside?_of_shape {s s' inner : String} {ts ts' : List Token} (hs : Spells r s ts)
    (hs' : Spells r s' ts') (hshape : ts.map Token.hide = ts'.map Token.hide)
    (hplain : ∀ n, .name n ∈ ts → r.delimiters = .bracket → IsPlainName n)
    (hinside : Condition.inside? s = some inner) :
    ∃ inner' mid mid', Condition.inside? s' = some inner' ∧ Spells r inner mid ∧
      Spells r inner' mid' ∧ mid.map Token.hide = mid'.map Token.hide ∧
      ts = .mark '(' :: (mid ++ [Token.mark ')']) := by
  obtain ⟨mid, rfl, hcloses, hmid⟩ := (Condition.inside?_spells hs hplain).mp hinside
  obtain ⟨mid', rfl, hshape'⟩ := exists_inner hshape
  have hplain' : ∀ n, .name n ∈ Token.mark '(' :: (mid' ++ [Token.mark ')']) →
      r.delimiters = .bracket → IsPlainName n :=
    fun n hn => hplain n (name_mem_of_shape hshape hn)
  have hmid' : Spells r (String.ofList (r.write mid')) mid' := by
    refine ⟨String.toList_ofList, fun t ht => hs'.fits.writes t (by simp [ht]), ?_⟩
    exact (List.isChain_append.mp hs'.fits.tail.chain).1
  refine ⟨_, mid, mid', (Condition.inside?_spells hs' hplain').mpr ⟨mid', rfl, ?_, hmid'⟩, hmid,
    hmid', hshape', rfl⟩
  rw [← closesTokens_hide, ← hshape', closesTokens_hide]
  exact hcloses

/-- The root of a tree of conditions loses its parentheses in both texts or in neither. -/
theorem conjoin_parallel {ss ss' a : List String} (h : (parallel r P).HoldsAll ss ss' a)
    (hand : r.isSeparator " AND " = true)
    (hP : ∀ n, P n → r.delimiters = .bracket → IsPlainName n) :
    Parallel r P (Condition.conjoin ss) (Condition.conjoin ss') a := by
  have hjoin := TextRelation.join hand h
  cases h with
  | nil => exact hjoin
  | @cons s s' ss ss' a as hfirst hrest =>
    cases hrest with
    | cons _ _ => exact hjoin
    | nil =>
      obtain ⟨ts, ts', hs, hs', hshape, hcontent, hplain⟩ := hfirst
      rw [Condition.conjoin, Condition.conjoin, List.append_nil]
      cases hinside : Condition.inside? s with
      | none =>
        -- Shapes are symmetric, so an inside of the second text would be one of the first.
        have hnone : Condition.inside? s' = none := by
          refine Option.eq_none_iff_forall_ne_some.mpr fun inner hinner => ?_
          obtain ⟨inner', _, _, hsome, _⟩ := inside?_of_shape hs' hs hshape.symm
            (fun n hn => hP n (hplain n (name_mem_of_shape hshape hn))) hinner
          rw [hinside] at hsome
          cases hsome
        rw [hnone]
        exact ⟨ts, ts', hs, hs', hshape, hcontent, hplain⟩
      | some inner =>
        obtain ⟨inner', mid, mid', hsome, hmid, hmid', hshape', rfl⟩ :=
          inside?_of_shape hs hs' hshape (fun n hn => hP n (hplain n hn)) hinside
        rw [hsome]
        refine ⟨mid, mid', hmid, hmid', hshape', ?_, fun n hn => hplain n (by simp [hn])⟩
        rw [← hcontent, List.filterMap_cons_none rfl, List.filterMap_append,
          List.filterMap_cons_none rfl, List.filterMap_nil, List.append_nil]

/-! ## Names -/

theorem plain_of_conditionText {s : String}
    (h : ∀ c ∈ s.toList, Grammar.isConditionText c = true) : IsPlainName s :=
  Condition.plain_of_all (by decide) h

theorem mem_fieldExpr_tokens {l : Lexicon} {e : FieldExpr} {t : Token} (h : t ∈ e.tokens l) :
    (∃ c, t = .mark c) ∨ ∃ n ∈ e.field.parts, t = .name n := by
  unfold FieldExpr.tokens at h
  cases hf : e.func with
  | none =>
    rw [hf] at h
    exact mem_field_tokens h
  | some func =>
    rw [hf] at h
    rcases List.mem_append.mp h with h | h
    · rcases List.mem_append.mp h with h | h
      · exact Or.inl (mem_marks h)
      · exact mem_field_tokens h
    · exact Or.inl (mem_marks h)

theorem parallel_self {s : String} {ts : List Token} (h : Spells r s ts)
    (hts : ∀ t ∈ ts, (∃ c, t = .mark c) ∨ ∃ n, P n ∧ t = .name n) :
    Parallel r P s s [] := by
  refine ⟨ts, ts, h, h, rfl, List.filterMap_eq_nil_iff.mpr fun t ht => ?_, fun n hn => ?_⟩
  · rcases hts t ht with ⟨c, rfl⟩ | ⟨n, _, rfl⟩
    · rfl
    · rfl
  · rcases hts _ hn with ⟨c, hc⟩ | ⟨m, hm, heq⟩
    · cases hc
    · obtain rfl := Token.name.inj heq
      exact hm

/-! ## Dialects at hand -/

section

variable (b : Builtin) (comments : Bool)

theorem parallel_quoteText (s s' : String) :
    Parallel (b.rules comments) P (b.dialect.quoteText s) (b.dialect.quoteText s') [s] := by
  refine ⟨_, _, spells_quoteText b comments s, spells_quoteText b comments s', rfl, rfl, ?_⟩
  intro n hn
  cases List.mem_singleton.mp hn

theorem parallel_suits (hP : ∀ n, IsPlainName n → P n) :
    (parallel (b.rules comments) P).Suits where
  text := parallel_quoteText b comments
  field := by
    intro key t ht
    obtain ⟨hbare, hparts, hfunc⟩ := field_of_ofKey ht
    have hcalm : ∀ func, t.field.func = some func →
        ∀ c ∈ func.toList, (b.rules comments).isCalm c = true :=
      fun func hf c hc => calm_of_conditionText _ (hfunc func hf c hc)
    refine parallel_self (spells_fieldExpr b comments hbare hcalm) fun u hu => ?_
    rcases mem_fieldExpr_tokens hu with hmark | ⟨n, hn, rfl⟩
    · exact Or.inl hmark
    · exact Or.inr ⟨n, hP n (plain_of_conditionText (hparts n hn)), rfl⟩

theorem literal_parallel {v : Value} (hraw : ∀ sql, v ≠ .raw sql) (hquery : ∀ q, v ≠ .query q)
    (hjson : ∀ document, v ≠ .json document)
    (hfield : ∀ f, v = .field f → ∀ n ∈ f.parts, P n) :
    (parallel (b.rules comments) P).Admits v := by
  have hself : (∀ s, v ≠ .text s) → Alike (Parallel (b.rules comments) P · · [])
      (b.dialect.literal v) (b.dialect.literal v) := by
    intro htext
    cases hv : b.dialect.literal v with
    | error e => exact .error
    | ok s =>
      refine .ok (parallel_self (spells_literal b comments hv hraw hquery) fun t ht => ?_)
      cases v with
      | field f =>
        rcases mem_field_tokens ht with hmark | ⟨n, hn, rfl⟩
        · exact Or.inl hmark
        · exact Or.inr ⟨n, hfield f rfl n hn, rfl⟩
      | text s => exact absurd rfl (htext s)
      | json document => exact absurd rfl (hjson document)
      | null => exact Or.inl (mem_marks ht)
      | bool _ => exact Or.inl (mem_marks ht)
      | int _ => exact Or.inl (mem_marks ht)
      | float _ => exact Or.inl (mem_marks ht)
      | list _ => cases ht
      | dict _ => cases ht
      | raw _ => cases ht
      | query _ => cases ht
  cases v with
  | text s => exact trivial
  | list items => exact trivial
  | dict entries => exact trivial
  | raw sql => exact absurd rfl (hraw sql)
  | query q => exact absurd rfl (hquery q)
  | json document => exact absurd rfl (hjson document)
  | _ => exact hself (by simp)

end

end TerseSql.Lexing
