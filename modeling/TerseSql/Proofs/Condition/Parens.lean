import TerseSql.Proofs.Condition.Inside
import TerseSql.Proofs.Lexing.Scan
import TerseSql.Proofs.Lexing.Term

/-!
# Parentheses of a raw condition

A condition that is one raw text loses parentheses around it. Which parentheses match is a
matter of the quotes of the dialect, and the reader that drops them knows other ones: the quotes
of every dialect, but no brackets. Where no token misleads it, it drops just the parentheses that
match each other.
-/

namespace TerseSql

open Lexing

/-! ## Parentheses that match -/

namespace Condition

/-- The number of tokens before the one that closes a parenthesis, where `depth` more have been
opened since. -/
def partner? (depth : Nat) : List Token → Option Nat
  | [] => none
  | .mark c :: ts =>
    if c = '(' then (partner? (depth + 1) ts).map (· + 1)
    else if c = ')' then
      if depth = 0 then some 0 else (partner? (depth - 1) ts).map (· + 1)
    else (partner? depth ts).map (· + 1)
  | _ :: ts => (partner? depth ts).map (· + 1)

theorem exists_of_partner {depth n : Nat} {ts : List Token} (h : partner? depth ts = some n) :
    ∃ before after, ts = before ++ Token.mark ')' :: after ∧ before.length = n := by
  induction ts generalizing depth n with
  | nil => cases h
  | cons t ts ih =>
    -- Any token but the partner moves it one place to the right.
    have hrest : ∀ {d}, (partner? d ts).map (· + 1) = some n →
        ∃ before after, t :: ts = before ++ Token.mark ')' :: after ∧ before.length = n := by
      intro d hd
      obtain ⟨m, hm, rfl⟩ := Option.map_eq_some_iff.mp hd
      obtain ⟨before, after, rfl, rfl⟩ := ih hm
      exact ⟨t :: before, after, rfl, rfl⟩
    cases t with
    | mark c =>
      rw [partner?] at h
      by_cases hopen : c = '('
      · rw [if_pos hopen] at h
        exact hrest h
      rw [if_neg hopen] at h
      by_cases hclose : c = ')'
      · rw [if_pos hclose] at h
        by_cases hdepth : depth = 0
        · rw [if_pos hdepth] at h
          cases h
          exact ⟨[], ts, by rw [hclose]; rfl, rfl⟩
        · rw [if_neg hdepth] at h
          exact hrest h
      · rw [if_neg hclose] at h
        exact hrest h
    | _ => exact hrest h

theorem partner_concat (depth : Nat) (ts : List Token) :
    partner? depth (ts ++ [Token.mark ')']) = some ts.length ↔ closesTokens depth ts = true := by
  induction ts generalizing depth with
  | nil => by_cases hdepth : depth = 0 <;> simp [partner?, closesTokens, hdepth]
  | cons t ts ih =>
    cases t with
    | mark c =>
      rw [List.cons_append, partner?, closesTokens]
      by_cases hopen : c = '('
      · simp [hopen, ih]
      by_cases hclose : c = ')'
      · by_cases hdepth : depth = 0
        · simp [hclose, hdepth]
        · simp [hclose, hdepth, ih]
      · simp [hopen, hclose, ih]
    | _ => simp [partner?, closesTokens, ih]

end Condition

/-! ## Texts by the quotes of a dialect -/

namespace Builtin

open Condition

variable (b : Builtin)

/-- Every parenthesis outside names and texts in quotes closes. -/
def Closes (s : String) : Prop :=
  ∃ ts, (b.rules false).scan s = some ts ∧ closesTokens 0 ts = true

def IsEnclosed (s : String) : Prop :=
  ∃ ts n, (b.rules false).scan s = some (.mark '(' :: ts) ∧ partner? 0 ts = some n ∧
    n + 1 = ts.length

def IsUnambiguous (s : String) : Prop :=
  ∀ ts, (b.rules false).scan s = some ts → ∀ t ∈ ts, misleads (b.rules false) t = false

variable {b}

theorem isEnclosed_parens {p : String} : b.IsEnclosed ("(" ++ p ++ ")") ↔ b.Closes p := by
  constructor
  · intro ⟨ts, n, hts, hpartner, hlength⟩
    obtain ⟨mid, hmid, heq⟩ := (Scans.of_scan rfl hts).exists_of_parens
    obtain rfl := (List.cons.inj heq).2
    refine ⟨mid, hmid.scan, (partner_concat 0 mid).mp ?_⟩
    have hn : n = mid.length := by simpa using hlength
    rw [hpartner, hn]
  · intro ⟨mid, hmid, hcloses⟩
    have hparens := (Scans.of_scan rfl hmid).parens.scan
    exact ⟨_, mid.length, hparens, (partner_concat 0 mid).mpr hcloses, by simp⟩

theorem IsEnclosed.exists_parens {s : String} (h : b.IsEnclosed s) :
    ∃ p, s = "(" ++ p ++ ")" := by
  obtain ⟨ts, n, hts, hpartner, hlength⟩ := h
  obtain ⟨before, after, rfl, rfl⟩ := exists_of_partner hpartner
  have hnil : after = [] := by
    rw [List.length_append, List.length_cons] at hlength
    exact List.length_eq_zero_iff.mp (by omega)
  subst hnil
  have htext := (Scans.of_scan rfl hts).toList_eq
  refine ⟨String.ofList ((b.rules false).write before), String.toList_injective ?_⟩
  simp [htext, Rules.write, Token.write]

/-- Without misleading tokens the characters of a text in parentheses tell whether these match. -/
theorem inside_parens {p : String} (h : b.IsUnambiguous ("(" ++ p ++ ")"))
    (hp : b.IsEnclosed ("(" ++ p ++ ")")) : inside? ("(" ++ p ++ ")") = some p := by
  obtain ⟨ts, hts, hcloses⟩ := isEnclosed_parens.mp hp
  have hscans := Scans.of_scan rfl hts
  have hplain : ∀ t ∈ ts, misleads (b.rules false) t = false := fun t ht =>
    h _ hscans.parens.scan t (List.mem_cons_of_mem _ (List.mem_append_left _ ht))
  refine inside?_eq_some_iff.mpr ⟨by simp, ?_⟩
  rwa [hscans.toList_eq, closesWithin_write hplain]

theorem isEnclosed_of_inside {s p : String} (h : b.IsUnambiguous s) (hs : b.Closes s)
    (hinside : inside? s = some p) : b.IsEnclosed s := by
  obtain ⟨htext, hcloses⟩ := inside?_eq_some_iff.mp hinside
  obtain rfl : s = "(" ++ p ++ ")" := String.toList_injective (by simp [htext])
  obtain ⟨ts, hts, -⟩ := hs
  obtain ⟨mid, hmid, rfl⟩ := (Scans.of_scan rfl hts).exists_of_parens
  have hplain : ∀ t ∈ mid, misleads (b.rules false) t = false := fun t ht =>
    h _ hts t (List.mem_cons_of_mem _ (List.mem_append_left _ ht))
  rw [hmid.toList_eq, closesWithin_write hplain] at hcloses
  exact isEnclosed_parens.mpr ⟨mid, hmid.scan, hcloses⟩

end Builtin

namespace Condition

open Builtin

theorem render_raw (d : Dialect) (s : String) (v : Value) :
    render d ⟨[(.raw ⟨s⟩, v)]⟩ = .ok ((inside? s).getD s) := by
  cases v <;> rfl

/-- A raw condition whose parentheses close keeps its text, or loses a parenthesis at each end.
Then what is left closes exactly if the two match. Without misleading tokens it loses them if and
only if they do. -/
theorem render_raw_parens (b : Builtin) {s : String} (hs : b.Closes s) (v : Value) :
    ∃ p, render b.dialect ⟨[(.raw ⟨s⟩, v)]⟩ = .ok p ∧ (p = s ∨ s = "(" ++ p ++ ")") ∧
      (b.Closes p ↔ p = s ∨ b.IsEnclosed s) ∧
      (b.IsUnambiguous s → (p ≠ s ↔ b.IsEnclosed s)) := by
  refine ⟨_, render_raw b.dialect s v, ?_⟩
  cases hinside : inside? s with
  | none =>
    rw [Option.getD_none]
    refine ⟨Or.inl rfl, ⟨fun _ => Or.inl rfl, fun _ => hs⟩, fun hplain => ?_⟩
    refine ⟨fun hne => absurd rfl hne, fun henclosed => ?_⟩
    obtain ⟨p, rfl⟩ := henclosed.exists_parens
    rw [inside_parens hplain henclosed] at hinside
    cases hinside
  | some p =>
    rw [Option.getD_some]
    obtain ⟨htext, -⟩ := inside?_eq_some_iff.mp hinside
    have hparens : s = "(" ++ p ++ ")" := String.toList_injective (by simp [htext])
    have hne : p ≠ s := by
      intro heq
      have hlength := congrArg (List.length ·.toList) hparens
      simp [heq] at hlength
      omega
    refine ⟨Or.inr hparens, ?_, fun hplain => ?_⟩
    · rw [or_iff_right hne, hparens, isEnclosed_parens]
    · exact ⟨fun _ => isEnclosed_of_inside hplain hs hinside, fun _ => hne⟩

/-- A bracket hides a parenthesis, and what is left is no group any more. -/
theorem render_raw_parens_bracket :
    Builtin.mssql.Closes "([(] = 1) OR ([)] = 2)" ∧
      render Builtin.mssql.dialect ⟨[(.raw ⟨"([(] = 1) OR ([)] = 2)"⟩, .null)]⟩ =
        .ok "[(] = 1) OR ([)] = 2" ∧
      ¬ Builtin.mssql.IsEnclosed "([(] = 1) OR ([)] = 2)" ∧
      ¬ Builtin.mssql.Closes "[(] = 1) OR ([)] = 2" := by
  have hcloses : Builtin.mssql.Closes "([(] = 1) OR ([)] = 2)" := ⟨_, rfl, rfl⟩
  have hrender : render Builtin.mssql.dialect ⟨[(.raw ⟨"([(] = 1) OR ([)] = 2)"⟩, .null)]⟩ =
      .ok "[(] = 1) OR ([)] = 2" := rfl
  have hopen : ¬ Builtin.mssql.Closes "[(] = 1) OR ([)] = 2" := by
    rintro ⟨ts, hts, hfalse⟩
    obtain rfl := Option.some.inj hts
    cases hfalse
  obtain ⟨p, hp, -, hiff, -⟩ := render_raw_parens .mssql hcloses .null
  obtain rfl := Except.ok.inj (hp.symm.trans hrender)
  exact ⟨hcloses, hrender, fun h => hopen (hiff.mpr (Or.inr h)), hopen⟩

end Condition

end TerseSql
