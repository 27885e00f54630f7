import TerseSql.Proofs.Lexing.Token
import TerseSql.Proofs.Name.Blank

/-!
# White space outside quotes

A text without the white space outside its quoted names and texts. White space between two tokens
makes no difference to it, as long as the first of them may end there.
-/

namespace TerseSql.Lexing

/-- Whether white space would be outside quotes. -/
def Mode.isOutside : Mode → Bool
  | start | mark _ | nameClosed _ | literalClosed _ _ => true
  | _ => false

def Rules.squeezeFrom (r : Rules) (m : Mode) : List Char → List Char
  | [] => []
  | c :: cs =>
    if Text.isBlank c ∧ r.continued m c = none then r.squeezeFrom (r.step m c) cs
    else c :: r.squeezeFrom (r.step m c) cs

end TerseSql.Lexing

namespace TerseSql

namespace Delimiters

open Lexing

def quoting (d : Delimiters) : Rules := ⟨d, false, false⟩

def squeeze (d : Delimiters) (s : String) : List Char :=
  d.quoting.squeezeFrom .start s.toList

def Closes (d : Delimiters) (s : String) : Prop :=
  (d.quoting.modeAfter .start s.toList).isOutside = true

instance (d : Delimiters) (s : String) : Decidable (d.Closes s) :=
  inferInstanceAs (Decidable (_ = true))

variable {d : Delimiters} {m : Mode}

/-! ## Modes -/

theorem not_delimiter_of_blank {c : Char} (h : Text.isBlank c = true) : isDelimiter c = false := by
  have hc := forall_blank (p := fun d => !isDelimiter d) (by decide +kernel) h
  simpa using hc

/-- Outside quotes, only a delimiter goes on with what stands before it. -/
theorem continued_of_outside (hm : m.isOutside = true) {c : Char} (hc : isDelimiter c = false) :
    d.quoting.continued m c = none := by
  obtain ⟨hquote, hmarks⟩ := ne_of_not_delimiter hc
  cases m with
  | start => rfl
  | mark x => simp [Rules.continued, quoting]
  | nameClosed read => simp [Rules.continued, quoting, (hmarks d).2]
  | literalClosed n read => simp [Rules.continued, hquote]
  | _ => cases hm

theorem step_of_outside (hm : m.isOutside = true) {c : Char} (hc : isDelimiter c = false) :
    d.quoting.step m c = .mark c := by
  unfold Rules.step
  rw [continued_of_outside hm hc, Option.getD_none, opened_of_not_delimiter hc]

theorem continued_mark (x c : Char) : d.quoting.continued (.mark x) c = none := by
  simp [Rules.continued, quoting]

theorem modeAfter_append (a b : List Char) :
    d.quoting.modeAfter m (a ++ b) = d.quoting.modeAfter (d.quoting.modeAfter m a) b :=
  List.foldl_append

/-- After characters that are no delimiters, of which there is one, the mode is that of the last. -/
theorem modeAfter_marks (hm : m.isOutside = true) {cs : List Char} (hne : cs ≠ [])
    (hcs : ∀ c ∈ cs, isDelimiter c = false) : ∃ x, d.quoting.modeAfter m cs = .mark x := by
  induction cs generalizing m with
  | nil => exact absurd rfl hne
  | cons c cs ih =>
    obtain ⟨hc, hcs⟩ := List.forall_mem_cons.mp hcs
    have hmode : d.quoting.modeAfter m (c :: cs) = d.quoting.modeAfter (.mark c) cs := by
      unfold Rules.modeAfter
      rw [List.foldl_cons, step_of_outside hm hc]
    rw [hmode]
    cases cs with
    | nil => exact ⟨c, rfl⟩
    | cons e rest => exact ih rfl (by simp) hcs

theorem Closes.after_mark {s : String} (h : d.Closes s) (x : Char) :
    (d.quoting.modeAfter (.mark x) s.toList).isOutside = true := by
  unfold Closes at h
  cases hs : s.toList with
  | nil => rfl
  | cons c cs =>
    rw [hs] at h
    have hstep : d.quoting.step (.mark x) c = d.quoting.step .start c := by
      unfold Rules.step
      rw [continued_mark]
      rfl
    unfold Rules.modeAfter at h ⊢
    rw [List.foldl_cons] at h ⊢
    rwa [hstep]

/-- Texts that close their quotes do so together, with a mark between them. -/
theorem Closes.joint {s t sep : String} (hs : d.Closes s) (ht : d.Closes t) {x : Char}
    (hsep : sep.toList = [x]) (hx : isDelimiter x = false) : d.Closes (s ++ sep ++ t) := by
  have hmark : d.quoting.modeAfter (d.quoting.modeAfter .start s.toList) [x] = .mark x :=
    step_of_outside hs hx
  unfold Closes
  rw [String.toList_append, String.toList_append, modeAfter_append, modeAfter_append, hsep, hmark]
  exact ht.after_mark x

/-! ## Squeezing -/

theorem squeezeFrom_append (a b : List Char) :
    d.quoting.squeezeFrom m (a ++ b) =
      d.quoting.squeezeFrom m a ++ d.quoting.squeezeFrom (d.quoting.modeAfter m a) b := by
  induction a generalizing m with
  | nil => rfl
  | cons c a ih =>
    have hmode : d.quoting.modeAfter m (c :: a) = d.quoting.modeAfter (d.quoting.step m c) a := rfl
    rw [List.cons_append, Rules.squeezeFrom, Rules.squeezeFrom, ih, hmode]
    split
    · rfl
    · rfl

theorem squeezeFrom_congr {m' : Mode} {cs : List Char}
    (h : ∀ c ∈ cs.head?, d.quoting.continued m c = none ∧ d.quoting.continued m' c = none) :
    d.quoting.squeezeFrom m cs = d.quoting.squeezeFrom m' cs := by
  cases cs with
  | nil => rfl
  | cons c cs =>
    obtain ⟨hm, hm'⟩ := h c rfl
    rw [Rules.squeezeFrom, Rules.squeezeFrom, Rules.step, Rules.step, hm, hm']

theorem squeezeFrom_gap {gap : List Char} (hgap : IsBlank gap) (hm : m.isOutside = true)
    {cs : List Char} (hcs : ∀ c ∈ cs.head?, d.quoting.continued m c = none) :
    d.quoting.squeezeFrom m (gap ++ cs) = d.quoting.squeezeFrom m cs := by
  induction gap generalizing m with
  | nil => rfl
  | cons c gap ih =>
    obtain ⟨hc, hgap⟩ := List.forall_mem_cons.mp hgap
    have hdelimiter := not_delimiter_of_blank hc
    rw [List.cons_append, Rules.squeezeFrom, if_pos ⟨hc, continued_of_outside hm hdelimiter⟩,
      step_of_outside hm hdelimiter, ih hgap rfl fun e _ => continued_mark c e]
    exact squeezeFrom_congr fun e he => ⟨continued_mark c e, hcs e he⟩

/-- White space around a part without delimiters is outside quotes if what comes before the part
has closed them. -/
theorem squeeze_around {before part after left right : String} (hbefore : d.Closes before)
    (hne : part.toList ≠ []) (hpart : ∀ c ∈ part.toList, isDelimiter c = false)
    (hleft : IsBlank left.toList) (hright : IsBlank right.toList) :
    d.squeeze (before ++ left ++ part ++ right ++ after) = d.squeeze (before ++ part ++ after) := by
  unfold Closes at hbefore
  unfold squeeze
  simp only [String.toList_append, List.append_assoc]
  generalize hmode : d.quoting.modeAfter .start before.toList = m at hbefore
  obtain ⟨x, hx⟩ := modeAfter_marks (d := d) hbefore hne hpart
  have hhead : ∀ rest, ∀ c ∈ (part.toList ++ rest).head?, d.quoting.continued m c = none := by
    intro rest c hc
    obtain ⟨e, cs, hcs⟩ := List.exists_cons_of_ne_nil hne
    rw [hcs] at hc
    obtain rfl := Option.some.inj hc
    exact continued_of_outside hbefore (hpart e (hcs ▸ List.mem_cons_self))
  have hgap : d.quoting.squeezeFrom (.mark x) (right.toList ++ after.toList) =
      d.quoting.squeezeFrom (.mark x) after.toList :=
    squeezeFrom_gap hright rfl fun c _ => continued_mark x c
  rw [squeezeFrom_append, hmode, squeezeFrom_gap hleft hbefore (hhead _), squeezeFrom_append, hx,
    hgap, squeezeFrom_append, hmode, squeezeFrom_append, hx]

end Delimiters

end TerseSql
