import TerseSql.Proofs.Condition.Rule
import TerseSql.Proofs.Lexing.Squeeze
import TerseSql.Proofs.Lexing.Term
import TerseSql.Proofs.Operator.Token
import TerseSql.Proofs.Result

/-!
# Padded operators

What an operator stands for when white space is added around it. A registered operator and one
that no dialect knows stand for the same as before. The operators that every dialect knows, and
`=` in an assignment, are lost, and so is a quantified one with white space after it: such an
operator is written as it is, white space included.
-/

namespace TerseSql

open Lexing

/-! ## What operators stand for -/

inductive Resolution where
  | registered (name : String)
  | known (op : Operator)
  | quantified
  | infixed
deriving DecidableEq, Repr

inductive UpdateResolution where
  | plain
  | registered (name : String)
  | combined
deriving DecidableEq, Repr

namespace Builtin

def resolve (b : Builtin) (token : String) : Resolution :=
  let token := if Text.isAllBlank token then "=" else token
  if (b.dialect.operators.find? token).isSome then .registered (Registry.normalize token)
  else
    match Operator.ofToken? token with
    | some op => .known op
    | none => if isQuantified token then .quantified else .infixed

def resolveUpdate (b : Builtin) (token : String) : UpdateResolution :=
  if token = "=" then .plain
  else if (b.dialect.updateOperators.find? token).isSome then
    .registered (Registry.normalize token)
  else .combined

def write (b : Builtin) (token : String) : Resolution → String → Value → Built String
  | .registered name, field, v =>
    match b.dialect.operators.handlers.lookup name with
    | some handler => handler b.dialect.toRenderer field v
    | none => b.dialect.defaultOperator name field v
  | .known op, field, v => op.render b.dialect field v
  | .quantified, field, v =>
    match b.dialect.term? v with
    | some term => .ok (field ++ " " ++ Text.upper token ++ " (" ++ term ++ ")")
    | none => .error (.quantifier (.noSubquery token))
  | .infixed, field, v => do return field ++ " " ++ token ++ " " ++ (← b.dialect.literal v)

def writeUpdate (b : Builtin) (token : String) : UpdateResolution → String → Value → Built String
  | .plain, field, v => b.dialect.assign field v
  | .registered name, field, v =>
    match b.dialect.updateOperators.handlers.lookup name with
    | some handler => handler b.dialect.toRenderer field v
    | none => b.dialect.defaultUpdate name field v
  | .combined, field, v => do return field ++ "=" ++ field ++ token ++ (← b.dialect.literal v)

end Builtin

theorem settled_token (token : String) :
    ((some token).filter fun t => !Text.isAllBlank t).getD "=" =
      if Text.isAllBlank token then "=" else token := by
  cases h : Text.isAllBlank token <;> simp [Option.filter, h]

theorem condition_eq_write (b : Builtin) (token field : String) (v : Value) :
    b.dialect.condition (some token) field v = b.write token (b.resolve token) field v := by
  unfold Dialect.condition Builtin.resolve
  dsimp only
  rw [settled_token]
  by_cases hblank : Text.isAllBlank token = true
  · rw [if_pos hblank]
    cases b <;> rfl
  · rw [if_neg hblank]
    cases hfind : b.dialect.operators.find? token with
    | some handler =>
      have hlookup : b.dialect.operators.handlers.lookup (Registry.normalize token) =
          some handler := hfind
      simp only [Option.isSome_some, if_true, Builtin.write, hlookup]
    | none =>
      simp only [Option.isSome_none, Bool.false_eq_true, if_false]
      cases Operator.ofToken? token with
      | some op => rfl
      | none =>
        dsimp only
        rw [defaultOperator_eq, Renderer.infixed]
        by_cases hquantified : isQuantified token = true
        · rw [if_pos hquantified, if_pos hquantified]
          rfl
        · rw [if_neg hquantified, if_neg hquantified]
          rfl

theorem assignment_eq_write (b : Builtin) (token field : String) (v : Value) :
    b.dialect.assignment (some token) field v =
      b.writeUpdate token (b.resolveUpdate token) field v := by
  unfold Dialect.assignment Builtin.resolveUpdate
  dsimp only
  by_cases htoken : token = "="
  · rw [if_pos htoken, if_pos htoken]
    rfl
  · rw [if_neg htoken, if_neg htoken]
    cases hfind : b.dialect.updateOperators.find? token with
    | some handler =>
      have hlookup : b.dialect.updateOperators.handlers.lookup (Registry.normalize token) =
          some handler := hfind
      simp only [Option.isSome_some, if_true, Builtin.writeUpdate, hlookup]
    | none => cases b <;> rfl

/-! ## Padding -/

/-- Whether what an operator stands for survives white space around it. The operators that every
dialect knows do not, and quantified ones only if there is none after them. -/
def Resolution.Survives (left token right : String) : Resolution → Prop
  | known _ => Text.isAllBlank token = true ∨ left = "" ∧ right = ""
  | quantified => right = ""
  | _ => True

instance (left token right : String) : DecidablePred (Resolution.Survives left token right)
  | .known _ => inferInstanceAs (Decidable (_ ∨ _))
  | .quantified => inferInstanceAs (Decidable (_ = _))
  | .registered _ => inferInstanceAs (Decidable True)
  | .infixed => inferInstanceAs (Decidable True)

section

variable (b : Builtin) {left right : String} (hleft : IsBlank left.toList)
  (hright : IsBlank right.toList)
include hleft hright

theorem find?_padded {α : Type} (r : Registry α) (token : String) :
    r.find? (left ++ token ++ right) = r.find? token := by
  unfold Registry.find?
  rw [normalize_padded hleft hright]

/-- What a padded operator stands for. -/
theorem resolve_padded (token : String) :
    b.resolve (left ++ token ++ right) =
      match b.resolve token with
      | .known op =>
        if Text.isAllBlank token = true ∨ left = "" ∧ right = "" then .known op else .infixed
      | .quantified => if right = "" then .quantified else .infixed
      | resolution => resolution := by
  unfold Builtin.resolve
  dsimp only
  rw [isAllBlank_padded hleft hright]
  by_cases hblank : Text.isAllBlank token = true
  · simp only [hblank, true_or, if_true]
    cases b <;> rfl
  · rw [if_neg hblank, if_neg hblank, find?_padded hleft hright, normalize_padded hleft hright,
      ofToken?_padded hleft hright, isQuantified_padded hleft hright]
    by_cases hregistered : (b.dialect.operators.find? token).isSome = true
    · rw [if_pos hregistered, if_pos hregistered]
    · rw [if_neg hregistered, if_neg hregistered]
      cases hop : Operator.ofToken? token with
      | some op =>
        obtain ⟨-, hquantified⟩ := solid_of_operator (Option.isSome_of_eq_some hop)
        by_cases hempty : left = "" ∧ right = ""
        · simp [hempty]
        · simp [hempty, hblank, hquantified]
      | none =>
        by_cases hquantified : isQuantified token = true
        · by_cases hright : right = "" <;> simp [hquantified, hright]
        · simp [hquantified]

theorem padded_eq_equals_iff (token : String) :
    left ++ token ++ right = "=" ↔ token = "=" ∧ left = "" ∧ right = "" := by
  constructor
  · intro h
    have hop : Operator.ofToken? (left ++ token ++ right) = some .eq := by rw [h]; rfl
    rw [ofToken?_padded hleft hright] at hop
    by_cases hempty : left = "" ∧ right = ""
    · obtain ⟨rfl, rfl⟩ := hempty
      rw [String.empty_append, String.append_empty] at h
      exact ⟨h, rfl, rfl⟩
    · rw [if_neg hempty] at hop
      cases hop
  · rintro ⟨rfl, rfl, rfl⟩
    rfl

theorem resolveUpdate_padded (token : String) :
    b.resolveUpdate (left ++ token ++ right) =
      match b.resolveUpdate token with
      | .plain => if left = "" ∧ right = "" then .plain else .combined
      | resolution => resolution := by
  unfold Builtin.resolveUpdate
  rw [find?_padded hleft hright, normalize_padded hleft hright]
  by_cases htoken : token = "="
  · have hfind : b.dialect.updateOperators.find? "=" = none := by cases b <;> rfl
    simp [padded_eq_equals_iff hleft hright, htoken, hfind]
  · rw [if_neg htoken, if_neg fun h => htoken ((padded_eq_equals_iff hleft hright token).mp h).1]
    split <;> rfl

end

/-! ## Padded conditions and assignments -/

/-- Both fail, with errors of one kind, or the second is written as the first is with white space
around a part of it. That white space is outside quotes if everything is clear. -/
inductive SameButSpace (d : Delimiters) (clear : Prop) : Built String → Built String → Prop where
  | failed {x y : Built String} : FailAlike x y → SameButSpace d clear x y
  | written {s s' : String} (before part after left right : String) :
      IsBlank left.toList → IsBlank right.toList → s = before ++ part ++ after →
      s' = before ++ left ++ part ++ right ++ after → (clear → d.squeeze s = d.squeeze s') →
      SameButSpace d clear (.ok s) (.ok s')

structure IsClear (d : Delimiters) (field token : String) : Prop where
  closes : d.Closes field
  nonempty : token.toList ≠ []
  plain : ∀ c ∈ token.toList, isDelimiter c = false

theorem upper_not_delimiter {s : String} (h : ∀ c ∈ s.toList, isDelimiter c = false) :
    ∀ c ∈ (Text.upper s).toList, isDelimiter c = false :=
  forall_upper (fun _ hc => not_delimiter_of_calm (calm_of_lexical Delimiters.double.quoting hc)) h

namespace SameButSpace

variable {d : Delimiters} {clear : Prop}

theorem refl (x : Built String) : SameButSpace d clear x x := by
  cases x with
  | error e => exact failed (failAlike_error e)
  | ok s =>
    exact written "" s "" "" "" isBlank_nil isBlank_nil (by simp) (by simp) fun _ => rfl

theorem around {left right : String} (hleft : IsBlank left.toList) (hright : IsBlank right.toList)
    {before part : String} (after : String) (h : clear → IsClear d before part) :
    SameButSpace d clear (.ok (before ++ part ++ after))
      (.ok (before ++ left ++ part ++ right ++ after)) := by
  refine written before part after left right hleft hright rfl rfl fun hclear => ?_
  obtain ⟨hbefore, hne, hpart⟩ := h hclear
  exact (Delimiters.squeeze_around hbefore hne hpart hleft hright).symm

end SameButSpace

namespace IsClear

variable {d : Delimiters} {field token : String} (h : IsClear d field token)
include h

theorem after_space : IsClear d (field ++ " ") token := by
  have hempty : d.Closes "" := rfl
  have hspace : d.Closes (field ++ " " ++ "") := h.closes.joint hempty rfl (by decide)
  rw [String.append_empty] at hspace
  exact ⟨hspace, h.nonempty, h.plain⟩

theorem upper : IsClear d field (Text.upper token) :=
  ⟨h.closes, upper_ne_nil h.nonempty, upper_not_delimiter h.plain⟩

theorem after_equals : IsClear d (field ++ "=" ++ field) token :=
  ⟨h.closes.joint h.closes rfl (by decide), h.nonempty, h.plain⟩

end IsClear

section

variable (b : Builtin) {left right : String} (hleft : IsBlank left.toList)
  (hright : IsBlank right.toList)
include hleft hright

theorem write_padded (token : String) (resolution : Resolution) (field : String) (v : Value) :
    SameButSpace b.delimiters (IsClear b.delimiters field token) (b.write token resolution field v)
      (b.write (left ++ token ++ right) resolution field v) := by
  cases resolution with
  | registered name => exact .refl _
  | known op => exact .refl _
  | quantified =>
    rw [Builtin.write, Builtin.write]
    generalize b.dialect.term? v = term?
    cases term? with
    | none => exact .failed ⟨_, _, rfl, rfl, rfl⟩
    | some term =>
      have hsame := SameButSpace.around hleft hright (" (" ++ term ++ ")")
        fun hclear : IsClear b.delimiters field token => hclear.after_space.upper
      simp only [Text.upper_append, Text.upper_blank hleft, Text.upper_blank hright,
        String.append_assoc] at hsame ⊢
      exact hsame
  | infixed =>
    rw [Builtin.write, Builtin.write]
    generalize b.dialect.literal v = literal
    cases literal with
    | error e => exact .failed (failAlike_error e)
    | ok s =>
      have hsame := SameButSpace.around hleft hright (" " ++ s)
        fun hclear : IsClear b.delimiters field token => hclear.after_space
      simp only [String.append_assoc] at hsame ⊢
      exact hsame

theorem writeUpdate_padded (token : String) (resolution : UpdateResolution) (field : String)
    (v : Value) :
    SameButSpace b.delimiters (IsClear b.delimiters field token)
      (b.writeUpdate token resolution field v)
      (b.writeUpdate (left ++ token ++ right) resolution field v) := by
  cases resolution with
  | plain => exact .refl _
  | registered name => exact .refl _
  | combined =>
    rw [Builtin.writeUpdate, Builtin.writeUpdate]
    generalize b.dialect.literal v = literal
    cases literal with
    | error e => exact .failed (failAlike_error e)
    | ok s =>
      have hsame := SameButSpace.around hleft hright s
        fun hclear : IsClear b.delimiters field token => hclear.after_equals
      simp only [String.append_assoc] at hsame ⊢
      exact hsame

/-! ## What padding changes -/

theorem resolve_padded_iff (token : String) :
    b.resolve (left ++ token ++ right) = b.resolve token ↔
      (b.resolve token).Survives left token right := by
  rw [resolve_padded b hleft hright]
  cases b.resolve token with
  | registered name => simp [Resolution.Survives]
  | infixed => simp [Resolution.Survives]
  | known op =>
    rw [Resolution.Survives]
    by_cases h : Text.isAllBlank token = true ∨ left = "" ∧ right = "" <;> simp [h]
  | quantified =>
    rw [Resolution.Survives]
    by_cases h : right = "" <;> simp [h]

theorem resolve_of_not_survives {token : String}
    (h : ¬(b.resolve token).Survives left token right) :
    b.resolve (left ++ token ++ right) = .infixed := by
  rw [resolve_padded b hleft hright]
  cases hresolve : b.resolve token with
  | registered name =>
    rw [hresolve] at h
    exact absurd trivial h
  | infixed => rfl
  | known op =>
    rw [hresolve] at h
    exact if_neg h
  | quantified =>
    rw [hresolve] at h
    exact if_neg h

theorem resolveUpdate_of_equals {token : String} (h : ¬(token = "=" → left = "" ∧ right = "")) :
    b.resolveUpdate (left ++ token ++ right) = .combined := by
  obtain ⟨rfl, hempty⟩ := Classical.not_imp.mp h
  rw [resolveUpdate_padded b hleft hright]
  exact if_neg hempty

theorem resolveUpdate_padded_iff (token : String) :
    b.resolveUpdate (left ++ token ++ right) = b.resolveUpdate token ↔
      (token = "=" → left = "" ∧ right = "") := by
  constructor
  · intro h htoken
    subst htoken
    by_contra hempty
    rw [resolveUpdate_of_equals b hleft hright fun himp => hempty (himp rfl)] at h
    cases h
  · intro h
    rw [resolveUpdate_padded b hleft hright]
    cases hresolve : b.resolveUpdate token with
    | plain =>
      have htoken : token = "=" := by
        unfold Builtin.resolveUpdate at hresolve
        split at hresolve
        · assumption
        · split at hresolve <;> cases hresolve
      exact if_pos (h htoken)
    | registered name => rfl
    | combined => rfl

/-- A padded operator stands for what it did, in exactly these cases, and then what is written is
the same but for white space. Otherwise the operator is written as it is, padding included. -/
theorem padded_operator (token field : String) (v : Value) :
    ((b.resolve (left ++ token ++ right) = b.resolve token ↔
        (b.resolve token).Survives left token right) ∧
      ((b.resolve token).Survives left token right →
        SameButSpace b.delimiters (IsClear b.delimiters field token)
          (b.dialect.condition (some token) field v)
          (b.dialect.condition (some (left ++ token ++ right)) field v)) ∧
      (¬(b.resolve token).Survives left token right →
        b.dialect.condition (some (left ++ token ++ right)) field v = do
          return field ++ " " ++ (left ++ token ++ right) ++ " " ++ (← b.dialect.literal v))) ∧
    ((b.resolveUpdate (left ++ token ++ right) = b.resolveUpdate token ↔
        (token = "=" → left = "" ∧ right = "")) ∧
      ((token = "=" → left = "" ∧ right = "") →
        SameButSpace b.delimiters (IsClear b.delimiters field token)
          (b.dialect.assignment (some token) field v)
          (b.dialect.assignment (some (left ++ token ++ right)) field v)) ∧
      (¬(token = "=" → left = "" ∧ right = "") →
        b.dialect.assignment (some (left ++ token ++ right)) field v = do
          return field ++ "=" ++ field ++ (left ++ token ++ right) ++
            (← b.dialect.literal v))) := by
  have hcondition := resolve_padded_iff b hleft hright token
  have hupdate := resolveUpdate_padded_iff b hleft hright token
  refine ⟨⟨hcondition, fun hsame => ?_, fun hlost => ?_⟩, hupdate, fun hsame => ?_, fun hlost => ?_⟩
  · rw [condition_eq_write, condition_eq_write, hcondition.mpr hsame]
    exact write_padded b hleft hright token _ field v
  · rw [condition_eq_write, resolve_of_not_survives b hleft hright hlost]
    rfl
  · rw [assignment_eq_write, assignment_eq_write, hupdate.mpr hsame]
    exact writeUpdate_padded b hleft hright token _ field v
  · rw [assignment_eq_write, resolveUpdate_of_equals b hleft hright hlost]
    rfl

end

/-- A comparison where a value was assigned, and a quantified operator without its parentheses. -/
theorem padded_operator_lost :
    IsBlank " ".toList ∧ IsBlank "".toList ∧
      Builtin.generic.dialect.assignment (some "=") "\"a\"" (.int 1) = .ok "\"a\"=1" ∧
      Builtin.generic.dialect.assignment (some " = ") "\"a\"" (.int 1) =
        .ok "\"a\"=\"a\" = 1" ∧
      Builtin.generic.dialect.condition (some "= any ") "\"a\"" (.raw ⟨"SELECT 1"⟩) =
        .ok "\"a\" = any  SELECT 1" := by
  have hspace : IsBlank " ".toList := by decide
  have hempty : IsBlank "".toList := by decide
  have hequals := padded_operator .generic hspace hspace "=" "\"a\"" (.int 1)
  have hany := padded_operator .generic hempty hspace "= any" "\"a\"" (.raw ⟨"SELECT 1"⟩)
  refine ⟨hspace, hempty, rfl, ?_, ?_⟩
  · exact hequals.2.2.2 (by decide)
  · exact hany.1.2.2 (by decide)

end TerseSql
