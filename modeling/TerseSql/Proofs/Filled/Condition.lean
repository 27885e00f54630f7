import TerseSql.Proofs.Blank.Condition
import TerseSql.Proofs.Filled.Part
import TerseSql.Proofs.Window.Keyword

/-!
# Conditions with their lists marked

The lists of a condition are its groups and, in a condition on a field, the members of IN and
the alternatives of a pattern. Empty lists of values are refused, so it is groups without
members and queries that write nothing that leave a list empty.
-/

namespace TerseSql

open Lexing Text

/-! ## Values -/

namespace Value

def RawFree (v : Value) : Prop :=
  ∀ r, .raw r ∉ v.leaves

def Populated (v : Value) : Prop :=
  ∀ q, .query q ∈ v.leaves → q.body ≠ ""

theorem rawFree_list (items : List Value) : (list items).RawFree ↔ ∀ v ∈ items, v.RawFree := by
  simp only [RawFree, leaves_list, List.mem_flatMap, not_exists, not_and]
  exact ⟨fun h v hv r => h r v hv, fun h r v hv => h v hv r⟩

theorem populated_list (items : List Value) :
    (list items).Populated ↔ ∀ v ∈ items, v.Populated := by
  simp only [Populated, leaves_list, List.mem_flatMap, forall_exists_index, and_imp]
  exact ⟨fun h v hv q hq => h q v hv hq, fun h q v hv hq => h v hv q hq⟩

theorem rawFree_collapse (v : Value) : v.collapse.RawFree ↔ v.RawFree := by
  rw [RawFree, leaves_collapse, RawFree]

theorem populated_collapse (v : Value) : v.collapse.Populated ↔ v.Populated := by
  rw [Populated, leaves_collapse, Populated]

theorem populated_query (q : Query) : (query q).Populated ↔ q.body ≠ "" := by
  unfold Populated leaves
  constructor
  · intro h
    exact h q List.mem_cons_self
  · intro h p hp
    cases List.mem_singleton.mp hp
    exact h

theorem populated_of_leaf {v : Value} (hleaf : v.leaves = [v]) (h : ∀ q, v ≠ query q) :
    v.Populated := by
  intro q hq
  rw [hleaf] at hq
  exact absurd (List.mem_singleton.mp hq).symm (h q)

end Value

/-! ## Literals -/

theorem toString_int_ne_empty (n : Int) : toString n ≠ "" := by
  obtain ⟨s, hs, hne, _⟩ := exists_signed_int n
  rw [hs]
  refine Part.append_ne_empty (Or.inr ?_)
  rintro rfl
  exact hne rfl

theorem FloatLayout.positional_ne_nil (digits : List Char) (point : Int) :
    positional digits point ≠ [] := by
  unfold positional
  by_cases hlow : point ≤ 0
  · rw [if_pos hlow]
    simp
  · rw [if_neg hlow]
    by_cases hlong : digits.length ≤ point
    · rw [if_pos hlong]
      simp
    · rw [if_neg hlong]
      simp

theorem FloatLayout.write_ne_empty (l : FloatLayout) (x : Float) : l.write x ≠ "" := by
  have hofList : ∀ cs : List Char, cs ≠ [] → String.ofList cs ≠ "" := by
    intro cs hcs h
    exact hcs (by simpa using congrArg String.toList h)
  unfold write
  cases Binary.ofFloat x with
  | nan =>
    show "NaN" ≠ ""
    decide
  | infinite negative =>
    show (if negative then "-inf" else "inf") ≠ ""
    cases negative <;> decide
  | finite negative mantissa exponent =>
    dsimp only
    by_cases hzero : mantissa = 0
    · rw [if_pos hzero]
      exact Part.append_ne_empty (Or.inr (by decide))
    · rw [if_neg hzero]
      refine Part.append_ne_empty (Or.inr (hofList _ ?_))
      split
      · exact positional_ne_nil _ _
      · unfold scientific
        simp

theorem ne_empty_of_foreign {s : String} (h : hasForeign s = true) : s ≠ "" := by
  rintro rfl
  cases h

theorem quoteText_ne_empty (b : Builtin) (s : String) : b.dialect.quoteText s ≠ "" := by
  rw [b.quoteText_eq]
  unfold textLiteral
  refine Part.append_ne_empty (Or.inr fun h => ?_)
  have hchars := congrArg String.toList h
  unfold Text.quoted at hchars
  simp at hchars

theorem literal_ne_empty (b : Builtin) {v : Value} {s : String}
    (h : b.dialect.literal v = .ok s) (hraw : ∀ r, v ≠ .raw r) (hquery : ∀ q, v ≠ .query q) :
    s ≠ "" := by
  rw [literal_eq] at h
  cases v with
  | null =>
    cases h
    rw [b.null_eq]
    decide
  | bool x =>
    cases h
    cases b <;> cases x <;> decide
  | int n =>
    cases h
    exact toString_int_ne_empty _
  | float x =>
    obtain ⟨-, rfl⟩ := floatLiteral_eq_ok_iff.mp h
    exact FloatLayout.write_ne_empty _ _
  | text t =>
    cases h
    exact quoteText_ne_empty b t
  | field f =>
    cases h
    exact ne_empty_of_foreign (hasForeign_field b f)
  | json document =>
    cases h
    exact quoteText_ne_empty b _
  | raw r => exact absurd rfl (hraw r)
  | query q => exact absurd rfl (hquery q)
  | list items => cases h
  | dict entries => cases h

def Query.part (q : Query) : Part :=
  match q.wrapping with
  | .unset => .text q.body
  | .bare => .around "(" (.text q.body) ")"
  | .named aliasName => .around "(" (.text q.body) (") AS " ++ q.lexicon.quote aliasName)

theorem Query.part_outlines (q : Query) : Part.Outlines (q.body ≠ "") q.part q.sql := by
  have htext : Part.Outlines (q.body ≠ "") (.text q.body) q.body :=
    ⟨by rw [Part.write], by rw [Part.Filled]⟩
  unfold Query.part Query.sql Statement.sql
  show Part.Outlines _ (match q.statement.wrapping with | .unset => _ | .bare => _ | .named _ => _) _
  cases q.statement.wrapping with
  | unset => exact htext
  | bare => exact htext.around "(" ")"
  | named aliasName =>
    have haround := htext.around "(" (") AS " ++ q.lexicon.quote aliasName)
    rw [← String.append_assoc] at haround
    exact haround

def Renderer.part (r : Renderer) : Value → Built Part
  | .query q => .ok q.part
  | v => Part.ofText (r.literal v)

section

variable {b : Builtin}

theorem literal_outlines {v : Value} (hraw : v.RawFree) :
    Alike (Part.Outlines v.Populated) (b.dialect.part v) (b.dialect.literal v) := by
  cases v with
  | query q =>
    rw [literal_eq]
    exact .ok (q.part_outlines.congr (Value.populated_query q).symm)
  | raw r => exact absurd List.mem_cons_self (hraw r)
  | list items =>
    show Alike _ (Part.ofText (b.dialect.literal (.list items))) _
    rw [literal_eq]
    exact .error
  | _ =>
    refine (Part.ofText_alike fun s hs => ?_).imp fun p s hp => hp.congr ?_
    · refine literal_ne_empty b hs (fun r hr => ?_) (fun q hq => ?_)
      · cases hr
      · cases hq
    · exact iff_of_true trivial (Value.populated_of_leaf rfl fun q hq => nomatch hq)

end

/-! ## Conditions on a field -/

namespace Renderer

variable (r : Renderer)

def membershipPart (op listOp field : String) (v : Value) : Built Part :=
  match v.collapse with
  | .list items => do
    let members ← (← nonEmpty field items).mapM r.part
    return .list (field ++ " " ++ listOp ++ " (") "," ")" members
  | .query q => .ok (.around (field ++ " " ++ listOp ++ " (") q.part ")")
  | scalar => do return .around (field ++ " " ++ op ++ " ") (← r.part scalar) ""

def matchPart (op field : String) (v : Value) : Built Part := do
  return .around (field ++ " " ++ op ++ " ") (← r.part v.wrapPattern) ""

def patternPart (op joiner field : String) (v : Value) : Built Part :=
  match v.collapse with
  | .list items => do
    return .list "(" joiner ")" (← (← nonEmpty field items).mapM (r.matchPart op field))
  | single => r.matchPart op field single

def rangePart (op field : String) : Value → Built Part
  | .list [low, high] => do
    return .list (field ++ " " ++ op ++ " ") " AND " "" [← r.part low, ← r.part high]
  | _ => .error (.condition (.notPair op))

def termPart? : Value → Option Part
  | .query q => some q.part
  | v => (r.term? v).map .text

def infixedPart (token field : String) (v : Value) : Built Part :=
  if isQuantified token then
    match r.termPart? v with
    | some p => .ok (.around (field ++ " " ++ Text.upper token ++ " (") p ")")
    | none => .error (.quantifier (.noSubquery token))
  else do return .around (field ++ " " ++ token ++ " ") (← r.part v) ""

end Renderer

def Rule.part (rule : Rule) (r : Renderer) (field : String) (v : Value) : Built Part :=
  match rule with
  | member op listOp => r.membershipPart op listOp field v
  | pattern op joiner => r.patternPart op joiner field v
  | range op => r.rangePart op field v
  | null => Part.ofText (Renderer.nullTest field v)
  | plain op => r.infixedPart op field v

section

variable {b : Builtin} {field : String}

theorem around_literal {v : Value} (hraw : v.RawFree) (before : String) :
    Alike (Part.Outlines v.Populated) (do return .around before (← b.dialect.part v) "")
      (do return before ++ (← b.dialect.literal v)) := by
  refine (literal_outlines hraw).bind fun p s hp => .ok ?_
  have haround := hp.around before ""
  rwa [String.append_empty] at haround

theorem nonEmpty_outlines {items : List Value} {f : Value → Built Part} {g : Value → Built String}
    {c : Value → Prop} (h : ∀ v ∈ items, Alike (Part.Outlines (c v)) (f v) (g v))
    (opening separator closing : String) :
    Alike (Part.Outlines (∀ v ∈ items, c v))
      (do return .list opening separator closing (← (← Renderer.nonEmpty field items).mapM f))
      (do return opening ++ Text.join separator (← (← Renderer.nonEmpty field items).mapM g) ++
        closing) := by
  cases items with
  | nil => exact .error
  | cons item rest =>
    refine (Part.mapM_alike h).bind fun ps ss hps => .ok ?_
    refine (hps.list opening separator closing).congr ?_
    simp only [ne_eq, List.cons_ne_nil, not_false_eq_true, true_and]

theorem membership_outlines (op listOp : String) {v : Value} (hraw : v.RawFree) :
    Alike (Part.Outlines v.Populated) (b.dialect.membershipPart op listOp field v)
      (b.dialect.membership op listOp field v) := by
  rw [← Value.rawFree_collapse] at hraw
  unfold Renderer.membershipPart Renderer.membership
  rw [← Value.populated_collapse]
  generalize v.collapse = w at hraw
  cases w with
  | list items =>
    rw [Value.populated_list]
    rw [Value.rawFree_list] at hraw
    exact nonEmpty_outlines (fun v hv => literal_outlines (hraw v hv)) _ _ _
  | query q =>
    have haround := q.part_outlines.around (field ++ " " ++ listOp ++ " (") ")"
    exact .ok (haround.congr (Value.populated_query q).symm)
  | _ => exact around_literal hraw _

theorem match_outlines (op : String) {v : Value} (hraw : v.RawFree) :
    Alike (Part.Outlines v.Populated) (b.dialect.matchPart op field v)
      (b.dialect.matchOne op field v) := by
  unfold Renderer.matchPart Renderer.matchOne
  cases v with
  | text s =>
    obtain ⟨t, ht⟩ : ∃ t, (Value.text s).wrapPattern = .text t := by
      by_cases hpercent : s.toList.head? = some '%' ∨ s.toList.getLast? = some '%'
      · exact ⟨s, if_pos hpercent⟩
      · exact ⟨"%" ++ s ++ "%", if_neg hpercent⟩
    have htext : (Value.text t).RawFree := fun r hr => nomatch List.mem_singleton.mp hr
    rw [ht]
    refine (around_literal htext _).imp fun p s hp => hp.congr ?_
    exact iff_of_true (Value.populated_of_leaf rfl fun q hq => nomatch hq)
      (Value.populated_of_leaf rfl fun q hq => nomatch hq)
  | _ => exact around_literal hraw _

theorem pattern_outlines (op joiner : String) {v : Value} (hraw : v.RawFree) :
    Alike (Part.Outlines v.Populated) (b.dialect.patternPart op joiner field v)
      (b.dialect.pattern op joiner field v) := by
  rw [← Value.rawFree_collapse] at hraw
  unfold Renderer.patternPart Renderer.pattern
  rw [← Value.populated_collapse]
  generalize v.collapse = w at hraw
  cases w with
  | list items =>
    rw [Value.populated_list]
    rw [Value.rawFree_list] at hraw
    exact nonEmpty_outlines (fun v hv => match_outlines op (hraw v hv)) _ _ _
  | _ => exact match_outlines op hraw

theorem range_outlines (op : String) {v : Value} (hraw : v.RawFree) :
    Alike (Part.Outlines v.Populated) (b.dialect.rangePart op field v)
      (b.dialect.range op field v) := by
  match v, hraw with
  | .list [low, high], hraw =>
    rw [Value.rawFree_list] at hraw
    rw [Value.populated_list]
    refine (literal_outlines (hraw low (by simp))).bind fun p s hp => ?_
    refine (literal_outlines (hraw high (by simp))).bind fun q t hq => .ok ⟨?_, ?_⟩
    · simp only [Part.write, Part.writeAll, Text.join, hp.write, hq.write, String.append_assoc,
        String.append_empty]
    · simp only [Part.Filled, Part.FilledAll, hp.filled, hq.filled, ne_eq, List.cons_ne_nil,
        not_false_eq_true, true_and, and_true, List.forall_mem_cons, List.not_mem_nil,
        false_imp_iff, implies_true]
  | .list [], _ | .list [_], _ | .list (_ :: _ :: _ :: _), _
  | .null, _ | .bool _, _ | .int _, _ | .float _, _ | .text _, _ | .dict _, _ | .raw _, _
  | .field _, _ | .query _, _ | .json _, _ => exact .error

theorem infixed_outlines (token : String) {v : Value} (hraw : v.RawFree) :
    Alike (Part.Outlines v.Populated) (b.dialect.infixedPart token field v)
      (b.dialect.infixed token field v) := by
  unfold Renderer.infixedPart Renderer.infixed
  by_cases hquantified : isQuantified token = true
  · rw [if_pos hquantified, if_pos hquantified]
    cases v with
    | raw r => exact absurd List.mem_cons_self (hraw r)
    | field f =>
      have htext := Part.outlines_text (ne_empty_of_foreign (hasForeign_field b f))
      refine .ok ((htext.around _ ")").congr ?_)
      exact iff_of_true trivial (Value.populated_of_leaf rfl fun q hq => nomatch hq)
    | query q => exact .ok ((q.part_outlines.around _ ")").congr (Value.populated_query q).symm)
    | _ => exact .error
  · rw [if_neg hquantified, if_neg hquantified]
    exact around_literal hraw _

theorem nullTest_outlines (v : Value) :
    Alike (Part.Outlines v.Populated) (Part.ofText (Renderer.nullTest field v))
      (Renderer.nullTest field v) := by
  unfold Renderer.nullTest
  cases v with
  | null =>
    have htext : field ++ " IS NULL" ≠ "" := Part.append_ne_empty (Or.inr (by decide))
    refine .ok ((Part.outlines_text htext).congr ?_)
    exact iff_of_true trivial (Value.populated_of_leaf rfl fun q hq => nomatch hq)
  | _ => exact .error

theorem rule_outlines (rule : Rule) (field : String) {v : Value} (hraw : v.RawFree) :
    Alike (Part.Outlines v.Populated) (rule.part b.dialect.toRenderer field v)
      (rule.condition b.dialect.toRenderer field v) := by
  cases rule with
  | member op listOp => exact membership_outlines op listOp hraw
  | pattern op joiner => exact pattern_outlines op joiner hraw
  | range op => exact range_outlines op hraw
  | null => exact nullTest_outlines v
  | plain op => exact infixed_outlines op hraw

end

/-! ## Trees of conditions -/

def Connective.part (c : Connective) : List Part → Part
  | [single] => single
  | members => .list "(" c.separator ")" members

namespace Condition

def leafPart (b : Builtin) (name : String) (v : Value) : Built Part := do
  let t ← ConditionTerm.ofKey name
  let p ← (b.rule t.operator).part b.dialect.toRenderer (t.field.render b.dialect.toLexicon) v
  return if t.negated then .around "NOT " p "" else p

def conjoinPart : List Part → Part
  | [only] => .unwrapped only
  | members => .list "" " AND " "" members

namespace Tree

mutual

def part (b : Builtin) : Tree → Built Part
  | raw r => .ok (.text r.sql)
  | leaf name v => leafPart b name v
  | group c members => do return c.part (← partsOf b members)
  | broken e => .error e

def partsOf (b : Builtin) : List Tree → Built (List Part)
  | [] => .ok []
  | t :: rest => do
    let first ← part b t
    let others ← partsOf b rest
    return first :: others

end

mutual

def Populated : Tree → Prop
  | leaf _ v => v.Populated
  | group _ members => members ≠ [] ∧ PopulatedAll members
  | raw _ | broken _ => True

def PopulatedAll : List Tree → Prop
  | [] => True
  | t :: rest => Populated t ∧ PopulatedAll rest

end

theorem populatedAll_iff (ts : List Tree) : PopulatedAll ts ↔ ∀ t ∈ ts, t.Populated := by
  induction ts with
  | nil => simp only [PopulatedAll, List.not_mem_nil, false_imp_iff, implies_true]
  | cons t ts ih => rw [PopulatedAll, ih, List.forall_mem_cons]

/-- The part is written as the text, which is more than parentheses if the part is filled. -/
structure Draws (c : Prop) (p : Part) (s : String) : Prop extends Part.Outlines c p s where
  foreign : c → hasForeign s = true

structure DrawsAll (ts : List Tree) (ps : List Part) (ss : List String) : Prop
    extends Part.OutlinesAll ts Populated ps ss where
  foreign : PopulatedAll ts → ∀ s ∈ ss, hasForeign s = true

theorem DrawsAll.length_texts {ts : List Tree} {ps : List Part} {ss : List String}
    (h : DrawsAll ts ps ss) : ss.length = ts.length := by
  have hlength : ∀ ps : List Part, (Part.writeAll ps).length = ps.length := by
    intro ps
    induction ps with
    | nil => rw [Part.writeAll]; rfl
    | cons p ps ih => rw [Part.writeAll, List.length_cons, List.length_cons, ih]
  rw [← h.write, hlength, h.length]

theorem leaf_draws (b : Builtin) (name : String) {v : Value} (hraw : v.RawFree) :
    Alike (Draws v.Populated) (leafPart b name v) (Condition.leaf b.dialect name v) := by
  have houtline : Alike (Part.Outlines v.Populated) (leafPart b name v)
      (Condition.leaf b.dialect name v) := by
    unfold leafPart Condition.leaf
    cases ConditionTerm.ofKey name with
    | error e => exact .error
    | ok t =>
      have hrule := rule_outlines (b := b) (b.rule t.operator)
        (t.field.render b.dialect.toLexicon) hraw
      rw [← condition_eq_rule] at hrule
      refine hrule.bind fun p s hp => .ok ?_
      by_cases hnegated : t.negated = true
      · rw [if_pos hnegated, if_pos hnegated]
        have hnot := hp.around "NOT " ""
        rwa [String.append_empty] at hnot
      · rw [if_neg hnegated, if_neg hnegated]
        exact hp
  have hforeign := Part.alike_gives houtline (foreign_leaf b name v)
  exact hforeign.imp fun p s hp => ⟨hp.1, fun _ => hp.2⟩

theorem group_draws (c : Connective) {ts : List Tree} {ps : List Part} {ss : List String}
    (h : DrawsAll ts ps ss) : Draws (ts ≠ [] ∧ PopulatedAll ts) (c.part ps) (c.group ss) := by
  have hlist := h.list "(" c.separator ")"
  rw [← populatedAll_iff] at hlist
  have hforeign : ts ≠ [] ∧ PopulatedAll ts → ∃ s ∈ ss, hasForeign s = true := by
    intro ⟨hne, hall⟩
    have hpos : 0 < ss.length := by
      rw [h.length_texts]
      exact List.length_pos_iff.mpr hne
    exact ⟨ss[0], List.getElem_mem hpos, h.foreign hall _ (List.getElem_mem hpos)⟩
  by_cases hsingle : ∃ p, ps = [p]
  · -- A single member stands alone, and the text is its text.
    obtain ⟨p, rfl⟩ := hsingle
    have hss : ss = [p.write] := by rw [← h.write, Part.writeAll, Part.writeAll]
    subst hss
    refine ⟨⟨rfl, ?_⟩, fun hall => ?_⟩
    · rw [← hlist.filled]
      simp only [Connective.part, Part.Filled, Part.FilledAll, ne_eq, List.cons_ne_nil,
        not_false_eq_true, true_and, and_true]
    · obtain ⟨s, hs, hsforeign⟩ := hforeign hall
      rw [List.mem_singleton.mp hs] at hsforeign
      exact hsforeign
  · have hmany : ∀ s, ss ≠ [s] := by
      rintro s rfl
      have hlength : ps.length = 1 := by
        rw [h.length, ← h.length_texts]
        rfl
      exact hsingle (List.length_eq_one_iff.mp hlength)
    have hpart : c.part ps = .list "(" c.separator ")" ps := by
      unfold Connective.part
      split
      · next p => exact absurd ⟨p, rfl⟩ hsingle
      · rfl
    rw [hpart, c.group_eq_parens hmany]
    refine ⟨hlist, fun hall => ?_⟩
    obtain ⟨s, hs, hsforeign⟩ := hforeign hall
    simp [hasForeign_join hs hsforeign]

mutual

theorem tree_draws (b : Builtin) : ∀ t : Tree, t.Every (fun _ v => v.RawFree) →
    Alike (Draws t.Populated) (t.part b) (t.render b.dialect)
  | .raw r, h => absurd h id
  | .leaf name v, h => by
    rw [part, render, Populated]
    exact leaf_draws b name h
  | .group c members, h => by
    rw [part, render, Populated]
    exact (trees_draw b members h).bind fun ps ss hps => .ok (group_draws c hps)
  | .broken e, _ => by
    rw [part, render]
    exact .error

theorem trees_draw (b : Builtin) : ∀ ts : List Tree, EveryOf (fun _ v => v.RawFree) ts →
    Alike (DrawsAll ts) (partsOf b ts) (renderAll b.dialect ts)
  | [], _ => by
    rw [partsOf, renderAll]
    exact .ok ⟨Part.outlinesAll_nil _, fun _ s hs => nomatch hs⟩
  | t :: rest, h => by
    rw [partsOf, renderAll]
    refine (tree_draws b t h.1).bind fun p s hp => ?_
    refine (trees_draw b rest h.2).bind fun ps ss hps => .ok ?_
    refine ⟨hp.toOutlines.cons hps.toOutlinesAll, fun hall => ?_⟩
    exact List.forall_mem_cons.mpr ⟨hp.foreign hall.1, hps.foreign hall.2⟩

end

/-- The parts of a predicate are conjoined like its texts. -/
theorem conjoin_outlines {ts : List Tree} {ps : List Part} {ss : List String}
    (h : DrawsAll ts ps ss) (hne : ts ≠ []) :
    Part.Outlines (PopulatedAll ts) (conjoinPart ps) (conjoin ss) := by
  -- A single part loses its parentheses, but not what is foreign to them.
  by_cases hsingle : ∃ p, ps = [p]
  · obtain ⟨p, rfl⟩ := hsingle
    have hss : ss = [p.write] := by rw [← h.write, Part.writeAll, Part.writeAll]
    have hfilled : p.Filled ↔ PopulatedAll ts := by
      rw [populatedAll_iff, ← h.filled, Part.FilledAll, Part.FilledAll, and_true]
    subst hss
    refine ⟨by rw [conjoinPart, Part.write, conjoin], ?_⟩
    rw [conjoinPart, Part.Filled, hfilled, and_iff_left_iff_imp]
    intro hall
    have hforeign := h.foreign hall p.write List.mem_cons_self
    rw [Part.write]
    cases hinside : inside? p.write with
    | none => exact ne_empty_of_foreign hforeign
    | some inner => exact ne_empty_of_foreign (foreign_inside hforeign hinside)
  · have hlist := h.bare " AND "
    rw [← populatedAll_iff] at hlist
    have hpart : conjoinPart ps = .list "" " AND " "" ps := by
      unfold conjoinPart
      split
      · next p => exact absurd ⟨p, rfl⟩ hsingle
      · rfl
    have htext : conjoin ss = Text.join " AND " ss := by
      unfold conjoin
      split
      · next s =>
        have hlength : ps.length = 1 := by
          rw [h.length, ← h.length_texts]
          rfl
        exact absurd (List.length_eq_one_iff.mp hlength) hsingle
      · rfl
    rw [hpart, htext]
    exact hlist.congr (and_iff_right hne)

end Tree

end Condition

end TerseSql
