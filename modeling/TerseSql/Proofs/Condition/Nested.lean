import TerseSql.Proofs.Condition.Balanced

/-!
# Conditions under one connective

The root of a predicate loses the parentheses of a single group. So conditions that stand under
AND, or under any number of them, are the same predicate as without, and alternatives are joined
as they are.
-/

namespace TerseSql.Condition

variable {b : Builtin} {conditions : Dict Value}

/-- Conditions under the first key, that under the second, and so on. -/
def under : List String → Dict Value → Dict Value
  | [], conditions => conditions
  | key :: keys, conditions => under keys ⟨[(.name key, .dict conditions)]⟩

/-! ## Groups at the root -/

theorem entriesOf_group (d : Dialect) {key : String} {c : Connective}
    (hkey : Connective.ofKey? key = some c) (conditions : Dict Value) :
    entriesOf d [(.name key, .dict conditions)] =
      (entriesOf d conditions.entries).map fun ss => [c.group ss] := by
  obtain ⟨entries⟩ := conditions
  rw [entriesOf, entriesOf, entry]
  unfold collection
  dsimp only
  rw [hkey]
  cases entriesOf d entries <;> rfl

theorem conjoin_parens {c : Connective} {ss : List String} (h : ∀ s ∈ ss, Balanced s)
    (hss : ∀ s, ss ≠ [s]) : conjoin [c.group ss] = Text.join c.separator ss := by
  have hsep : IsPlainName c.separator := by cases c <;> decide
  rw [c.group_eq_parens hss, conjoin, (Balanced.join hsep h).inside, Option.getD_some]

/-- The root does not show whether conditions stand in a group under AND. -/
theorem conjoin_group {ss : List String} (h : ∀ s ∈ ss, Balanced s) :
    conjoin [Connective.and.group ss] = conjoin ss := by
  by_cases hsingle : ∃ s, ss = [s]
  · obtain ⟨s, rfl⟩ := hsingle
    rfl
  · have hss : ∀ s, ss ≠ [s] := fun s hs => hsingle ⟨s, hs⟩
    rw [conjoin_parens h hss]
    unfold conjoin
    split
    · next s => exact absurd rfl (hss s)
    · rfl

/-! ## Predicates -/

theorem length_entriesOf {d : Dialect} {entries : List (Key × Value)} {ss : List String}
    (h : entriesOf d entries = .ok ss) : ss.length = entries.length := by
  induction entries generalizing ss with
  | nil =>
    rw [entriesOf] at h
    cases h
    rfl
  | cons e rest ih =>
    rw [entriesOf] at h
    obtain ⟨first, others, _, hothers, rfl⟩ := Built.cons_eq_ok_iff.mp h
    rw [List.length_cons, List.length_cons, ih hothers]

theorem ofDict_group {key : String} {c : Connective} (hkey : Connective.ofKey? key = some c)
    (conditions : Dict Value) :
    Tree.ofDict ⟨[(.name key, .dict conditions)]⟩ = [.group c (Tree.ofDict conditions)] := by
  obtain ⟨entries⟩ := conditions
  unfold Tree.ofDict
  rw [Tree.ofEntries, Tree.ofEntries, Tree.ofEntry]
  unfold Tree.ofCollection
  dsimp only
  rw [hkey]

theorem balanced_entriesOf (h : Tree.EveryOf b.SealedLeaf (Tree.ofDict conditions)) :
    Gives (fun ss => ∀ s ∈ ss, Balanced s) (entriesOf b.dialect conditions.entries) := by
  rw [Tree.entriesOf_eq]
  exact Tree.balanced_renderAll _ h

theorem render_group {key : String} {c : Connective} (hkey : Connective.ofKey? key = some c) :
    render b.dialect ⟨[(.name key, .dict conditions)]⟩ =
      (entriesOf b.dialect conditions.entries).map fun ss => conjoin [c.group ss] := by
  unfold render
  rw [entriesOf_group _ hkey]
  cases entriesOf b.dialect conditions.entries <;> rfl

theorem render_and (h : Tree.EveryOf b.SealedLeaf (Tree.ofDict conditions)) {key : String}
    (hkey : Connective.ofKey? key = some .and) :
    render b.dialect ⟨[(.name key, .dict conditions)]⟩ = render b.dialect conditions := by
  have hbalanced := balanced_entriesOf h
  rw [render_group hkey]
  unfold render
  cases hss : entriesOf b.dialect conditions.entries with
  | error e => rfl
  | ok ss => exact congrArg Except.ok (conjoin_group (hbalanced ss hss))

/-- Conditions under any number of AND are the predicate that they are without. Conditions under
OR, if there are at least two, are joined by it and stand in no parentheses. -/
theorem render_under (h : Tree.EveryOf b.SealedLeaf (Tree.ofDict conditions)) :
    (∀ keys, (∀ key ∈ keys, Connective.ofKey? key = some .and) →
      render b.dialect (under keys conditions) = render b.dialect conditions) ∧
    ∀ key, Connective.ofKey? key = some .or → 2 ≤ conditions.size →
      render b.dialect ⟨[(.name key, .dict conditions)]⟩ =
        (entriesOf b.dialect conditions.entries).map (Text.join " OR ") := by
  constructor
  · intro keys hkeys
    induction keys generalizing conditions with
    | nil => rfl
    | cons key keys ih =>
      obtain ⟨hkey, hkeys⟩ := List.forall_mem_cons.mp hkeys
      have hgroup : Tree.EveryOf b.SealedLeaf
          (Tree.ofDict ⟨[(.name key, .dict conditions)]⟩) := by
        rw [ofDict_group hkey]
        exact ⟨h, trivial⟩
      exact (ih hgroup hkeys).trans (render_and h hkey)
  · intro key hkey hsize
    have hbalanced := balanced_entriesOf h
    rw [render_group hkey]
    cases hss : entriesOf b.dialect conditions.entries with
    | error e => rfl
    | ok ss =>
      have hlength : ss.length = conditions.size := length_entriesOf hss
      refine congrArg Except.ok (conjoin_parens (hbalanced ss hss) ?_)
      rintro s rfl
      rw [List.length_singleton] at hlength
      omega

def quotedParens : Dict Value :=
  ⟨[(.name "a[~]", .list [.text ") OR ('", .text "(["]),
    (.name "!b|max[>]", .field ⟨none, some "t", "c"⟩)]⟩

theorem sealed_quotedParens :
    Tree.EveryOf Builtin.mssql.SealedLeaf (Tree.ofDict quotedParens) := by
  refine ⟨?_, ?_, trivial⟩
  · have hkey : ConditionTerm.ofKey "a[~]" =
        .ok ⟨false, ⟨⟨none, none, "a"⟩, none, false, none⟩, some "~"⟩ := rfl
    refine Builtin.sealedLeaf_of_key hkey (fun op hop => ?_) fun x hx => ?_
    · cases hop
      decide
    · have hmem : x = .text ") OR ('" ∨ x = .text "([" := by
        simpa [Value.leaves, Value.leavesOf] using hx
      rcases hmem with rfl | rfl <;> exact trivial
  · have hkey : ConditionTerm.ofKey "!b|max[>]" =
        .ok ⟨true, ⟨⟨none, none, "b"⟩, some "max", false, none⟩, some ">"⟩ := rfl
    refine Builtin.sealedLeaf_of_key hkey (fun op hop => ?_) fun x hx => ?_
    · cases hop
      decide
    · obtain rfl := List.mem_singleton.mp hx
      intro n hn _
      have hmem : n = "t" ∨ n = "c" := by simpa [Field.parts] using hn
      rcases hmem with rfl | rfl <;> decide

/-- Under two AND the conditions are as without, and under OR they are alternatives. -/
theorem render_under_quotes :
    Tree.EveryOf Builtin.mssql.SealedLeaf (Tree.ofDict quotedParens) ∧
    render Builtin.mssql.dialect (under ["AND", "and #1"] quotedParens) =
      .ok "([a] LIKE '%) OR (''%' OR [a] LIKE '%([%') AND NOT MAX([b]) > [t].[c]" ∧
    render Builtin.mssql.dialect ⟨[(.name "or", .dict quotedParens)]⟩ =
      .ok "([a] LIKE '%) OR (''%' OR [a] LIKE '%([%') OR NOT MAX([b]) > [t].[c]" := by
  obtain ⟨hand, hor⟩ := render_under sealed_quotedParens
  refine ⟨sealed_quotedParens, ?_, ?_⟩
  · exact (hand ["AND", "and #1"] (by decide)).trans rfl
  · exact (hor "or" rfl (by decide)).trans rfl

end TerseSql.Condition
