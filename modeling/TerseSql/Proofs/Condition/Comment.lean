import TerseSql.Dialect.Builtin
import TerseSql.Proofs.Result
import TerseSql.Proofs.Shorthand.Condition

/-!
# Comments in trees of conditions

A comment behind a name keeps it apart from the same name in one dictionary. Comments may
stand behind any names of a tree, of fields and connectives alike, and hold brackets and marks
of their own. None of them reaches the predicate (`render_commented`).
-/

namespace TerseSql

structure Comment where
  gap : Shorthand.Gap
  text : Shorthand.CommentText

namespace Comment

def chars (c : Comment) : List Char :=
  c.gap.chars ++ '#' :: c.text.chars

def behind (c : Comment) (name : String) : String :=
  name ++ String.ofList c.chars

theorem toList_behind (c : Comment) (name : String) :
    (c.behind name).toList = name.toList ++ c.chars := by
  rw [behind, String.toList_append, String.toList_ofList]

theorem trimLeft_chars (c : Comment) : Text.trimLeft c.chars = '#' :: c.text.chars := by
  rw [chars, trimLeft_append c.gap.isBlank, trimLeft_cons (by decide)]

end Comment

/-! ## Keys -/

namespace Grammar

variable {cs : List Char} (hcs : '#' ∉ cs) (c : Comment)

include hcs

theorem comment?_comment : comment? (cs ++ c.chars) = comment? cs := by
  unfold comment?
  by_cases hblank : IsBlank cs
  · rw [trimLeft_append hblank, c.trimLeft_chars, trimLeft_of_blank hblank]
    simp [c.text.one_line]
  · obtain ⟨d, rest, htrim⟩ := exists_cons_trimLeft hblank
    have hd : d ≠ '#' := by
      rintro rfl
      exact hcs (mem_of_mem_trimLeft (htrim ▸ List.mem_cons_self))
    rw [trimLeft_append_right hblank, htrim]
    simp [hd]

/-- Brackets of the comment close nothing that was open before it. -/
theorem upTo_comment {closing : Char} {taken op : List Char}
    (h : upTo closing false comment? taken cs = some (op, ())) :
    upTo closing false comment? taken (cs ++ c.chars) = some (op, ()) := by
  induction cs generalizing taken with
  | nil => cases h
  | cons d cs ih =>
    rw [List.mem_cons, not_or] at hcs
    rw [upTo] at h
    rw [List.cons_append, upTo, comment?_comment hcs.2]
    generalize (if d = closing ∧ (false = true → taken ≠ []) then
      (comment? cs).map (taken.reverse, ·) else none) = here at h ⊢
    cases here with
    | some found => exact h
    | none =>
      -- Nothing is closed here, and a line break ends the search with and without a comment.
      dsimp only at h ⊢
      by_cases hline : d = '\n'
      · rw [if_pos hline] at h
        cases h
      · rw [if_neg hline] at h ⊢
        exact ih hcs.2 h

theorem operator?_comment {op : Option (List Char)} (hne : cs ≠ []) (h : operator? cs = some op) :
    operator? (cs ++ c.chars) = some op := by
  cases cs with
  | nil => exact absurd rfl hne
  | cons d cs =>
    by_cases hd : d = '['
    · rw [hd] at h ⊢
      rw [hd, List.mem_cons, not_or] at hcs
      rw [operator?] at h
      obtain ⟨found, hfound, rfl⟩ := Option.map_eq_some_iff.mp h
      rw [List.cons_append, operator?, upTo_comment hcs.2 c hfound]
      rfl
    · have hread : ∀ rest, operator? (d :: rest) = (comment? (d :: rest)).map fun _ => none := by
        intro rest
        unfold operator?
        split
        · next heq => exact absurd (List.cons.inj heq).1 hd
        · rfl
      rw [List.cons_append, hread, ← List.cons_append, comment?_comment hcs, ← hread]
      exact h

end Grammar

namespace Grammar

theorem ReadsMark.mem {cs body : List Char} {negated : Bool} (h : ReadsMark cs negated body)
    {d : Char} (hd : d ∈ body) : d ∈ cs := by
  cases h with
  | negated htrim => exact mem_of_mem_trimLeft (htrim ▸ List.mem_cons_of_mem _ hd)
  | plain => exact hd

theorem ReadsMark.comment {cs body : List Char} {negated : Bool} (h : ReadsMark cs negated body)
    (c : Comment) : ReadsMark (cs ++ c.chars) negated (body ++ c.chars) := by
  by_cases hblank : IsBlank cs
  · cases h with
    | negated htrim =>
      rw [trimLeft_of_blank hblank] at htrim
      cases htrim
    | plain =>
      refine .plain ?_
      rw [trimLeft_append hblank, c.trimLeft_chars]
      simp
  · cases h with
    | negated htrim =>
      refine .negated ?_
      rw [trimLeft_append_right hblank, htrim]
      rfl
    | plain hhead =>
      refine .plain ?_
      obtain ⟨d, rest, htrim⟩ := exists_cons_trimLeft hblank
      rw [trimLeft_append_right hblank, htrim]
      rw [htrim] at hhead
      exact hhead

/-- White space before the comment goes to the last text before it, if no operator stands
between them. -/
theorem IsField.comment {name rest : List Char} {op : Option (List Char)} (h : IsField name rest)
    (hrest : '#' ∉ rest) (hop : operator? rest = some op) (c : Comment) :
    ∃ gap rest', IsBlank gap ∧ rest ++ c.chars = gap ++ rest' ∧ IsField (name ++ gap) rest' ∧
      operator? rest' = some op ∧ (rest.head? ≠ some '|' → rest'.head? ≠ some '|') := by
  cases rest with
  | nil =>
    -- The key ends with the text, which goes on up to the mark of the comment.
    refine ⟨c.gap.chars, '#' :: c.text.chars, c.gap.isBlank, rfl, ?_, ?_, by simp⟩
    · refine ⟨by simp [h.ne_nil], ?_, ?_⟩
      · exact List.forall_mem_append.mpr ⟨h.text, conditionText_of_blank c.gap.isBlank⟩
      · intro d hd
        cases hd
        decide
    · cases hop
      simp [operator?, comment?, trimLeft_cons (c := '#') (by decide), c.text.one_line]
  | cons d rest =>
    refine ⟨[], d :: rest ++ c.chars, isBlank_nil, rfl, ?_,
      operator?_comment hrest c (List.cons_ne_nil _ _) hop, id⟩
    rw [List.append_nil]
    exact ⟨h.ne_nil, h.text, h.stop⟩

/-- With a comment behind it the same is read, up to white space behind the texts. -/
theorem ReadsBody.comment {body name : List Char} {func op : Option (List Char)}
    (h : ReadsBody body name func op) (hbody : '#' ∉ body) (c : Comment) :
    ∃ name' func', ReadsBody (body ++ c.chars) name' func' op ∧
      Text.trimChars name' = Text.trimChars name ∧
      func'.map Text.trimChars = func.map Text.trimChars := by
  cases h with
  | @bare _ rest _ hname hbar hop =>
    have hrest : '#' ∉ rest := fun hmark => hbody (List.mem_append_right _ hmark)
    obtain ⟨gap, rest', hgap, htext, hname, hop, hhead⟩ := hname.comment hrest hop c
    refine ⟨name ++ gap, none, ?_, Text.trimChars_after hgap name, rfl⟩
    rw [List.append_assoc, htext, ← List.append_assoc]
    exact .bare hname (hhead hbar) hop
  | @under _ func rest _ hname hfunc hop =>
    have hrest : '#' ∉ rest := by
      intro hmark
      exact hbody (List.mem_append_right _ (List.mem_cons_of_mem _ (List.mem_append_right _ hmark)))
    obtain ⟨gap, rest', hgap, htext, hfunc, hop, -⟩ := hfunc.comment hrest hop c
    refine ⟨name, some (func ++ gap), ?_, rfl, congrArg some (Text.trimChars_after hgap func)⟩
    rw [List.append_assoc, List.cons_append, List.append_assoc, htext, ← List.append_assoc]
    exact .under ⟨hname.ne_nil, hname.text, hname.stop⟩ hfunc hop

end Grammar

theorem trim_ofList_congr {a b : List Char} (h : Text.trimChars a = Text.trimChars b) :
    Text.trim (String.ofList a) = Text.trim (String.ofList b) := by
  unfold Text.trim
  rw [String.toList_ofList, String.toList_ofList, h]

theorem readFunction_congr {a b : Option (List Char)}
    (h : a.map Text.trimChars = b.map Text.trimChars) :
    FieldExpr.readFunction (a.map String.ofList) = FieldExpr.readFunction (b.map String.ofList) := by
  have htrim : ∀ o : Option (List Char),
      ((o.map String.ofList).map fun f => (Text.trim f).toList) = o.map Text.trimChars := by
    intro o
    cases o with
    | none => rfl
    | some cs => simp [Text.trim]
  unfold FieldExpr.readFunction
  rw [htrim, htrim, h]

theorem ConditionTerm.ofKey_behind {name : String} {t : ConditionTerm} (hname : '#' ∉ name.toList)
    (c : Comment) (h : ofKey name = .ok t) : ofKey (c.behind name) = .ok t := by
  unfold ofKey at h ⊢
  cases hk : Grammar.condition? name with
  | none =>
    rw [hk] at h
    cases h
  | some k =>
    obtain ⟨negated, body, path, func, op, hmark, hbody, rfl⟩ :=
      Grammar.condition?_eq_some_iff.mp hk
    have hsharp : '#' ∉ body := fun hsharp => hname (hmark.mem hsharp)
    obtain ⟨path', func', hbody, hpath, hfunc⟩ := hbody.comment hsharp c
    have hmark := hmark.comment c
    rw [← c.toList_behind] at hmark
    have hk' := Grammar.condition?_eq_some_iff.mpr
      ⟨_, _, _, _, _, hmark, hbody, rfl⟩
    rw [hk] at h
    rw [hk', ← h]
    unfold FieldExpr.make
    dsimp only
    rw [trim_ofList_congr hpath, readFunction_congr hfunc]

theorem Connective.ofKey?_behind {name : String} (hname : '#' ∉ name.toList) (c : Comment) :
    ofKey? (c.behind name) = ofKey? name := by
  have hkeep : ∀ cs : List Char, '#' ∉ cs → ∀ d ∈ cs, decide (d ≠ '#') = true := by
    intro cs hcs d hd
    rw [decide_eq_true_eq]
    rintro rfl
    exact hcs hd
  have hgap : '#' ∉ c.gap.chars := by
    intro hmark
    have hblank := c.gap.isBlank '#' hmark
    revert hblank
    decide
  have hall : '#' ∉ name.toList ++ c.gap.chars := by simp [hname, hgap]
  have hbehind : (c.behind name).toList.takeWhile (· ≠ '#') = name.toList ++ c.gap.chars := by
    rw [c.toList_behind, Comment.chars, ← List.append_assoc]
    exact takeWhile_span (hkeep _ hall) (by simp)
  have halone : name.toList.takeWhile (· ≠ '#') = name.toList :=
    List.takeWhile_eq_self_iff.mpr (hkeep _ hname)
  unfold ofKey?
  rw [hbehind, halone, trim_ofList_congr (Text.trimChars_after c.gap.isBlank name.toList)]

/-! ## Trees -/

namespace Condition

/-- A key with a comment behind it, if it is a name without any, or the key as it is. -/
inductive CommentedKey : Key → Key → Prop where
  | same (key : Key) : CommentedKey key key
  | comment {name : String} (c : Comment) : '#' ∉ name.toList →
    CommentedKey (.name name) (.name (c.behind name))

/-- Whether a key names a field. What stands under it is a value then, no group of conditions. -/
def namesField : Key → Bool
  | .name name => (Connective.ofKey? name).isNone
  | .raw _ => false

mutual

inductive CommentedEntry : Key → Value → Key → Value → Prop where
  | value {key key' : Key} (v : Value) : CommentedKey key key' → CommentedEntry key v key' v
  | dict {key key' : Key} {entries entries' : List (Key × Value)} : CommentedKey key key' →
    namesField key = false → CommentedEntries entries entries' →
    CommentedEntry key (.dict ⟨entries⟩) key' (.dict ⟨entries'⟩)
  | list {key key' : Key} {items items' : List Value} : CommentedKey key key' →
    namesField key = false → CommentedItems items items' →
    CommentedEntry key (.list items) key' (.list items')

inductive CommentedEntries : List (Key × Value) → List (Key × Value) → Prop where
  | nil : CommentedEntries [] []
  | cons {key key' : Key} {v v' : Value} {rest rest' : List (Key × Value)} :
    CommentedEntry key v key' v' → CommentedEntries rest rest' →
    CommentedEntries ((key, v) :: rest) ((key', v') :: rest')

inductive CommentedItems : List Value → List Value → Prop where
  | nil : CommentedItems [] []
  | same {rest rest' : List Value} (item : Value) : CommentedItems rest rest' →
    CommentedItems (item :: rest) (item :: rest')
  | key {name name' : String} {rest rest' : List Value} :
    CommentedKey (.name name) (.name name') → CommentedItems rest rest' →
    CommentedItems (.text name :: rest) (.text name' :: rest')
  | pair {k k' v v' : Value} {key key' : Key} {rest rest' : List Value} : pairKey k = .ok key →
    pairKey k' = .ok key' → CommentedEntry key v key' v' → CommentedItems rest rest' →
    CommentedItems (.list [k, v] :: rest) (.list [k', v'] :: rest')

end

variable (d : Dialect)

theorem leaf_behind {name : String} {v : Value} {s : String} (hname : '#' ∉ name.toList)
    (c : Comment) (h : leaf d name v = .ok s) : leaf d (c.behind name) v = .ok s := by
  obtain ⟨t, ht, hs⟩ := Built.exists_of_bind h
  unfold leaf
  rw [ConditionTerm.ofKey_behind hname c ht]
  exact hs

/-- The keys are one piece of raw SQL, or names that mean the same connective or field. -/
theorem CommentedKey.read {key key' : Key} (h : CommentedKey key key') :
    (∃ r, key = .raw r ∧ key' = .raw r) ∨ ∃ name name', key = .name name ∧ key' = .name name' ∧
      Connective.ofKey? name' = Connective.ofKey? name ∧
      ∀ v s, leaf d name v = .ok s → leaf d name' v = .ok s := by
  cases h with
  | same =>
    cases key with
    | raw r => exact .inl ⟨r, rfl, rfl⟩
    | name name => exact .inr ⟨name, name, rfl, rfl, rfl, fun _ _ h => h⟩
  | @comment name c hname =>
    exact .inr ⟨name, c.behind name, rfl, rfl, Connective.ofKey?_behind hname c,
      fun _ _ h => leaf_behind d hname c h⟩

theorem single_commented {key key' : Key} {v : Value} {s : String} (hkey : CommentedKey key key')
    (h : single d key v = .ok s) : single d key' v = .ok s := by
  obtain ⟨r, rfl, rfl⟩ | ⟨name, name', rfl, rfl, hsame, hleaf⟩ := hkey.read d
  · exact h
  · unfold single at h ⊢
    dsimp only at h ⊢
    rw [hsame]
    cases hc : Connective.ofKey? name with
    | some connective =>
      rw [hc] at h
      cases h
    | none =>
      rw [hc] at h
      exact hleaf v s h

/-- Only under a field it matters which value is there. -/
theorem collection_commented {key key' : Key} {v v' : Value} {members members' : Built (List String)}
    {s : String} (hkey : CommentedKey key key') (hv : namesField key = true → v' = v)
    (hmembers : ∀ ss, members = .ok ss → members' = .ok ss)
    (h : collection d key v members = .ok s) : collection d key' v' members' = .ok s := by
  obtain ⟨r, rfl, rfl⟩ | ⟨name, name', rfl, rfl, hsame, hleaf⟩ := hkey.read d
  · exact h
  · unfold collection at h ⊢
    dsimp only at h ⊢
    rw [hsame]
    cases hc : Connective.ofKey? name with
    | some connective =>
      rw [hc] at h
      obtain ⟨ss, hss, hs⟩ := Built.exists_of_bind h
      dsimp only
      rw [hmembers ss hss]
      exact hs
    | none =>
      -- The key names a field, and its value is the one that was there.
      rw [hc] at h
      rw [hv (by simp [namesField, hc])]
      exact hleaf v s h

def item : Value → Built String
  | .list [k, v] => do entry d (← pairKey k) v
  | .raw r => .ok r.sql
  | .text name => single d (.name name) .null
  | v => .error (.condition (.notItem v))

theorem item_pair {k v : Value} {key : Key} (h : pairKey k = .ok key) :
    item d (.list [k, v]) = entry d key v := by
  rw [item, h]
  rfl

theorem itemsOf_cons (v : Value) (rest : List Value) :
    itemsOf d (v :: rest) = do
      let first ← item d v
      let others ← itemsOf d rest
      return first :: others := by
  unfold item
  split
  · next k v =>
    rw [itemsOf, bind_assoc]
  · next r =>
    rw [itemsOf]
    rfl
  · next name => rw [itemsOf]
  · next hpair hraw htext =>
    rw [itemsOf]
    · rfl
    all_goals assumption

theorem entry_of_commented {key key' : Key} (hkey : CommentedKey key key') {v : Value} {s : String}
    (h : entry d key v = .ok s) : entry d key' v = .ok s := by
  cases v with
  | dict entries =>
    rw [entry] at h ⊢
    exact collection_commented d hkey (fun _ => rfl) (fun _ hss => hss) h
  | list items =>
    rw [entry] at h ⊢
    exact collection_commented d hkey (fun _ => rfl) (fun _ hss => hss) h
  | _ =>
    simp only [entry] at h ⊢
    exact single_commented d hkey h

mutual

/-- Comments in an entry do not change what is written for it. -/
theorem entry_commented {key key' : Key} {v v' : Value} :
    CommentedEntry key v key' v' → ∀ s, entry d key v = .ok s → entry d key' v' = .ok s
  | .value v hkey => fun _ h => entry_of_commented d hkey h
  | .dict hkey hgroup hentries => by
    intro s h
    rw [entry] at h ⊢
    exact collection_commented d hkey (fun hfield => nomatch hgroup.symm.trans hfield)
      (entriesOf_commented hentries) h
  | .list hkey hgroup hitems => by
    intro s h
    rw [entry] at h ⊢
    exact collection_commented d hkey (fun hfield => nomatch hgroup.symm.trans hfield)
      (itemsOf_commented hitems) h

theorem entriesOf_commented {entries entries' : List (Key × Value)} :
    CommentedEntries entries entries' → ∀ ss, entriesOf d entries = .ok ss →
      entriesOf d entries' = .ok ss
  | .nil => fun _ h => h
  | .cons hentry hrest => by
    intro ss h
    rw [entriesOf, Built.cons_eq_ok_iff] at h ⊢
    obtain ⟨first, others, hfirst, hothers, rfl⟩ := h
    exact ⟨first, others, entry_commented hentry first hfirst,
      entriesOf_commented hrest others hothers, rfl⟩

theorem itemsOf_commented {items items' : List Value} :
    CommentedItems items items' → ∀ ss, itemsOf d items = .ok ss → itemsOf d items' = .ok ss
  | .nil => fun _ h => h
  | .same item hrest => by
    intro ss h
    rw [itemsOf_cons, Built.cons_eq_ok_iff] at h ⊢
    obtain ⟨first, others, hfirst, hothers, rfl⟩ := h
    exact ⟨first, others, hfirst, itemsOf_commented hrest others hothers, rfl⟩
  | .key hkey hrest => by
    intro ss h
    rw [itemsOf_cons, Built.cons_eq_ok_iff] at h ⊢
    obtain ⟨first, others, hfirst, hothers, rfl⟩ := h
    rw [item] at hfirst ⊢
    exact ⟨first, others, single_commented d hkey hfirst,
      itemsOf_commented hrest others hothers, rfl⟩
  | .pair hk hk' hentry hrest => by
    intro ss h
    rw [itemsOf_cons, Built.cons_eq_ok_iff] at h ⊢
    obtain ⟨first, others, hfirst, hothers, rfl⟩ := h
    rw [item_pair d hk] at hfirst
    rw [item_pair d hk']
    exact ⟨first, others, entry_commented hentry first hfirst,
      itemsOf_commented hrest others hothers, rfl⟩

end

/-- Comments behind the names of a tree never reach the predicate. -/
theorem render_commented {conditions conditions' : Dict Value} {s : String}
    (h : CommentedEntries conditions.entries conditions'.entries)
    (hs : render d conditions = .ok s) : render d conditions' = .ok s := by
  obtain ⟨ss, hss, hs⟩ := Built.exists_of_bind hs
  unfold render
  rw [entriesOf_commented d h ss hss]
  exact hs

/-- Comments with brackets behind a connective, behind the key of a pair, and behind a key
alone. -/
theorem render_commented_brackets :
    render Builtin.generic.dialect
      ⟨[(.name "or # 1]", .list [.list [.text "a[~]\n#[]", .text "x"], .text "b[==]#|]"])]⟩ =
        .ok "\"a\" LIKE '%x%' OR \"b\" IS NULL" := by
  have hgroup : CommentedKey (.name "or") (.name "or # 1]") :=
    .comment ⟨⟨[' '], by decide⟩, ⟨[' ', '1', ']'], by decide⟩⟩ (by decide)
  have hpair : CommentedKey (.name "a[~]") (.name "a[~]\n#[]") :=
    .comment ⟨⟨['\n'], by decide⟩, ⟨['[', ']'], by decide⟩⟩ (by decide)
  have halone : CommentedKey (.name "b[==]") (.name "b[==]#|]") :=
    .comment ⟨⟨[], by decide⟩, ⟨['|', ']'], by decide⟩⟩ (by decide)
  have hitems : CommentedItems [.list [.text "a[~]", .text "x"], .text "b[==]"]
      [.list [.text "a[~]\n#[]", .text "x"], .text "b[==]#|]"] :=
    .pair rfl rfl (.value _ hpair) (.key halone .nil)
  have hrender : render Builtin.generic.dialect
      ⟨[(.name "or", .list [.list [.text "a[~]", .text "x"], .text "b[==]"])]⟩ =
        .ok "\"a\" LIKE '%x%' OR \"b\" IS NULL" := rfl
  refine render_commented Builtin.generic.dialect ?_ hrender
  exact .cons (.list hgroup rfl hitems) .nil

end Condition

end TerseSql
