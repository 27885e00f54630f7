import Mathlib.Data.List.Forall2
import TerseSql.Proofs.Name.Blank
import TerseSql.Settings

/-!
# Texts with variables

A text with variables is cut from the left into plain text, variables and dollar signs that stand
alone, in one way only. Expanding it puts the value of each variable in its place, once: what a
value holds is not looked into again.
-/

namespace TerseSql

namespace Template

/-! ## Segments -/

inductive Segment where
  | plain (text : List Char)
  | variable (name : String)
  | lone
deriving DecidableEq

/-- The segments of a text from the left. Plain text goes on to the next dollar sign, a name in
braces to the first closing one or the end of the text, and a bare name as far as its characters
do. -/
inductive Splits : List Char → List Segment → Prop where
  | nil : Splits [] []
  | plain {text rest : List Char} {segments : List Segment} : text ≠ [] → '$' ∉ text →
    (∀ c ∈ rest.head?, c = '$') → Splits rest segments →
    Splits (text ++ rest) (.plain text :: segments)
  | closed {name rest : List Char} {segments : List Segment} : '\x7d' ∉ name →
    Splits rest segments →
    Splits ('$' :: '\x7b' :: (name ++ '\x7d' :: rest)) (.variable (String.ofList name) :: segments)
  | unclosed {name : List Char} : '\x7d' ∉ name →
    Splits ('$' :: '\x7b' :: name) [.variable (String.ofList name)]
  | bare {name rest : List Char} {segments : List Segment} : name ≠ [] →
    (∀ c ∈ name, isNameChar c = true) → (∀ c ∈ rest.head?, isNameChar c = false) →
    Splits rest segments →
    Splits ('$' :: (name ++ rest)) (.variable (String.ofList name) :: segments)
  | lone {rest : List Char} {segments : List Segment} :
    (∀ c ∈ rest.head?, isNameChar c = false ∧ c ≠ '\x7b') → Splits rest segments →
    Splits ('$' :: rest) (.lone :: segments)

def cut : List Char → Option (Segment × List Char)
  | [] => none
  | c :: rest =>
    if c ≠ '$' then
      some (.plain ((c :: rest).takeWhile (· != '$')), (c :: rest).dropWhile (· != '$'))
    else if rest.head? = some '\x7b' then
      some (.variable (String.ofList ((rest.drop 1).takeWhile (· != '\x7d'))),
        ((rest.drop 1).dropWhile (· != '\x7d')).drop 1)
    else if rest.takeWhile isNameChar = [] then some (.lone, rest)
    else some (.variable (String.ofList (rest.takeWhile isNameChar)), rest.dropWhile isNameChar)

/-- A text up to the first character that a test refuses, and what is left. -/
theorem exists_span (p : Char → Bool) (cs : List Char) : ∃ first rest, cs = first ++ rest ∧
    (∀ c ∈ first, p c = true) ∧ ∀ c ∈ rest.head?, p c = false :=
  ⟨cs.takeWhile p, cs.dropWhile p, List.takeWhile_append_dropWhile.symm,
    fun _ hc => List.mem_takeWhile_imp hc, head_dropWhile p cs⟩

theorem bne_of_not_mem {c : Char} {cs : List Char} (h : c ∉ cs) :
    ∀ d ∈ cs, (d != c) = true := by
  intro d hd
  rw [bne_iff_ne]
  rintro rfl
  exact h hd

theorem head_not_brace {name rest : List Char} (hne : name ≠ [])
    (hname : ∀ c ∈ name, isNameChar c = true) : (name ++ rest).head? ≠ some '\x7b' := by
  obtain ⟨c, name, rfl⟩ := List.exists_cons_of_ne_nil hne
  intro h
  have hc := hname c List.mem_cons_self
  rw [Option.some.inj h] at hc
  exact absurd hc (by decide)

theorem takeWhile_eq_nil {p : Char → Bool} {rest : List Char} (h : ∀ c ∈ rest.head?, p c = false) :
    rest.takeWhile p = [] := by
  cases rest with
  | nil => rfl
  | cons c rest => exact List.takeWhile_cons_of_neg (by simp [h c rfl])

/-- Each segment of a text is cut from what the segments before it left. -/
theorem Splits.exists_cut {cs : List Char} {segment : Segment} {segments : List Segment}
    (h : Splits cs (segment :: segments)) :
    ∃ rest, cut cs = some (segment, rest) ∧ Splits rest segments := by
  cases h with
  | @plain text rest _ hne htext hrest hsplits =>
    have hall := bne_of_not_mem htext
    have hstop : ∀ c ∈ rest.head?, (c != '$') = false := fun c hc => by simp [hrest c hc]
    obtain ⟨c, text, rfl⟩ := List.exists_cons_of_ne_nil hne
    have hc : c ≠ '$' := bne_iff_ne.mp (hall c List.mem_cons_self)
    refine ⟨rest, ?_, hsplits⟩
    rw [List.cons_append, cut, if_pos hc, ← List.cons_append, takeWhile_span hall hstop,
      dropWhile_span hall hstop]
  | @closed name rest _ hname hsplits =>
    have hall := bne_of_not_mem hname
    have hstop : ∀ c ∈ ('\x7d' :: rest).head?, (c != '\x7d') = false := by simp
    refine ⟨rest, ?_, hsplits⟩
    rw [cut, if_neg (by simp), if_pos (by rfl), List.drop_one, List.tail_cons,
      takeWhile_span hall hstop, dropWhile_span hall hstop, List.drop_one, List.tail_cons]
  | @unclosed name hname =>
    have hall := bne_of_not_mem hname
    refine ⟨[], ?_, .nil⟩
    rw [cut, if_neg (by simp), if_pos (by rfl), List.drop_one, List.tail_cons,
      List.takeWhile_eq_self_iff.mpr hall, List.dropWhile_eq_nil_iff.mpr hall, List.drop_nil]
  | @bare name rest _ hne hname hrest hsplits =>
    refine ⟨rest, ?_, hsplits⟩
    rw [cut, if_neg (by simp), if_neg (head_not_brace hne hname), takeWhile_span hname hrest,
      if_neg hne, dropWhile_span hname hrest]
  | @lone rest _ hrest hsplits =>
    refine ⟨rest, ?_, hsplits⟩
    have hbrace : rest.head? ≠ some '\x7b' := fun hbrace => (hrest _ hbrace).2 rfl
    rw [cut, if_neg (by simp), if_neg hbrace, if_pos (takeWhile_eq_nil fun c hc => (hrest c hc).1)]

theorem Splits.nil_iff {cs : List Char} : Splits cs [] ↔ cs = [] := by
  constructor
  · rintro ⟨⟩
    rfl
  · rintro rfl
    exact .nil

/-- A text is cut into segments in one way only. -/
theorem Splits.unique {cs : List Char} {segments found : List Segment} (h : Splits cs segments)
    (hfound : Splits cs found) : segments = found := by
  induction segments generalizing cs found with
  | nil =>
    obtain rfl := nil_iff.mp h
    cases found with
    | nil => rfl
    | cons segment found =>
      obtain ⟨rest, hcut, -⟩ := hfound.exists_cut
      cases hcut
  | cons segment segments ih =>
    obtain ⟨rest, hcut, hrest⟩ := h.exists_cut
    cases found with
    | nil =>
      obtain rfl := nil_iff.mp hfound
      cases hcut
    | cons segment' found =>
      obtain ⟨rest', hcut', hrest'⟩ := hfound.exists_cut
      rw [hcut] at hcut'
      cases hcut'
      rw [ih hrest hrest']

/-- A text that is not empty has a first segment, and less is left behind it. -/
theorem exists_first (c : Char) (cs : List Char) : ∃ segment rest, rest.length < (c :: cs).length ∧
    ∀ segments, Splits rest segments → Splits (c :: cs) (segment :: segments) := by
  -- A dollar sign opens braces, stands before a name, or stands alone. Any other character goes
  -- on as plain text up to the next one.
  by_cases hdollar : c = '$'
  · subst hdollar
    by_cases hbrace : ∃ inner, cs = '\x7b' :: inner
    · obtain ⟨inner, rfl⟩ := hbrace
      obtain ⟨name, rest, rfl, hname, hrest⟩ := exists_span (· != '\x7d') inner
      have hname : '\x7d' ∉ name := fun hmem => bne_iff_ne.mp (hname _ hmem) rfl
      cases rest with
      | nil =>
        refine ⟨.variable (String.ofList name), [], by simp, fun segments hsegments => ?_⟩
        obtain rfl := hsegments.unique .nil
        rw [List.append_nil]
        exact .unclosed hname
      | cons d rest =>
        obtain rfl : d = '\x7d' := by simpa using hrest d rfl
        exact ⟨_, rest, by simp; omega, fun _ => .closed hname⟩
    · obtain ⟨name, rest, rfl, hname, hrest⟩ := exists_span isNameChar cs
      cases name with
      | nil =>
        refine ⟨.lone, rest, by simp, fun _ => .lone fun d hd => ⟨hrest d hd, ?_⟩⟩
        rintro rfl
        exact hbrace ⟨rest.tail, List.eq_cons_of_mem_head? hd⟩
      | cons d name =>
        exact ⟨_, rest, by simp; omega, fun _ => .bare (List.cons_ne_nil _ _) hname hrest⟩
  · obtain ⟨text, rest, htext, hall, hrest⟩ := exists_span (· != '$') (c :: cs)
    have hne : text ≠ [] := by
      rintro rfl
      exact hdollar (by simpa using hrest c (by rw [List.nil_append] at htext; simp [← htext]))
    rw [htext]
    refine ⟨.plain text, rest, ?_, fun _ => .plain hne ?_ ?_⟩
    · rw [List.length_append]
      have := List.length_pos_of_ne_nil hne
      omega
    · exact fun hmem => bne_iff_ne.mp (hall _ hmem) rfl
    · exact fun d hd => by simpa using hrest d hd

theorem exists_splits : ∀ cs : List Char, ∃ segments, Splits cs segments
  | [] => ⟨[], .nil⟩
  | c :: cs => by
    obtain ⟨segment, rest, hless, hsplits⟩ := exists_first c cs
    obtain ⟨segments, hsegments⟩ := exists_splits rest
    exact ⟨segment :: segments, hsplits segments hsegments⟩
termination_by cs => cs.length
decreasing_by exact hless

/-! ## Pieces -/

def Segment.pieces : Segment → List Piece
  | .plain text => text.map .plain
  | .variable name => [.variable name.toList]
  | .lone => [.plain '$']

theorem pieces_plain {text : List Char} (h : '$' ∉ text) (rest : List Char) :
    Template.pieces (text ++ rest) = text.map .plain ++ Template.pieces rest := by
  induction text with
  | nil => rfl
  | cons c text ih =>
    rw [List.mem_cons, not_or] at h
    have hc : c ≠ '$' := Ne.symm h.1
    rw [List.cons_append, Template.pieces, ih h.2, List.map_cons, List.cons_append]
    · exact fun _ heq => absurd heq hc
    · exact hc

theorem pieces_of_cut {cs rest : List Char} {segment : Segment}
    (h : cut cs = some (segment, rest)) :
    Template.pieces cs = segment.pieces ++ Template.pieces rest := by
  cases cs with
  | nil => cases h
  | cons c cs =>
    rw [cut] at h
    by_cases hdollar : c = '$'
    · rw [if_neg (not_not_intro hdollar)] at h
      subst hdollar
      by_cases hbrace : cs.head? = some '\x7b'
      · rw [if_pos hbrace] at h
        cases h
        obtain ⟨inner, rfl⟩ : ∃ inner, cs = '\x7b' :: inner := ⟨_, List.eq_cons_of_mem_head? hbrace⟩
        rw [Template.pieces, Segment.pieces, String.toList_ofList]
        rfl
      · rw [if_neg hbrace] at h
        rw [Template.pieces]
        · by_cases hname : cs.takeWhile isNameChar = []
          · rw [if_pos hname] at h
            cases h
            rw [hname]
            rfl
          · rw [if_neg hname] at h
            cases h
            obtain ⟨d, name, hcons⟩ := List.exists_cons_of_ne_nil hname
            rw [hcons, Segment.pieces, String.toList_ofList]
            rfl
        · rintro inner rfl
          exact hbrace rfl
    · rw [if_pos hdollar] at h
      cases h
      have htext : '$' ∉ (c :: cs).takeWhile (· != '$') :=
        fun hmem => absurd (List.mem_takeWhile_imp hmem) (by decide)
      have hplain := pieces_plain htext ((c :: cs).dropWhile (· != '$'))
      rwa [List.takeWhile_append_dropWhile] at hplain

theorem Splits.pieces_eq {cs : List Char} {segments : List Segment} (h : Splits cs segments) :
    Template.pieces cs = segments.flatMap Segment.pieces := by
  induction segments generalizing cs with
  | nil =>
    rw [nil_iff.mp h, Template.pieces]
    rfl
  | cons segment segments ih =>
    obtain ⟨rest, hcut, hrest⟩ := h.exists_cut
    rw [pieces_of_cut hcut, ih hrest, List.flatMap_cons]

/-! ## Values -/

def Segment.valueOf (env : Environment) : Segment → Except String String
  | .plain text => .ok (String.ofList text)
  | .variable name =>
    match env name with
    | some value => .ok value
    | none => .error name
  | .lone => .ok "$"

variable {env : Environment}

theorem mapM_plain (text : List Char) :
    (text.map Piece.plain).mapM (Template.valueOf env) = .ok (text.map fun c => [c]) := by
  induction text with
  | nil => rfl
  | cons c text ih =>
    rw [List.map_cons, List.mapM_cons, ih]
    rfl

theorem Segment.flatten_pieces : ∀ segment : Segment,
    (segment.pieces.mapM (Template.valueOf env)).map List.flatten =
      (segment.valueOf env).map String.toList
  | .plain text => by
    rw [pieces, mapM_plain, valueOf, Except.map, Except.map, ← List.flatMap_def,
      List.flatMap_singleton', String.toList_ofList]
  | .variable name => by
    rw [pieces, List.mapM_cons, List.mapM_nil, valueOf, Template.valueOf, String.ofList_toList]
    cases env name with
    | none => rfl
    | some value => exact congrArg Except.ok (List.append_nil _)
  | .lone => rfl

/-- Values of parts of a text put together are the values of the text. -/
theorem flatten_append {x y : Except String (List (List Char))} :
    (do let first ← x; let rest ← y; return first ++ rest).map List.flatten =
      (do let first ← x.map List.flatten; let rest ← y.map List.flatten; return first ++ rest) := by
  cases x with
  | error e => rfl
  | ok first =>
    cases y with
    | error e => rfl
    | ok rest => exact congrArg Except.ok List.flatten_append

theorem flatten_pieces (segments : List Segment) :
    ((segments.flatMap Segment.pieces).mapM (Template.valueOf env)).map List.flatten =
      (segments.mapM (Segment.valueOf env)).map (List.flatMap String.toList) := by
  induction segments with
  | nil => rfl
  | cons segment segments ih =>
    rw [List.flatMap_cons, List.mapM_append, flatten_append, segment.flatten_pieces, ih,
      List.mapM_cons]
    cases segment.valueOf env with
    | error name => rfl
    | ok value =>
      cases segments.mapM (Segment.valueOf env) with
      | error name => rfl
      | ok values => rfl

/-- A text is expanded segment by segment. -/
theorem Splits.expand_eq {s : String} {segments : List Segment} (h : Splits s.toList segments) :
    expand env s = (segments.mapM (Segment.valueOf env)).map String.join := by
  have hflatten := @flatten_pieces env segments
  rw [← h.pieces_eq] at hflatten
  have hexpand : expand env s =
      (((Template.pieces s.toList).mapM (Template.valueOf env)).map List.flatten).map
        String.ofList := by
    unfold expand
    cases (Template.pieces s.toList).mapM (Template.valueOf env) <;> rfl
  rw [hexpand, hflatten]
  cases segments.mapM (Segment.valueOf env) with
  | error name => rfl
  | ok values =>
    refine congrArg Except.ok (String.toList_injective ?_)
    rw [String.toList_ofList, String.toList_join]

/-! ## Variables without a value -/

theorem Segment.valueOf_eq_error_iff {name : String} : ∀ {segment : Segment},
    segment.valueOf env = .error name ↔ segment = .variable name ∧ env name = none
  | .plain _ => ⟨fun h => (nomatch h), fun h => (nomatch h.1)⟩
  | .lone => ⟨fun h => (nomatch h), fun h => (nomatch h.1)⟩
  | .variable other => by
    rw [valueOf, Segment.variable.injEq]
    constructor
    · intro h
      split at h
      · cases h
      · next hnone =>
        cases h
        exact ⟨rfl, hnone⟩
    · rintro ⟨rfl, hnone⟩
      rw [hnone]

theorem mapM_eq_ok_iff {segments : List Segment} {values : List String} :
    segments.mapM (Segment.valueOf env) = .ok values ↔
      List.Forall₂ (fun segment value => segment.valueOf env = .ok value) segments values := by
  induction segments generalizing values with
  | nil =>
    rw [List.forall₂_nil_left_iff]
    exact ⟨fun h => (Except.ok.inj h).symm, fun h => h ▸ rfl⟩
  | cons segment segments ih =>
    rw [List.mapM_cons, List.forall₂_cons_left_iff]
    simp only [← ih]
    cases segment.valueOf env with
    | error name => exact ⟨fun h => (nomatch h), fun ⟨_, _, h, _⟩ => (nomatch h)⟩
    | ok value =>
      cases segments.mapM (Segment.valueOf env) with
      | error name => exact ⟨fun h => (nomatch h), fun ⟨_, _, _, h, _⟩ => (nomatch h)⟩
      | ok rest =>
        constructor
        · intro h
          exact ⟨value, rest, rfl, rfl, (Except.ok.inj h).symm⟩
        · rintro ⟨_, _, ⟨⟩, ⟨⟩, rfl⟩
          rfl

theorem mapM_cons_eq_error_iff {segment : Segment} {segments : List Segment} {name : String} :
    (segment :: segments).mapM (Segment.valueOf env) = .error name ↔
      segment = .variable name ∧ env name = none ∨
        (∀ other, segment = .variable other → env other ≠ none) ∧
          segments.mapM (Segment.valueOf env) = .error name := by
  rw [List.mapM_cons]
  cases hvalue : segment.valueOf env with
  | error missing =>
    obtain ⟨rfl, hmissing⟩ := Segment.valueOf_eq_error_iff.mp hvalue
    constructor
    · intro h
      cases h
      exact Or.inl ⟨rfl, hmissing⟩
    · rintro (⟨heq, -⟩ | ⟨hfound, -⟩)
      · cases heq
        rfl
      · exact absurd hmissing (hfound missing rfl)
  | ok value =>
    have hfound : ∀ other, segment = .variable other → env other ≠ none := by
      intro other hother hnone
      rw [Segment.valueOf_eq_error_iff.mpr ⟨hother, hnone⟩] at hvalue
      cases hvalue
    constructor
    · intro h
      refine Or.inr ⟨hfound, ?_⟩
      cases hrest : segments.mapM (Segment.valueOf env) with
      | error missing =>
        rw [hrest] at h
        cases h
        rfl
      | ok values =>
        rw [hrest] at h
        cases h
    · rintro (⟨hsegment, hnone⟩ | ⟨-, hrest⟩)
      · exact absurd hnone (hfound name hsegment)
      · rw [hrest]
        rfl

/-- The first variable without a value is the one that is missed. -/
theorem mapM_eq_error_iff {segments : List Segment} {name : String} :
    segments.mapM (Segment.valueOf env) = .error name ↔
      ∃ before after, segments = before ++ Segment.variable name :: after ∧ env name = none ∧
        ∀ earlier, Segment.variable earlier ∈ before → env earlier ≠ none := by
  induction segments with
  | nil => exact ⟨fun h => (nomatch h), fun ⟨_, _, h, _⟩ => absurd h (by simp)⟩
  | cons segment segments ih =>
    rw [mapM_cons_eq_error_iff, ih]
    constructor
    · rintro (⟨rfl, hnone⟩ | ⟨hfound, before, after, rfl, hnone, hearlier⟩)
      · exact ⟨[], segments, rfl, hnone, fun _ h => (nomatch h)⟩
      · refine ⟨segment :: before, after, rfl, hnone, fun earlier hmem => ?_⟩
        rcases List.mem_cons.mp hmem with heq | hmem
        · exact hfound earlier heq.symm
        · exact hearlier earlier hmem
    · rintro ⟨before, after, heq, hnone, hearlier⟩
      cases before with
      | nil =>
        cases heq
        exact Or.inl ⟨rfl, hnone⟩
      | cons first before =>
        cases heq
        refine Or.inr ⟨?_, before, after, rfl, hnone,
          fun earlier hmem => hearlier earlier (List.mem_cons_of_mem _ hmem)⟩
        rintro other rfl
        exact hearlier other List.mem_cons_self

/-- Some variable is missed if any has no value. -/
theorem exists_missed {segments : List Segment} {name : String} (h : .variable name ∈ segments)
    (hnone : env name = none) :
    ∃ missing, segments.mapM (Segment.valueOf env) = .error missing := by
  induction segments with
  | nil => cases h
  | cons segment segments ih =>
    by_cases hfound : ∀ other, segment = .variable other → env other ≠ none
    · have hrest : .variable name ∈ segments :=
        (List.mem_cons.mp h).resolve_left fun heq => hfound name heq.symm hnone
      obtain ⟨missing, hmissing⟩ := ih hrest
      exact ⟨missing, mapM_cons_eq_error_iff.mpr (Or.inr ⟨hfound, hmissing⟩)⟩
    · simp only [not_forall, not_not] at hfound
      obtain ⟨missing, hsegment, hmissing⟩ := hfound
      exact ⟨missing, mapM_cons_eq_error_iff.mpr (Or.inl ⟨hsegment, hmissing⟩)⟩

theorem mapM_congr {env' : Environment} {segments : List Segment}
    (h : ∀ name, .variable name ∈ segments → env name = env' name) :
    segments.mapM (Segment.valueOf env) = segments.mapM (Segment.valueOf env') := by
  induction segments with
  | nil => rfl
  | cons segment segments ih =>
    have hvalue : segment.valueOf env = segment.valueOf env' := by
      cases segment <;> simp [Segment.valueOf, h]
    rw [List.mapM_cons, List.mapM_cons, hvalue,
      ih fun name hname => h name (List.mem_cons_of_mem _ hname)]

end Template

open Template

namespace Settings

section

variable {env : Environment} {s : String} {segments : List Template.Segment}
  (h : Splits s.toList segments)
include h

theorem expand_eq_ok_iff {r : String} : expand env s = .ok r ↔ ∃ values,
    List.Forall₂ (fun segment value => segment.valueOf env = .ok value) segments values ∧
      r = String.join values := by
  simp only [← mapM_eq_ok_iff]
  rw [expand, h.expand_eq]
  cases segments.mapM (Template.Segment.valueOf env) with
  | error name => simp [Except.map, Except.mapError]
  | ok values => simp [Except.map, Except.mapError, eq_comm]

theorem expand_eq_error_iff {e : SettingsError} : expand env s = .error e ↔ ∃ name,
    e = .missingVariable name ∧ segments.mapM (Template.Segment.valueOf env) = .error name := by
  rw [expand, h.expand_eq]
  cases segments.mapM (Template.Segment.valueOf env) with
  | error name => simp [Except.map, Except.mapError, eq_comm]
  | ok values => simp [Except.map, Except.mapError]

end

/-- A text is cut into segments in one way, and under every environment it is expanded to what
stands for its segments, each variable's value as it is. This fails exactly if some variable in it
has no value, with the first of them, and it depends on the variables in the text alone. -/
theorem expand_segments (s : String) :
    ∃ segments, (∀ found, Splits s.toList found ↔ found = segments) ∧
      (∀ env r, expand env s = .ok r ↔ ∃ values,
        List.Forall₂ (fun segment value => segment.valueOf env = .ok value) segments values ∧
          r = String.join values) ∧
      (∀ env e, expand env s = .error e ↔ ∃ before name after, e = .missingVariable name ∧
        segments = before ++ .variable name :: after ∧ env name = none ∧
          ∀ earlier, .variable earlier ∈ before → env earlier ≠ none) ∧
      (∀ env, (∃ e, expand env s = .error e) ↔
        ∃ name, .variable name ∈ segments ∧ env name = none) ∧
      ∀ env env', (∀ name, .variable name ∈ segments → env name = env' name) →
        expand env s = expand env' s := by
  obtain ⟨segments, hsplits⟩ := exists_splits s.toList
  refine ⟨segments, fun found => ⟨fun h => h.unique hsplits, fun h => h ▸ hsplits⟩,
    fun env r => expand_eq_ok_iff hsplits, ?_, ?_, ?_⟩
  · intro env e
    rw [expand_eq_error_iff hsplits]
    constructor
    · rintro ⟨name, rfl, herror⟩
      obtain ⟨before, after, hfirst⟩ := mapM_eq_error_iff.mp herror
      exact ⟨before, name, after, rfl, hfirst⟩
    · rintro ⟨before, name, after, rfl, hfirst⟩
      exact ⟨name, rfl, mapM_eq_error_iff.mpr ⟨before, after, hfirst⟩⟩
  · intro env
    simp only [expand_eq_error_iff hsplits]
    constructor
    · rintro ⟨_, name, -, herror⟩
      obtain ⟨before, after, rfl, hnone, -⟩ := mapM_eq_error_iff.mp herror
      exact ⟨name, by simp, hnone⟩
    · rintro ⟨name, hname, hnone⟩
      obtain ⟨missing, hmissing⟩ := exists_missed hname hnone
      exact ⟨_, missing, rfl, hmissing⟩
  · intro env env' h
    rw [expand, expand, hsplits.expand_eq, hsplits.expand_eq, mapM_congr h]

/-- A value that looks like a variable, a dollar sign before one, and a brace that is not closed. -/
theorem expand_segments_unclosed :
    let values : List (String × String) := [("A", "$B"), ("B", "b")]
    let env : Environment := fun name => values.lookup name
    let more : Environment := fun name => if name = "HOME" then some "/" else env name
    let segments : List Template.Segment := [.variable "A", .lone, .variable "B"]
    Splits "$A$$\x7bB".toList segments ∧
      (∀ name, .variable name ∈ segments → env name = more name) ∧
      expand env "$A$$\x7bB" = .ok "$B$b" ∧ expand more "$A$$\x7bB" = .ok "$B$b" := by
  intro values env more segments
  have hname : ∀ c ∈ ['A'], Template.isNameChar c = true :=
    List.forall_mem_singleton.mpr (by decide)
  have hstop : Template.isNameChar '$' = false := by decide
  have hsplits : Splits "$A$$\x7bB".toList segments := by
    refine @Splits.bare ['A'] "$$\x7bB".toList _ (by decide) hname ?_
      (@Splits.lone "$\x7bB".toList _ ?_ (@Splits.unclosed ['B'] (by decide)))
    · rintro _ ⟨⟩
      exact hstop
    · rintro _ ⟨⟩
      exact ⟨hstop, by decide⟩
  have hagree : ∀ name, .variable name ∈ segments → env name = more name := by
    simp [segments, more]
  obtain ⟨found, hfound, hok, -, -, hsame⟩ := expand_segments "$A$$\x7bB"
  obtain rfl : segments = found := (hfound segments).mp hsplits
  have hvalues : expand env "$A$$\x7bB" = .ok "$B$b" :=
    (hok env "$B$b").mpr ⟨["$B", "$", "b"], .cons rfl (.cons rfl (.cons rfl .nil)), by decide⟩
  exact ⟨hsplits, hagree, hvalues, hsame env more hagree ▸ hvalues⟩

end Settings

end TerseSql
