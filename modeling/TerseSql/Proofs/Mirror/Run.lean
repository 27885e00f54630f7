import TerseSql.Proofs.Mirror.Call

/-!
# Runs under two dialects

A run of calls, with the queries that it nests, gives a text for MySQL that is the mirror image
of the text for the generic dialect, after every call and whether calls fail or not.
-/

namespace TerseSql

open Lexing Text

namespace Call

variable (d : Dialect)

/-- The outcomes of a run of calls. Each goes on from what the one before it left, whether
that failed or not. -/
def trace : List Call → Statement → List Outcome
  | [], _ => []
  | c :: rest, s => run d s c :: trace rest (run d s c).statement

def final (s : Statement) (calls : List Call) : Statement :=
  calls.foldl (fun s c => (run d s c).statement) s

def query (calls : List Call) : Query :=
  ⟨d.toLexicon, final d .empty calls⟩

end Call

/-- The queries are built by the same calls, one by the generic dialect and one by MySQL, with
queries inside that are nested less than `n` deep. -/
def Query.Twins : Nat → Query → Query → Prop
  | 0, _, _ => False
  | n + 1, q, q' => ∃ calls calls', List.Forall₂ (Call.Twins (Query.Twins n)) calls calls' ∧
      q = Call.query Builtin.generic.dialect calls ∧ q' = Call.query Builtin.mysql.dialect calls'

section

variable {R : Query → Query → Prop} (hR : ∀ q q', R q q' → q.Mirrors q') {calls calls' : List Call}
  (h : List.Forall₂ (Call.Twins R) calls calls')
include hR h

theorem final_mirrors {s s' : Statement} (hs : s.Mirrors s') :
    (Call.final Builtin.generic.dialect s calls).Mirrors
      (Call.final Builtin.mysql.dialect s' calls') := by
  induction h generalizing s s' with
  | nil => exact hs
  | cons hcall _ ih => exact ih (call_mirrors hR hcall hs).statement

theorem trace_mirrors {s s' : Statement} (hs : s.Mirrors s') :
    List.Forall₂ Outcome.Mirrors (Call.trace Builtin.generic.dialect calls s)
      (Call.trace Builtin.mysql.dialect calls' s') := by
  induction h generalizing s s' with
  | nil => exact .nil
  | cons hcall _ ih =>
    have hrun := call_mirrors hR hcall hs
    exact .cons hrun (ih hrun.statement)

end

theorem query_mirrors (n : Nat) {q q' : Query} (h : Query.Twins n q q') : q.Mirrors q' := by
  induction n generalizing q q' with
  | zero => exact absurd h id
  | succ n ih =>
    obtain ⟨calls, calls', hcalls, rfl, rfl⟩ := h
    exact ⟨final_mirrors (fun _ _ => ih) hcalls empty_mirrors, rfl, rfl⟩

/-- A run fails at the same calls for both dialects, and after every call the text for MySQL is
the text for the generic dialect with backticks for double quotes. -/
theorem Call.trace_mirrored (n : Nat) {calls calls' : List Call}
    (h : List.Forall₂ (Call.Twins (Query.Twins n)) calls calls') :
    List.Forall₂ (fun o o' => (o.error = none ↔ o'.error = none) ∧
        o'.statement.sql Builtin.mysql.dialect.toLexicon =
          Text.mirror (o.statement.sql Builtin.generic.dialect.toLexicon))
      (Call.trace Builtin.generic.dialect calls .empty)
      (Call.trace Builtin.mysql.dialect calls' .empty) := by
  have htrace := trace_mirrors (fun _ _ => query_mirrors n) h empty_mirrors
  exact htrace.imp fun o o' ho => ⟨ho.error, ho.statement.sql.image⟩

/-! ## A nested query -/

namespace Call

def adults : List Call :=
  [.select [.table "users"] [] (some ⟨[(.name "age[>=]", .int 18)]⟩)
    ⟨none, false, none, some (.named "u")⟩]

def adultOrders (d : Dialect) : List Call :=
  [.clause (.fromSources []),
   .select [.query (query d adults)] [.name "u.id", .name "o.total|sum(sum)"]
    (some ⟨[(.name "u.name[~]", .text "x")]⟩)
    ⟨some ⟨[(.name "[>]orders(o)", .dict ⟨[(.name "user_id", .text "id")]⟩)]⟩, false, none, none⟩,
   .wrap (some "w")]

theorem isSharedKey_of {key op : String} {t : ConditionTerm}
    (hkey : ConditionTerm.ofKey key = .ok t) (hop : t.operator = some op)
    (hshared : Text.IsUnmarked op ∧ Registry.normalize op ≠ "regexp") : IsSharedKey key := by
  intro t' ht' op' hop'
  rw [hkey] at ht'
  cases ht'
  rw [hop] at hop'
  cases hop'
  exact hshared

theorem adults_twins : List.Forall₂ (Call.Twins (Query.Twins 0)) adults adults := by
  have hage : IsSharedKey "age[>=]" := isSharedKey_of rfl rfl (by decide)
  refine .cons (.select ?_ ?_ ?_ ?_) .nil
  · exact .cons (.table "users") .nil
  · exact fun c hc => nomatch hc
  · exact ⟨.cons (.int 18) .nil, ⟨hage, trivial⟩, fun _ h => nomatch h⟩
  · refine ⟨.none, rfl, ⟨rfl, fun _ h => nomatch h⟩, rfl, ?_⟩
    intro w hw a ha
    cases hw
    cases ha
    decide

theorem adultOrders_twins : List.Forall₂ (Call.Twins (Query.Twins 1))
    (adultOrders Builtin.generic.dialect) (adultOrders Builtin.mysql.dialect) := by
  have hname : IsSharedKey "u.name[~]" := isSharedKey_of rfl rfl (by decide)
  have hadults : Query.Twins 1 (query Builtin.generic.dialect adults)
      (query Builtin.mysql.dialect adults) := ⟨adults, adults, adults_twins, rfl, rfl⟩
  have hjoin : IsSharedJoin "[>]orders(o)" := by
    intro k hk
    cases hk
    refine ⟨by decide, ?_⟩
    intro a ha
    cases ha
    decide
  refine .cons (.clause (.fromSources .nil)) (.cons (.select ?_ ?_ ?_ ?_)
    (.cons (.wrap ?_) .nil))
  · exact .cons (.query hadults) .nil
  · intro c hc
    rcases List.mem_pair.mp hc with rfl | rfl
    · exact show Text.IsUnmarked "u.id" by decide
    · exact show Text.IsUnmarked "o.total|sum(sum)" by decide
  · exact ⟨.cons (.text (by decide)) .nil, ⟨hname, trivial⟩, fun _ h => nomatch h⟩
  · refine ⟨.some ⟨.cons (.dict (.cons (.text (by decide)) .nil)) .nil, ?_⟩, rfl,
      ⟨rfl, fun _ h => nomatch h⟩, rfl, fun _ h => nomatch h⟩
    refine List.forall_mem_singleton.mpr ⟨hjoin, ?_⟩
    intro pairs hpairs
    cases hpairs
    refine List.forall_mem_singleton.mpr ?_
    intro name hname
    cases hname
    decide
  · intro a ha
    cases ha
    decide

/-- A call fails, a query is nested, and the statement is wrapped. -/
theorem trace_mirrored_nested :
    List.Forall₂ (Call.Twins (Query.Twins 1)) (adultOrders Builtin.generic.dialect)
        (adultOrders Builtin.mysql.dialect) ∧
      List.Forall₂ (fun o o' => (o.error = none ↔ o'.error = none) ∧
          o'.statement.sql Builtin.mysql.dialect.toLexicon =
            Text.mirror (o.statement.sql Builtin.generic.dialect.toLexicon))
        (trace Builtin.generic.dialect (adultOrders Builtin.generic.dialect) .empty)
        (trace Builtin.mysql.dialect (adultOrders Builtin.mysql.dialect) .empty) ∧
      (query Builtin.mysql.dialect (adultOrders Builtin.mysql.dialect)).sql =
        "(SELECT `u`.`id`,SUM(`o`.`total`) AS `sum` FROM " ++
          "(SELECT * FROM `users` WHERE `age` >= 18) AS `u` " ++
          "LEFT JOIN `orders` AS `o` ON `o`.`user_id`=`u`.`id` " ++
          "WHERE `u`.`name` LIKE '%x%') AS `w`" :=
  ⟨adultOrders_twins, trace_mirrored 1 adultOrders_twins, by decide +kernel⟩

end Call

end TerseSql
