import TerseSql.Text.Ranges
import TerseSql.Text.Case.Tables

/-!
# Upper and lower case

Full case mapping of text: a character may become several (`ß` becomes `SS`), and a
capital sigma that ends a word becomes `ς`.
-/

namespace TerseSql.Text

/-- The image of `n` under the first run that holds it. Runs ascend by `first`. -/
def shiftedBy : List CaseRun → Nat → Option Nat
  | [], _ => none
  | run :: rest, n =>
    if n < run.first then none
    else if n ≤ run.last ∧ (n - run.first) % run.step = 0 then some (n + run.shift).toNat
    else shiftedBy rest n

/-- The counterpart of a character: an expansion, else a shifted character, else itself. -/
def mapCase (expansions : List (Nat × List Nat)) (runs : List CaseRun) (c : Char) : List Char :=
  match expansions.lookup c.toNat with
  | some codes => codes.map Char.ofNat
  | none => [((shiftedBy runs c.toNat).map Char.ofNat).getD c]

def upperChar (c : Char) : List Char :=
  mapCase upperExpansions upperRuns c

/-- Lower-case form of one character, away from its neighbours. -/
def lowerChar (c : Char) : List Char :=
  mapCase lowerExpansions lowerRuns c

def isCased (c : Char) : Bool :=
  inRanges casedRanges c.toNat

def isCaseIgnorable (c : Char) : Bool :=
  inRanges caseIgnorableRanges c.toNat

def nextIsCased (cs : List Char) : Bool :=
  (cs.dropWhile isCaseIgnorable).head?.any isCased

/-- Lower-case form, given the characters already read, the nearest first. -/
def lowerAfter : List Char → List Char → List Char
  | _, [] => []
  | before, c :: rest =>
    (if c = 'Σ' ∧ nextIsCased before = true ∧ nextIsCased rest = false then ['ς'] else lowerChar c)
      ++ lowerAfter (c :: before) rest

def upper (s : String) : String :=
  String.ofList (s.toList.flatMap upperChar)

def lower (s : String) : String :=
  String.ofList (lowerAfter [] s.toList)

def equalsIgnoringAsciiCase (a b : String) : Bool :=
  a.toList.map Char.toLower == b.toList.map Char.toLower

end TerseSql.Text
