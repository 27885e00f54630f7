import TerseSql.Grammar.Scan

/-!
# Grammars of keys

Each clause has a small grammar for its keys. White space may surround every part.

* a table: `schema.table(alias)`
* a selected field: `schema.table.field|function(alias)`
* a condition: `!field|function[operator]#comment`
* a sort key: `schema.table.field|function`
* an assignment: `schema.table.field[operator]`
* a join: `[marker]schema.table(alias)`
-/

namespace TerseSql.Grammar

open Text (isBlank isWord trimLeft)

structure TableKey where
  path : String
  aliasName : Option String
deriving DecidableEq, Repr

structure FieldKey where
  path : String
  func : Option String
  aliasName : Option String
deriving DecidableEq, Repr

structure ConditionKey where
  negated : Bool
  path : String
  func : Option String
  operator : Option String
deriving DecidableEq, Repr

structure SortKey where
  path : String
  func : Option String
deriving DecidableEq, Repr

structure AssignmentKey where
  path : String
  operator : Option String
deriving DecidableEq, Repr

structure JoinKey where
  marker : Option String
  path : String
  aliasName : Option String
deriving DecidableEq, Repr

def table? (s : String) : Option TableKey := do
  let (name, rest) ← path 1 (trimLeft s.toList)
  let (aliasName, rest) ← parenthesized (trimLeft rest)
  if atEnd rest then some ⟨String.ofList name, aliasName.map String.ofList⟩ else none

/-- A function after a bar: a word, perhaps after a dot; or nothing if there is no bar. -/
def function : List Char → Option (Option (List Char) × List Char)
  | '|' :: rest =>
    let (dot, rest) := match trimLeft rest with
      | '.' :: r => (['.'], r)
      | r => ([], r)
    match rest.takeWhile isWord with
    | [] => none
    | word => some (some (dot ++ word), rest.dropWhile isWord)
  | cs => some (none, cs)

def field? (s : String) : Option FieldKey := do
  let (name, rest) ← path 2 (trimLeft s.toList)
  let (func, rest) ← function (trimLeft rest)
  let (aliasName, rest) ← parenthesized (trimLeft rest)
  if atEnd rest then some ⟨String.ofList name, func.map String.ofList, aliasName.map String.ofList⟩
  else none

def isSortFunction (c : Char) : Bool :=
  isWord c || c == '.'

def sort? (s : String) : Option SortKey := do
  let (name, rest) ← path 2 (trimLeft s.toList)
  match trimLeft rest with
  | '|' :: rest =>
    let func := rest.takeWhile isSortFunction
    if func ≠ [] ∧ atEnd (rest.dropWhile isSortFunction) = true then
      some ⟨String.ofList name, some (String.ofList func)⟩
    else none
  | rest => if rest = [] then some ⟨String.ofList name, none⟩ else none

def assignment? (s : String) : Option AssignmentKey := do
  let (name, rest) ← path 2 (trimLeft s.toList)
  match trimLeft rest with
  | '[' :: rest => (enclosed ']' rest).map fun op => ⟨String.ofList name, some (String.ofList op)⟩
  | rest => if rest = [] then some ⟨String.ofList name, none⟩ else none

def joined (cs : List Char) : Option (String × Option String) := do
  let (name, rest) ← path 2 (trimLeft cs)
  match trimLeft rest with
  | '(' :: rest =>
    (enclosed ')' rest).map fun aliasName => (String.ofList name, some (String.ofList aliasName))
  | rest => if rest = [] then some (String.ofList name, none) else none

def join? (s : String) : Option JoinKey :=
  match trimLeft s.toList with
  | '[' :: rest =>
    (upTo ']' true joined [] rest).map fun (marker, name, aliasName) =>
      ⟨some (String.ofList marker), name, aliasName⟩
  | rest => (joined rest).map fun (name, aliasName) => ⟨none, name, aliasName⟩

def isConditionText (c : Char) : Bool :=
  isWord c || isBlank c || c == '.'

/-- The end of a condition: white space, then perhaps a comment to the end of the line,
which must be the end of the key. -/
def comment? (cs : List Char) : Option Unit :=
  match trimLeft cs with
  | [] => some ()
  | c :: rest => if c = '#' ∧ '\n' ∉ rest then some () else none

def operator? : List Char → Option (Option (List Char))
  | '[' :: rest => (upTo ']' false comment? [] rest).map fun (op, _) => some op
  | rest => (comment? rest).map fun _ => none

def negation (cs : List Char) : Bool × List Char :=
  match trimLeft cs with
  | '!' :: rest => (true, rest)
  | _ => (false, cs)

/-- A field of a condition, perhaps negated, with an optional function and operator. The
texts keep the white space they were written with. -/
def condition? (s : String) : Option ConditionKey :=
  let (negated, cs) := negation s.toList
  match cs.takeWhile isConditionText, cs.dropWhile isConditionText with
  | [], _ => none
  | name, '|' :: rest =>
    match rest.takeWhile isConditionText with
    | [] => none
    | func =>
      (operator? (rest.dropWhile isConditionText)).map fun op =>
        ⟨negated, String.ofList name, some (String.ofList func), op.map String.ofList⟩
  | name, rest =>
    (operator? rest).map fun op => ⟨negated, String.ofList name, none, op.map String.ofList⟩

end TerseSql.Grammar
