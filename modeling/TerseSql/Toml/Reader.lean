import TerseSql.Toml.Scalar

/-!
# Reading TOML documents

A document consists of lines that open a table or assign a value to a key.
-/

namespace TerseSql.Toml

/-! ## Values -/

def maxDepth : Nat := 80

mutual

/-- One value, in which arrays and inline tables nest `depth` deep at most. -/
def readValue (depth : Nat) : Nat → List Char → Option (Toml × List Char)
  | 0, _ => none
  | fuel + 1, cs =>
    let asText (r : Option (List Char × List Char)) :=
      r.map fun (s, left) => (Toml.text (String.ofList s), left)
    match cs with
    | '"' :: '"' :: '"' :: rest => asText (longText '"' (rest.length + 1) (skipFirstBreak rest))
    | '\x27' :: '\x27' :: '\x27' :: rest =>
      asText (longText '\x27' (rest.length + 1) (skipFirstBreak rest))
    | '"' :: rest => asText (basicText (rest.length + 1) rest)
    | '\x27' :: rest => asText (literalText rest)
    | 't' :: 'r' :: 'u' :: 'e' :: rest => some (.scalar, rest)
    | 'f' :: 'a' :: 'l' :: 's' :: 'e' :: rest => some (.scalar, rest)
    | '[' :: rest =>
      if depth = 0 then none
      else
        (readItems (depth - 1) fuel rest).map fun (items, left) => (.array false items, left)
    | '\x7b' :: rest =>
      if depth = 0 then none
      else
        (readPairs (depth - 1) fuel [] rest).map fun (entries, left) =>
          (.table .inline entries, left)
    | cs => readScalar cs

def readItems (depth : Nat) : Nat → List Char → Option (List Toml × List Char)
  | 0, _ => none
  | fuel + 1, cs =>
    match skipLines (cs.length + 1) cs with
    | ']' :: left => some ([], left)
    | cs => do
      let (item, rest) ← readValue depth fuel cs
      match skipLines (rest.length + 1) rest with
      | ',' :: rest =>
        let (items, left) ← readItems depth fuel rest
        return (item :: items, left)
      | ']' :: left => return ([item], left)
      | _ => none

/-- Pairs of an inline table up to its closing brace; a comma may follow the last one. Lines
may break around the equals sign too. -/
def readPairs (depth : Nat) : Nat → Entries → List Char → Option (Entries × List Char)
  | 0, _, _ => none
  | fuel + 1, entries, cs =>
    match skipLines (cs.length + 1) cs with
    | '\x7d' :: left => some (entries, left)
    | cs => do
      let (key, rest) ← dottedKey (cs.length + 1) cs
      let rest ← expect (· == '=') (skipLines (rest.length + 1) rest)
      let (value, rest) ← readValue depth fuel (skipLines (rest.length + 1) rest)
      let entries ← put key value entries
      match skipLines (rest.length + 1) rest with
      | ',' :: rest => readPairs depth fuel entries rest
      | '\x7d' :: left => return (entries, left)
      | _ => none

end

/-! ## Documents -/

/-- One line that is not blank: a header or an assignment. `current` is the table that the
last header opened. -/
def readLine (current : List String) (entries : Entries) (cs : List Char) :
    Option (List String × Entries × List Char) := do
  let fuel := cs.length + 1
  match cs with
  | '[' :: '[' :: rest =>
    let (key, rest) ← dottedKey fuel rest
    let rest ← expect (· == ']') rest
    let rest ← expect (· == ']') rest
    return (key, ← openTable true key entries, rest)
  | '[' :: rest =>
    let (key, rest) ← dottedKey fuel rest
    let rest ← expect (· == ']') rest
    return (key, ← openTable false key entries, rest)
  | cs =>
    let (key, rest) ← dottedKey fuel cs
    let rest ← expect (· == '=') rest
    let (value, rest) ← readValue maxDepth fuel (skipSpace rest)
    return (current, ← within (put key value) current entries, rest)

def readLines : Nat → List String → Entries → List Char → Option Entries
  | 0, _, entries, _ => some entries
  | fuel + 1, current, entries, cs =>
    match skipLines (cs.length + 1) cs with
    | [] => some entries
    | cs => do
      let (current, entries, rest) ← readLine current entries cs
      readLines fuel current entries (← endLine rest)

def read? (s : String) : Option Entries :=
  let cs := match s.toList with
    | '\ufeff' :: rest => rest
    | cs => cs
  readLines (cs.length + 1) [] [] cs

end TerseSql.Toml
