import TerseSql.Json.Number

/-!
# Reading JSON

A reader takes characters and returns what it read with the characters left. The nesting
of arrays and objects is bounded by a fuel that the length of the text supplies.
-/

namespace TerseSql.Json

def isSpace (c : Char) : Bool :=
  c == ' ' || c == '\n' || c == '\t' || c == '\r'

def skipSpace (cs : List Char) : List Char :=
  cs.dropWhile isSpace

/-! ## Strings -/

def hexDigit? (c : Char) : Option Nat :=
  if '0' ≤ c ∧ c ≤ '9' then some (c.toNat - 48)
  else if 'a' ≤ c ∧ c ≤ 'f' then some (c.toNat - 87)
  else if 'A' ≤ c ∧ c ≤ 'F' then some (c.toNat - 55)
  else none

def hexUnit? (a b c d : Char) : Option Nat := do
  return (((← hexDigit? a) * 16 + (← hexDigit? b)) * 16 + (← hexDigit? c)) * 16 + (← hexDigit? d)

def simpleEscape? : Char → Option Char
  | '"' => some '"'
  | '\\' => some '\\'
  | '/' => some '/'
  | 'b' => some '\x08'
  | 'f' => some '\x0c'
  | 'n' => some '\n'
  | 'r' => some '\r'
  | 't' => some '\t'
  | _ => none

/-- The rest of a string up to its closing quotation mark. A surrogate must be half of a
pair. -/
def readString : List Char → Option (List Char × List Char)
  | [] => none
  | '"' :: rest => some ([], rest)
  | '\\' :: 'u' :: a :: b :: c :: d :: '\\' :: 'u' :: e :: f :: g :: h :: rest =>
    match hexUnit? a b c d, hexUnit? e f g h with
    | some high, some low =>
      if 0xD800 ≤ high ∧ high < 0xDC00 then
        if 0xDC00 ≤ low ∧ low < 0xE000 then
          let code := 0x10000 + (high - 0xD800) * 1024 + (low - 0xDC00)
          (readString rest).map fun (s, left) => (Char.ofNat code :: s, left)
        else none
      else if 0xDC00 ≤ high ∧ high < 0xE000 then none
      else (readString ('\\' :: 'u' :: e :: f :: g :: h :: rest)).map fun (s, left) =>
        (Char.ofNat high :: s, left)
    | _, _ => none
  | '\\' :: 'u' :: a :: b :: c :: d :: rest =>
    match hexUnit? a b c d with
    | some code =>
      if 0xD800 ≤ code ∧ code < 0xE000 then none
      else (readString rest).map fun (s, left) => (Char.ofNat code :: s, left)
    | none => none
  | '\\' :: c :: rest =>
    match simpleEscape? c with
    | some e => (readString rest).map fun (s, left) => (e :: s, left)
    | none => none
  | c :: rest =>
    if c.toNat < 32 then none
    else (readString rest).map fun (s, left) => (c :: s, left)

/-! ## Documents -/

mutual

def readValue : Nat → List Char → Option (Json × List Char)
  | 0, _ => none
  | fuel + 1, cs =>
    match skipSpace cs with
    | 'n' :: 'u' :: 'l' :: 'l' :: rest => some (.null, rest)
    | 't' :: 'r' :: 'u' :: 'e' :: rest => some (.bool true, rest)
    | 'f' :: 'a' :: 'l' :: 's' :: 'e' :: rest => some (.bool false, rest)
    | '"' :: rest => (readString rest).map fun (s, left) => (.string (String.ofList s), left)
    | '[' :: rest =>
      match skipSpace rest with
      | ']' :: left => some (.array [], left)
      | start => (readItems fuel start).map fun (items, left) => (.array items, left)
    | '\x7b' :: rest =>
      match skipSpace rest with
      | '\x7d' :: left => some (.object [], left)
      | start => (readMembers fuel [] start).map fun (members, left) => (.object members, left)
    | cs => (JsonNumber.read? cs).map fun (n, left) => (.number n, left)

def readItems : Nat → List Char → Option (List Json × List Char)
  | 0, _ => none
  | fuel + 1, cs => do
    let (item, rest) ← readValue fuel cs
    match skipSpace rest with
    | ',' :: rest =>
      let (items, left) ← readItems fuel rest
      return (item :: items, left)
    | ']' :: left => return ([item], left)
    | _ => none

/-- Members of an object up to its closing brace. The last of several equal keys counts. -/
def readMembers :
    Nat → List (String × Json) → List Char → Option (List (String × Json) × List Char)
  | 0, _, _ => none
  | fuel + 1, members, cs =>
    match skipSpace cs with
    | '"' :: rest => do
      let (key, rest) ← readString rest
      match skipSpace rest with
      | ':' :: rest =>
        let (value, rest) ← readValue fuel rest
        let members := insertMember (String.ofList key) value members
        match skipSpace rest with
        | ',' :: rest => readMembers fuel members rest
        | '\x7d' :: left => return (members, left)
        | _ => none
      | _ => none
    | _ => none

end

def read? (s : String) : Option Json := do
  let cs := s.toList
  let (document, left) ← readValue (cs.length + 1) cs
  if (skipSpace left).isEmpty then some document else none

end TerseSql.Json
