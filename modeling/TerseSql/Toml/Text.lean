import TerseSql.Toml.Basic

/-!
# Text and keys of TOML

Text stands in double quotes, with escapes, or in single quotes, without; in one quote it
stays on its line, in three it may span several. A key is bare or quoted, and dots lead from
a table to the tables in it.
-/

namespace TerseSql.Toml

/-! ## White space and comments -/

def isSpace (c : Char) : Bool := c == ' ' || c == '\t'

def skipSpace (cs : List Char) : List Char := cs.dropWhile isSpace

/-- Characters of comments and of text in single quotes. -/
def isPlain (c : Char) : Bool := c == '\t' || (32 ≤ c.toNat && c.toNat != 127)

/-- White space, perhaps a comment, then the end of the line or of the document. -/
def endLine (cs : List Char) : Option (List Char) :=
  let cs := match skipSpace cs with
    | '#' :: rest => rest.dropWhile isPlain
    | cs => cs
  match cs with
  | [] => some []
  | '\n' :: rest => some rest
  | '\r' :: '\n' :: rest => some rest
  | _ => none

def skipLines : Nat → List Char → List Char
  | 0, cs => cs
  | fuel + 1, cs =>
    match skipSpace cs with
    | [] => []
    | cs =>
      match endLine cs with
      | some rest => skipLines fuel rest
      | none => cs

/-! ## Text -/

def hexValue? (cs : List Char) : Option Nat :=
  cs.foldlM (fun n c =>
    if '0' ≤ c ∧ c ≤ '9' then some (16 * n + (c.toNat - 48))
    else if 'a' ≤ c ∧ c ≤ 'f' then some (16 * n + (c.toNat - 87))
    else if 'A' ≤ c ∧ c ≤ 'F' then some (16 * n + (c.toNat - 55))
    else none) 0

def codePoint? (width : Nat) (cs : List Char) : Option (Char × List Char) := do
  let digits := cs.take width
  if digits.length ≠ width then none
  else
    let code ← hexValue? digits
    if code < 0xD800 ∨ (0xE000 ≤ code ∧ code < 0x110000) then
      some (Char.ofNat code, cs.drop width)
    else none

def escape? : List Char → Option (Char × List Char)
  | 'b' :: rest => some ('\x08', rest)
  | 't' :: rest => some ('\t', rest)
  | 'n' :: rest => some ('\n', rest)
  | 'f' :: rest => some ('\x0c', rest)
  | 'r' :: rest => some ('\r', rest)
  | 'e' :: rest => some ('\x1b', rest)
  | '"' :: rest => some ('"', rest)
  | '\\' :: rest => some ('\\', rest)
  | 'x' :: rest => codePoint? 2 rest
  | 'u' :: rest => codePoint? 4 rest
  | 'U' :: rest => codePoint? 8 rest
  | _ => none

def basicText : Nat → List Char → Option (List Char × List Char)
  | 0, _ => none
  | fuel + 1, cs =>
    match cs with
    | '"' :: rest => some ([], rest)
    | '\\' :: rest => do
      let (c, rest) ← escape? rest
      let (s, left) ← basicText fuel rest
      return (c :: s, left)
    | c :: rest =>
      if isPlain c then (basicText fuel rest).map fun (s, left) => (c :: s, left) else none
    | [] => none

def literalText (cs : List Char) : Option (List Char × List Char) :=
  let inside (c : Char) := isPlain c && c != '\x27'
  match cs.dropWhile inside with
  | '\x27' :: rest => some (cs.takeWhile inside, rest)
  | _ => none

def skipFirstBreak : List Char → List Char
  | '\n' :: rest => rest
  | '\r' :: '\n' :: rest => rest
  | cs => cs

def skipBreaks : List Char → List Char
  | '\r' :: '\n' :: rest => skipBreaks rest
  | c :: rest => if isSpace c || c == '\n' then skipBreaks rest else c :: rest
  | [] => []

/-- Text in triple quotes, after the opening ones. Line breaks are kept as they are written,
and up to two quotes may stand before the closing ones. In double quotes, escapes are read,
and a backslash at the end of a line takes away the white space up to the next character. -/
def longText (quote : Char) : Nat → List Char → Option (List Char × List Char)
  | 0, _ => none
  | fuel + 1, cs =>
    let more (s : List Char) (rest : List Char) :=
      (longText quote fuel rest).map fun (t, left) => (s ++ t, left)
    match cs with
    | [] => none
    | '\r' :: '\n' :: rest => more ['\r', '\n'] rest
    | c :: rest =>
      if c = quote then
        let run := cs.takeWhile (· == quote)
        let left := cs.dropWhile (· == quote)
        if 3 ≤ run.length then
          if run.length ≤ 5 then some (run.drop 3, left) else none
        else more run left
      else if c = '\\' ∧ quote = '"' then
        match escape? rest with
        | some (e, rest) => more [e] rest
        | none =>
          match skipSpace rest with
          | '\n' :: rest => more [] (skipBreaks rest)
          | '\r' :: '\n' :: rest => more [] (skipBreaks rest)
          | _ => none
      else if c = '\n' ∨ isPlain c = true then more [c] rest
      else none

/-! ## Keys -/

def isBareKey (c : Char) : Bool := c.isAlphanum || c == '_' || c == '-'

def keyPart (cs : List Char) : Option (String × List Char) :=
  match cs with
  | '"' :: rest => (basicText (rest.length + 1) rest).map fun (s, left) => (String.ofList s, left)
  | '\x27' :: rest => (literalText rest).map fun (s, left) => (String.ofList s, left)
  | _ =>
    match cs.takeWhile isBareKey with
    | [] => none
    | key => some (String.ofList key, cs.dropWhile isBareKey)

/-- Parts of a key with dots between them, and the characters after any white space. -/
def dottedKey : Nat → List Char → Option (List String × List Char)
  | 0, _ => none
  | fuel + 1, cs => do
    let (part, rest) ← keyPart (skipSpace cs)
    match skipSpace rest with
    | '.' :: rest =>
      let (parts, left) ← dottedKey fuel rest
      return (part :: parts, left)
    | rest => return ([part], rest)

end TerseSql.Toml
