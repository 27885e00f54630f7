import TerseSql.Decimal.Layout
import TerseSql.Json.Basic
import TerseSql.Text.Basic

/-!
# Writing JSON

Documents are written without spaces. A string escapes the quotation mark, the backslash
and control characters, and nothing else.
-/

namespace TerseSql

/-- A positive exponent has its sign, and notation is positional up to sixteen digits. -/
def JsonNumber.layout : FloatLayout := ⟨-4, 16, true, false⟩

def JsonNumber.write : JsonNumber → String
  | .integer n => toString n
  | .float x => layout.write x

namespace Json

def hexPair (n : Nat) : List Char :=
  [Nat.digitChar (n / 16 % 16), Nat.digitChar (n % 16)]

def escapeChar (c : Char) : List Char :=
  match c with
  | '"' => ['\\', '"']
  | '\\' => ['\\', '\\']
  | '\n' => ['\\', 'n']
  | '\r' => ['\\', 'r']
  | '\t' => ['\\', 't']
  | '\x08' => ['\\', 'b']
  | '\x0c' => ['\\', 'f']
  | c => if c.toNat < 32 then '\\' :: 'u' :: '0' :: '0' :: hexPair c.toNat else [c]

def quote (s : String) : String :=
  "\"" ++ String.ofList (s.toList.flatMap escapeChar) ++ "\""

mutual

def write : Json → String
  | null => "null"
  | bool b => if b then "true" else "false"
  | number n => n.write
  | string s => quote s
  | array items => "[" ++ Text.join "," (writeItems items) ++ "]"
  | object members => "\x7b" ++ Text.join "," (writeMembers members) ++ "\x7d"

def writeItems : List Json → List String
  | [] => []
  | item :: rest => write item :: writeItems rest

def writeMembers : List (String × Json) → List String
  | [] => []
  | (key, value) :: rest => (quote key ++ ":" ++ write value) :: writeMembers rest

end

end Json

end TerseSql
