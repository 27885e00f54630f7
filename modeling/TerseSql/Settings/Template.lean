import TerseSql.Text.Word

/-!
# Variables in text

A text may name variables as `${name}` or `$name`. It is cut into pieces from the left,
and each variable is replaced by its value, which is not looked into again.
-/

namespace TerseSql

inductive Piece where
  | plain (c : Char)
  | variable (name : List Char)
deriving DecidableEq, Repr

abbrev Environment := String → Option String

namespace Template

def isNameChar (c : Char) : Bool :=
  Text.isAlphanumeric c || c == '_'

/-- Cut a text into pieces. A name in braces runs to the first closing one, or to the end
of the text; a lone dollar sign is plain. -/
def pieces : List Char → List Piece
  | [] => []
  | '$' :: '\x7b' :: rest =>
    .variable (rest.takeWhile (· != '\x7d')) :: pieces ((rest.dropWhile (· != '\x7d')).drop 1)
  | '$' :: rest =>
    match rest.takeWhile isNameChar with
    | [] => .plain '$' :: pieces rest
    | name => .variable name :: pieces (rest.dropWhile isNameChar)
  | c :: rest => .plain c :: pieces rest
termination_by cs => cs.length
decreasing_by
  · have := (List.dropWhile_suffix (l := rest) (· != '\x7d')).length_le
    simp only [List.length_drop, List.length_cons]
    omega
  · simp
  · have := (List.dropWhile_suffix (l := rest) isNameChar).length_le
    simp only [List.length_cons]
    omega
  · simp

def valueOf (env : Environment) : Piece → Except String (List Char)
  | .plain c => .ok [c]
  | .variable name =>
    match env (String.ofList name) with
    | some value => .ok value.toList
    | none => .error (String.ofList name)

def expand (env : Environment) (s : String) : Except String String := do
  return String.ofList (← (pieces s.toList).mapM (valueOf env)).flatten

end Template

end TerseSql
