import TerseSql.Text.Basic
import TerseSql.Text.Word

/-!
# Scanning keys

Keys are read from the left. A reader returns what it took and the characters left, and
`none` when the key as a whole cannot be read.
-/

namespace TerseSql.Grammar

open Text (isBlank isWord trimLeft)

/-- A dotted path: at most `n` words each followed by a dot, then a word or a star. A word
is taken as long as it gets. -/
def path (n : Nat) (cs : List Char) : Option (List Char × List Char) :=
  match cs.takeWhile isWord, cs.dropWhile isWord, n with
  | [], '*' :: rest, _ => some (['*'], rest)
  | [], _, _ => none
  | word, '.' :: rest, n + 1 => (path n rest).map fun (tail, left) => (word ++ '.' :: tail, left)
  | word, rest, _ => some (word, rest)

def atEnd (cs : List Char) : Bool :=
  cs.all isBlank

def parenthesized : List Char → Option (Option (List Char) × List Char)
  | '(' :: rest =>
    match rest.takeWhile isWord, rest.dropWhile isWord with
    | [], _ => none
    | word, ')' :: left => some (some word, left)
    | _, _ => none
  | cs => some (none, cs)

/-- The characters before a closing mark that ends the key, white space aside: at least one,
and none of them a line break. -/
def enclosed (closing : Char) (cs : List Char) : Option (List Char) :=
  match (cs.reverse.dropWhile isBlank) with
  | c :: inner =>
    if c = closing ∧ inner ≠ [] ∧ '\n' ∉ inner then some inner.reverse else none
  | [] => none

/-- Text up to the first closing mark after which `rest` can read the remainder, with what
it read. The text holds no line break and, if `nonempty`, at least one character. -/
def upTo {α : Type} (closing : Char) (nonempty : Bool) (rest : List Char → Option α) :
    List Char → List Char → Option (List Char × α)
  | _, [] => none
  | taken, c :: cs =>
    let here :=
      if c = closing ∧ (nonempty → taken ≠ []) then (rest cs).map (taken.reverse, ·) else none
    match here with
    | some found => some found
    | none => if c = '\n' then none else upTo closing nonempty rest (c :: taken) cs

end TerseSql.Grammar
