import TerseSql.Lexicon

/-!
# Statements and the queries made of them

A statement is a list of rendered terms, joined by single spaces. It remembers the table
that joins refer to and how it is wrapped when it stands inside another statement. A query
is a statement together with the lexicon that writes its alias.
-/

namespace TerseSql

/-- What fields of a join are qualified against: a table or alias, or a query that cannot
be referred to. -/
inductive Primary where
  | named (reference : String)
  | unaliased
deriving DecidableEq, Repr

inductive Wrapping where
  | unset
  /-- In parentheses. -/
  | bare
  /-- In parentheses, under an alias. -/
  | named (aliasName : String)
deriving DecidableEq, Repr

namespace Wrapping

def isSet : Wrapping → Bool
  | unset => false
  | _ => true

def ofAlias : Option String → Wrapping
  | some aliasName => if aliasName = "" then bare else named aliasName
  | none => bare

end Wrapping

structure Statement where
  terms : List String
  primary : Option Primary
  wrapping : Wrapping
deriving DecidableEq, Repr

namespace Statement

def empty : Statement := ⟨[], none, .unset⟩

def isEmpty (s : Statement) : Bool := s.terms.isEmpty

def body (s : Statement) : String :=
  Text.join " " s.terms

def sql (l : Lexicon) (s : Statement) : String :=
  match s.wrapping with
  | .unset => s.body
  | .bare => "(" ++ s.body ++ ")"
  | .named aliasName => "(" ++ s.body ++ ") AS " ++ l.quote aliasName

end Statement

structure Query where
  lexicon : Lexicon
  statement : Statement

namespace Query

def body (q : Query) : String := q.statement.body

def sql (q : Query) : String := q.statement.sql q.lexicon

def wrapping (q : Query) : Wrapping := q.statement.wrapping

end Query

end TerseSql
