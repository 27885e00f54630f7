import TerseSql.Clause.Connective
import TerseSql.Value.Describe

/-!
# Errors

Every clause has its own kind of error, and every error names its cause. The wording is in
`BuildError.message`.
-/

namespace TerseSql

inductive TableError where
  | schemaTwice (text : String)
  | extraParts (text : String)
  | unrecognized (text : String)
  | noSource

inductive FieldError where
  | tableTwice (path : String)
  | qualifiersTwice (path : String)
  | extraParts (path : String)
  | unrecognized (text : String)
  | unrecognizedOrder (key : String)
  | notColumn (v : Value)

inductive ConditionError where
  | unrecognizedKey (key : String)
  | notGroup (c : Connective) (v : Value)
  | notKey (v : Value)
  | notItem (v : Value)
  | emptyList (field : String)
  | notPair (operator : String)
  | notNull
  | notHaving (v : Value)
  | notExists (v : Value)

inductive UpdateError where
  | unrecognizedKey (key : String)

inductive JoinError where
  | unrecognizedKey (key : String)
  | unaliasedPrimary
  | unknownMarker (marker dialect : String)
  | notFieldName (v : Value)
  | notFields (v : Value)
  | qualifiedName (name : String)
  | noPrimary
  | rawField (sql : Raw)
  | qualifiedLeft (key : String)
  | notField (v : Value)
  | qualifiedRight (name : String)
  | rawTable (sql : Raw)

inductive LimitError where
  | negative (n : Int64)
  | notInteger (v : Value)
  | wrongLength (length : Nat)
  | unrecognized (v : Value)

inductive InsertError where
  | noRows (table : String)
  | inconsistentKeys
  | notAllQueries
  | queryAmongRows
  | notRow (v : Value)

inductive QuantifierError where
  | noSubquery (token : String)

inductive OrderError where
  | unknownDirection (text : String)
  | notDirection (v : Value)
  | notOrder (v : Value)

inductive ValueError where
  | notFinite (x : Float)
  | nested (v : Value)
  | notFiniteJson (x : Float)
  | termInJson

inductive BuildError where
  | table (cause : TableError)
  | field (cause : FieldError)
  | condition (cause : ConditionError)
  | update (cause : UpdateError)
  | join (cause : JoinError)
  | limit (cause : LimitError)
  | insert (cause : InsertError)
  | quantifier (cause : QuantifierError)
  | order (cause : OrderError)
  | value (cause : ValueError)

inductive ErrorKind where
  | table | field | condition | update | join | limit | insert | quantifier | order | value
deriving DecidableEq, Repr

abbrev Built (α : Type) := Except BuildError α

def BuildError.kind : BuildError → ErrorKind
  | .table _ => .table
  | .field _ => .field
  | .condition _ => .condition
  | .update _ => .update
  | .join _ => .join
  | .limit _ => .limit
  | .insert _ => .insert
  | .quantifier _ => .quantifier
  | .order _ => .order
  | .value _ => .value

/-! ## Wording -/

def cited (s : String) : String := "\"" ++ s ++ "\""

def TableError.message : TableError → String
  | schemaTwice text =>
    "Confusing schema specified in both " ++ cited text ++ " and schema argument"
  | extraParts text => "Additional parts in table " ++ cited text
  | unrecognized text => "Unrecognized table string: " ++ cited text
  | noSource => "No table given for FROM"

def FieldError.message : FieldError → String
  | tableTwice path => "Confusing table specified in both " ++ cited path ++ " and table argument"
  | qualifiersTwice path =>
    "Confusing table/schema specified in both " ++ cited path ++ " and arguments"
  | extraParts path => "Additional parts in field " ++ cited path
  | unrecognized text => "Unrecognized field string: " ++ cited text
  | unrecognizedOrder key => "Unrecognized field in ORDER BY clause: " ++ cited key
  | notColumn v => "Unrecognized column: " ++ Describe.value v

def ConditionError.message : ConditionError → String
  | unrecognizedKey key => "Unrecognized key in where conditions: " ++ cited key
  | notGroup c v =>
    "Expect a mapping or list of conditions to be connected by " ++ c.label ++ ": " ++
      Describe.value v
  | notKey v => "Condition key must be a string or raw term: " ++ Describe.value v
  | notItem v => "Unrecognized item in condition list: " ++ Describe.value v
  | emptyList field => "Empty value list for " ++ field
  | notPair operator => operator ++ " value should be a tuple or list with 2 elements"
  | notNull => "IS is only used to test for NULL"
  | notHaving v => "HAVING expects a mapping of conditions: " ++ Describe.value v
  | notExists v => "EXISTS expects a subquery: " ++ Describe.value v

def UpdateError.message : UpdateError → String
  | unrecognizedKey key => "Unrecognized field in UPDATE SET: " ++ cited key

def JoinError.message : JoinError → String
  | unrecognizedKey key => "Unrecognized table in JOIN: " ++ cited key
  | unaliasedPrimary => "Require alias for subquery to refer to its fields in JOIN ON."
  | unknownMarker marker dialect => "Unknown join type [" ++ marker ++ "] for " ++ dialect
  | notFieldName v => "Expected field name in JOIN ON list: " ++ Describe.value v
  | notFields v => "Unrecognized JOIN ON fields: " ++ Describe.value v
  | qualifiedName name => "Unexpected table specified in JOIN ON field: " ++ cited name
  | noPrimary => "Short format of JOIN fields are not allowed without primary table."
  | rawField sql => "Raw terms are not allowed in JOIN ON: " ++ sql.sql
  | qualifiedLeft key => "Unexpected table on JOIN ON left field: " ++ cited key
  | notField v => "Expected field on JOIN ON right side: " ++ Describe.value v
  | qualifiedRight name => "Unexpected table on JOIN ON right field: " ++ cited name
  | rawTable sql => "Raw terms are not allowed as JOIN tables: " ++ sql.sql

def LimitError.message : LimitError → String
  | negative n => "Negative LIMIT value: " ++ toString n.toInt
  | notInteger v => "LIMIT values must be integers: " ++ Describe.value v
  | wrongLength length =>
    "Expect one or two integers for LIMIT, got " ++ toString length ++ " items"
  | unrecognized v => "Unrecognized LIMIT: " ++ Describe.value v

def InsertError.message : InsertError → String
  | noRows table => "No values to insert into " ++ cited table
  | inconsistentKeys => "Inconsistent keys in values for INSERT."
  | notAllQueries => "All values should be subqueries in INSERT."
  | queryAmongRows => "Subqueries cannot be mixed with literal rows in INSERT."
  | notRow v => "Unsupported row in INSERT: " ++ Describe.value v

def QuantifierError.message : QuantifierError → String
  | noSubquery token =>
    "Require a subquery for " ++ Text.upper (Text.trim token) ++ " statement"

def OrderError.message : OrderError → String
  | unknownDirection text => "Unknown sort direction: " ++ cited text
  | notDirection v => "Unknown sort direction: " ++ Describe.value v
  | notOrder v => "Unrecognized ORDER: " ++ Describe.value v

def ValueError.message : ValueError → String
  | notFinite x => "Cannot serialize " ++ Value.layout.write x ++ " to SQL"
  | nested v => "No literal form for nested value: " ++ Describe.value v
  | notFiniteJson x => "Cannot encode " ++ Value.layout.write x ++ " as JSON"
  | termInJson => "Fields and subqueries cannot be encoded as JSON"

def BuildError.message : BuildError → String
  | .table cause => "Failed to parse table: " ++ cause.message
  | .field cause => "Failed to parse field: " ++ cause.message
  | .condition cause => "Failed to parse where clause: " ++ cause.message
  | .update cause => "Failed to parse update clause: " ++ cause.message
  | .join cause => "Failed to parse join clause: " ++ cause.message
  | .limit cause => "Failed to parse limit: " ++ cause.message
  | .insert cause => "Failed to parse insert clause: " ++ cause.message
  | .quantifier cause => "Failed to parse any, all or some modifier: " ++ cause.message
  | .order cause => "Failed to parse order by clause: " ++ cause.message
  | .value cause => "Failed to render value: " ++ cause.message

end TerseSql
