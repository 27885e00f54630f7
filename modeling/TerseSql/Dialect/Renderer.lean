import TerseSql.Error

/-!
# Literals

A renderer is a lexicon that also writes values. A term stands for itself, a literal is
quoted as the lexicon asks, and a collection has no literal form.
-/

namespace TerseSql

/-- Numbers in SQL are positional up to sixteen digits, with no sign before a positive
exponent. -/
def Lexicon.layout : FloatLayout := ⟨-4, 16, false, false⟩

def floatLiteral (x : Float) : Built String :=
  if (Binary.ofFloat x).isFinite then .ok (Lexicon.layout.write x)
  else .error (.value (.notFinite x))

def Value.literal (l : Lexicon) : Value → Built String
  | null => .ok l.null
  | bool b => .ok (l.bool b)
  | int n => .ok (toString n.toInt)
  | float x => floatLiteral x
  | text s => .ok (l.quoteText s)
  | raw r => .ok r.sql
  | field f => .ok (f.render l)
  | query q => .ok q.sql
  | json document => .ok (l.quoteText document.write)
  | list items => .error (.value (.nested (.list items)))
  | dict entries => .error (.value (.nested (.dict entries)))

structure Renderer extends Lexicon where
  literal : Value → Built String := Value.literal toLexicon

namespace Renderer

def term? (r : Renderer) : Value → Option String
  | .raw sql => some sql.sql
  | .field f => some (f.render r.toLexicon)
  | .query q => some q.sql
  | _ => none

end Renderer

/-! ## Arithmetic on a field -/

inductive Arith where
  | add | sub | mul | div | mod
deriving DecidableEq, Repr

def Arith.symbol : Arith → String
  | add => "+"
  | sub => "-"
  | mul => "*"
  | div => "/"
  | mod => "%"

def Field.compute (f : Field) (r : Renderer) (op : Arith) (v : Value) : Built Raw := do
  return ⟨f.render r.toLexicon ++ op.symbol ++ (← r.literal v)⟩

end TerseSql
