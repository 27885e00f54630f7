import TerseSql.Error

/-!
# Windows from values

A window of rows is given as a count, or as a list of a count and perhaps an offset.
-/

namespace TerseSql.Window

def countOf : Value → Built UInt64
  | .int n => if n < 0 then .error (.limit (.negative n)) else .ok n.toUInt64
  | v => .error (.limit (.notInteger v))

/-- Read `n`, `[n]` or `[n, offset]`. -/
def ofValue : Value → Built Window
  | .int n => do return make (← countOf (.int n)) none
  | .list [count] => do return make (← countOf count) none
  | .list [count, offset] => do
    let n ← countOf count
    let m ← countOf offset
    return make n (some m)
  | .list items => .error (.limit (.wrongLength items.length))
  | v => .error (.limit (.unrecognized v))

def fragment (w : Window) (l : Lexicon) : Pagination :=
  l.paginate w.count w.offset

end TerseSql.Window
