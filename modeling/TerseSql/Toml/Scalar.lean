import TerseSql.Decimal.Nearest
import TerseSql.Toml.Text

/-!
# Numbers, dates and times of TOML

An integer is held in 128 bits and a float as a double; digits may have single underscores
between them. A date has to be a day of the calendar.
-/

namespace TerseSql.Toml

/-! ## Numbers -/

/-- Digits that may have single underscores between them, and what follows them. -/
def digitRun (isDigit : Char → Bool) (cs : List Char) : Option (List Char) :=
  let run := cs.takeWhile fun c => isDigit c || c == '_'
  let doubled := (run.zip (run.drop 1)).any fun (c, d) => c == '_' && d == '_'
  if run.isEmpty || run.head? == some '_' || run.getLast? == some '_' || doubled then none
  else some (cs.drop run.length)

def decimalRun (cs : List Char) : Option (List Char) :=
  match cs with
  | '0' :: c :: _ => if c.isDigit || c == '_' then none else some (cs.drop 1)
  | _ => digitRun Char.isDigit cs

def dropSign : List Char → List Char
  | '+' :: rest => rest
  | '-' :: rest => rest
  | cs => cs

def exponentOnly : List Char → Bool
  | [] => true
  | c :: rest => (c == 'e' || c == 'E') && digitRun Char.isDigit (dropSign rest) == some []

def held (h : Bool) : Toml :=
  if h then .scalar else .tooLarge

/-- Digits of a base. An integer without a sign is held in 128 bits. -/
def baseNumber? (base : Nat) (cs : List Char) : Option Toml :=
  let isDigit (c : Char) := (hexValue? [c]).any fun d => d < base
  if digitRun isDigit cs == some [] then
    let n := (cs.filterMap fun c => hexValue? [c]).foldl (fun n d => base * n + d) 0
    some (held (n < Nat.pow 2 128))
  else none

def decimalInteger (negative : Bool) (digits : List Char) : Toml :=
  let n := Decimal.ofDigits digits
  held (if negative then n ≤ Nat.pow 2 127 else n < Nat.pow 2 128)

/-- Digits with a point or an exponent. A double must not become infinite. -/
def decimalFloat (digits : List Char) : Toml :=
  held ((Decimal.readUnsigned false digits).any fun d => (d.nearest .double).isFinite)

def number? (cs : List Char) : Option Toml :=
  match cs with
  | '0' :: 'x' :: rest => baseNumber? 16 rest
  | '0' :: 'o' :: rest => baseNumber? 8 rest
  | '0' :: 'b' :: rest => baseNumber? 2 rest
  | _ =>
    let negative := cs.head? == some '-'
    let cs := dropSign cs
    let digits := cs.filter (· != '_')
    if cs = ['i', 'n', 'f'] ∨ cs = ['n', 'a', 'n'] then some .scalar
    else
      match decimalRun cs with
      | none => none
      | some [] => some (decimalInteger negative digits)
      | some ('.' :: rest) =>
        match digitRun Char.isDigit rest with
        | some rest => if exponentOnly rest then some (decimalFloat digits) else none
        | none => none
      | some rest => if exponentOnly rest then some (decimalFloat digits) else none

/-! ## Dates and times -/

def field? (width low high : Nat) (cs : List Char) : Option (Nat × List Char) :=
  let digits := cs.take width
  let n := Decimal.ofDigits digits
  if digits.length = width ∧ digits.all Char.isDigit = true ∧ low ≤ n ∧ n ≤ high then
    some (n, cs.drop width)
  else none

def expect (allowed : Char → Bool) : List Char → Option (List Char)
  | c :: rest => if allowed c then some rest else none
  | [] => none

def daysIn (year month : Nat) : Nat :=
  if month = 2 then
    if year % 4 = 0 ∧ (year % 100 ≠ 0 ∨ year % 400 = 0) then 29 else 28
  else if month = 4 ∨ month = 6 ∨ month = 9 ∨ month = 11 then 30
  else 31

def date? (cs : List Char) : Option (List Char) := do
  let (year, cs) ← field? 4 0 9999 cs
  let cs ← expect (· == '-') cs
  let (month, cs) ← field? 2 1 12 cs
  let cs ← expect (· == '-') cs
  let (_, cs) ← field? 2 1 (daysIn year month) cs
  return cs

def time? (cs : List Char) : Option (List Char) := do
  let (_, cs) ← field? 2 0 23 cs
  let cs ← expect (· == ':') cs
  let (_, cs) ← field? 2 0 59 cs
  match cs with
  | ':' :: rest =>
    match ← field? 2 0 60 rest with
    | (_, '.' :: rest) =>
      if (rest.takeWhile Char.isDigit).isEmpty then none else some (rest.dropWhile Char.isDigit)
    | (_, cs) => some cs
  | cs => some cs

def offsetOnly (cs : List Char) : Bool :=
  let hoursAndMinutes? (cs : List Char) : Option (List Char) := do
    let (_, cs) ← field? 2 0 23 cs
    let cs ← expect (· == ':') cs
    let (_, cs) ← field? 2 0 59 cs
    return cs
  match cs with
  | [] => true
  | ['Z'] => true
  | ['z'] => true
  | c :: rest => (c == '+' || c == '-') && hoursAndMinutes? rest == some []

def isDateTime (cs : List Char) : Bool :=
  match date? cs with
  | some [] => true
  | some (c :: rest) =>
    (c == 'T' || c == 't' || c == ' ') &&
      match time? rest with
      | some rest => offsetOnly rest
      | none => false
  | none => time? cs == some []

def isScalarChar (c : Char) : Bool :=
  c.isAlphanum || c == '+' || c == '-' || c == '_' || c == '.' || c == ':'

/-- A number, a date or a time. Only a space between a date and a time is part of one. -/
def readScalar (cs : List Char) : Option (Toml × List Char) :=
  let first := cs.takeWhile isScalarChar
  let rest := cs.dropWhile isScalarChar
  let both := match rest with
    | ' ' :: after =>
      if date? first = some [] ∧ (after.head?.map Char.isDigit) = some true then
        some (first ++ ' ' :: after.takeWhile isScalarChar, after.dropWhile isScalarChar)
      else none
    | _ => none
  let (word, left) := both.getD (first, rest)
  match number? word with
  | some n => some (n, left)
  | none => if isDateTime word then some (.moment, left) else none

end TerseSql.Toml
