import TerseSql.Text.Blank

/-!
# Joining, splitting and trimming

Lists of texts are joined with a separator and split at a single character. Splitting at
a character undoes joining with it when no part holds it (`splitChars_joinChars`).
-/

namespace TerseSql.Text

def join (sep : String) : List String → String
  | [] => ""
  | [s] => s
  | s :: t :: rest => s ++ sep ++ join sep (t :: rest)

def splitChars (sep : Char) : List Char → List (List Char)
  | [] => [[]]
  | c :: rest =>
    if c = sep then [] :: splitChars sep rest
    else
      match splitChars sep rest with
      | [] => [[c]]
      | part :: parts => (c :: part) :: parts

def split (sep : Char) (s : String) : List String :=
  (splitChars sep s.toList).map String.ofList

def trimLeft (cs : List Char) : List Char :=
  cs.dropWhile isBlank

def trimChars (cs : List Char) : List Char :=
  (trimLeft (trimLeft cs).reverse).reverse

def trim (s : String) : String :=
  String.ofList (trimChars s.toList)

def isAllBlank (s : String) : Bool :=
  s.toList.all isBlank

def splitNames (s : String) : List String :=
  (split ',' s).map trim

def occursIn (needle : List Char) : List Char → Bool
  | [] => needle.isEmpty
  | c :: rest => needle.isPrefixOf (c :: rest) || occursIn needle rest

def contains (s needle : String) : Bool :=
  occursIn needle.toList s.toList

def endsWith (s tail : String) : Bool :=
  tail.toList.isSuffixOf s.toList

def isAscii (s : String) : Bool :=
  s.toList.all (·.toNat < 128)

/-! ## Splitting and joining -/

theorem splitChars_ne_nil (sep : Char) (cs : List Char) : splitChars sep cs ≠ [] := by
  cases cs with
  | nil => simp [splitChars]
  | cons c rest =>
    unfold splitChars
    split
    · simp
    · split <;> simp

theorem splitChars_of_not_mem {sep : Char} {cs : List Char} (h : sep ∉ cs) :
    splitChars sep cs = [cs] := by
  induction cs with
  | nil => rfl
  | cons c rest ih =>
    simp only [List.mem_cons, not_or] at h
    simp [splitChars, Ne.symm h.1, ih h.2]

theorem splitChars_append {sep : Char} {cs : List Char} (h : sep ∉ cs) (rest : List Char) :
    splitChars sep (cs ++ sep :: rest) = cs :: splitChars sep rest := by
  induction cs with
  | nil => simp [splitChars]
  | cons c cs ih =>
    simp only [List.mem_cons, not_or] at h
    simp [splitChars, Ne.symm h.1, ih h.2]

def joinChars (sep : Char) : List (List Char) → List Char
  | [] => []
  | [cs] => cs
  | cs :: ds :: rest => cs ++ sep :: joinChars sep (ds :: rest)

theorem splitChars_joinChars {sep : Char} :
    ∀ {parts : List (List Char)}, parts ≠ [] → (∀ p ∈ parts, sep ∉ p) →
      splitChars sep (joinChars sep parts) = parts
  | [], h, _ => absurd rfl h
  | [cs], _, h => splitChars_of_not_mem (h cs (by simp))
  | cs :: ds :: rest, _, h => by
    rw [joinChars, splitChars_append (h cs (by simp)),
      splitChars_joinChars (by simp) fun p hp => h p (List.mem_cons_of_mem _ hp)]

end TerseSql.Text
