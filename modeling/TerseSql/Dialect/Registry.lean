import TerseSql.Text.Basic
import TerseSql.Text.Case

/-!
# Registries

Named handlers in the order of their first registration. A name counts without the white
space around it and in lower case.
-/

namespace TerseSql

structure Registry (α : Type) where
  handlers : List (String × α)

namespace Registry

variable {α : Type}

def empty : Registry α := ⟨[]⟩

def normalize (name : String) : String :=
  Text.lower (Text.trim name)

def registerEntry (name : String) (handler : α) : List (String × α) → List (String × α)
  | [] => [(name, handler)]
  | (n, h) :: rest =>
    if n = name then (n, handler) :: rest else (n, h) :: registerEntry name handler rest

def register (r : Registry α) (name : String) (handler : α) : Registry α :=
  ⟨registerEntry (normalize name) handler r.handlers⟩

def ofList (handlers : List (String × α)) : Registry α :=
  handlers.foldl (fun r h => r.register h.1 h.2) empty

def find? (r : Registry α) (name : String) : Option α :=
  r.handlers.lookup (normalize name)

def names (r : Registry α) : List String :=
  r.handlers.map (·.1)

def isEmpty (r : Registry α) : Bool :=
  r.handlers.isEmpty

end Registry

end TerseSql
