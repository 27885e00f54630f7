import TerseSql.Dialect.Builtin
import TerseSql.Settings.Template
import TerseSql.Toml.Reader

/-!
# Settings

Settings name the dialect. They come from a configuration file, which is looked for in a
fixed order of places, and the name may refer to variables of the environment.
-/

namespace TerseSql

inductive SettingsError where
  | fileNotFound (path : String)
  | unreadable
  | malformed
  | missingVariable (name : String)
  | unsupportedDialect (name : String)
deriving DecidableEq, Repr

/-- The text of an error, where it is not the system's own. -/
def SettingsError.message? : SettingsError → Option String
  | fileNotFound path => some ("Config file not found: " ++ path)
  | missingVariable name => some ("Missing environment variable: " ++ name)
  | unsupportedDialect name => some ("Unsupported dialect: " ++ name)
  | unreadable => none
  | malformed => none

structure Settings where
  dialectName : String
deriving DecidableEq, Repr

/-! ## Files -/

inductive Found where
  | nothing
  | directory
  | file (content : String)
deriving DecidableEq, Repr

/-- Files below a directory, by their paths. -/
abbrev Files := List (String × String)

namespace Files

def steps (path : String) : List String :=
  (Text.split '/' path).filter fun part => part ≠ "" ∧ part ≠ "."

def reach (files : Files) (place : List String) : Found :=
  if place.isEmpty then .directory
  else
    match files.find? fun f => steps f.1 = place with
    | some f => .file f.2
    | none => if files.any fun f => place.isPrefixOf (steps f.1) then .directory else .nothing

/-- What lies outside: the directories above, and nothing else. -/
def outside (parts : List String) : Found :=
  if parts.all fun part => ["", ".", ".."].contains part then .directory else .nothing

def walk (files : Files) (place : List String) : List String → Found
  | [] => reach files place
  | part :: rest =>
    match reach files place with
    | .directory =>
      if part = "" ∨ part = "." then walk files place rest
      else if part = ".." then
        if place.isEmpty then outside rest else walk files place.dropLast rest
      else walk files (place ++ [part]) rest
    | _ => .nothing

/-- What is at a path. An empty path leads nowhere, and one that starts with a slash leads
outside. -/
def find (files : Files) (path : String) : Found :=
  match Text.split '/' path with
  | [""] => .nothing
  | "" :: rest => outside rest
  | parts => walk files [] parts

end Files

structure Surroundings where
  environment : Environment
  current : Files
  configuration : Files

namespace Settings

def default : Settings := ⟨Builtin.default.name⟩

/-! ## Reading -/

/-- The entry of a key, or nothing where it is missing. No number elsewhere may be too large. -/
def setting? (key : String) (entries : Toml.Entries) : Option (Option Toml) :=
  if Toml.fitsEntries (entries.filter fun e => e.1 ≠ key) then some (entries.lookup key) else none

/-- The dialect's name in its table, which may also be a list of the fields in order. A date or
a time is a table without a name. -/
def nameOf? : Toml → Option String
  | .table _ entries =>
    match setting? "name" entries with
    | some (some (.text s)) => some s
    | some none => some default.dialectName
    | _ => none
  | .moment => some default.dialectName
  | .array _ [] => some default.dialectName
  | .array _ (.text s :: _) => some s
  | _ => none

def ofText (s : String) : Except SettingsError Settings :=
  match (Toml.read? s).bind (setting? "dialect") with
  | none => .error .malformed
  | some none => .ok default
  | some (some table) =>
    match nameOf? table with
    | some name => .ok ⟨name⟩
    | none => .error .malformed

def ofFound (path : String) : Found → Except SettingsError Settings
  | .nothing => .error (.fileNotFound path)
  | .directory => .error .unreadable
  | .file content => ofText content

/-- The first settings there are: the file that a variable names, a file in the current
directory, a file in the user's configuration, the default. -/
def load (world : Surroundings) : Except SettingsError Settings :=
  match world.environment "SHORTHAND_CONFIG" with
  | some path => ofFound path (Files.find world.current path)
  | none =>
    match Files.find world.current "shorthand.toml" with
    | .nothing =>
      match Files.find world.configuration "shorthand/config.toml" with
      | .nothing => .ok default
      | found => ofFound "shorthand/config.toml" found
    | found => ofFound "shorthand.toml" found

/-! ## Use -/

def expand (env : Environment) (s : String) : Except SettingsError String :=
  (Template.expand env s).mapError .missingVariable

def dialect (env : Environment) (s : Settings) : Except SettingsError Builtin := do
  let name ← expand env s.dialectName
  match Builtin.ofName? name with
  | some b => return b
  | none => throw (.unsupportedDialect name)

end Settings

end TerseSql
