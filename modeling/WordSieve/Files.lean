import WordSieve.Text.Lines

/-!
# Files by path

A directory tree as a value, with the two things that a program does to it: reading a file and
starting one anew. A path is looked up name by name, from the root or from the working directory,
and each name but the last must lead to a directory. A name that is too long is refused wherever it
is looked up, but only once the way to it is found.

Of the system around the working directory just so much is in the tree as is the same everywhere:
the directories below the root, and the devices that hold nothing and take everything.
-/

set_option autoImplicit false

namespace WordSieve

/-- Why a file cannot be read or started. -/
inductive FileError where
  | notFound
  | notADirectory
  | isADirectory
  | nameTooLong
  | nulInName
  | notText
  | other (text : String)
  deriving DecidableEq, Repr

/-- The error in words, with the number that the system gives it. -/
def FileError.message : FileError → String
  | .notFound => "No such file or directory (os error 2)"
  | .notADirectory => "Not a directory (os error 20)"
  | .isADirectory => "Is a directory (os error 21)"
  | .nameTooLong => "File name too long (os error 36)"
  | .nulInName => "file name contained an unexpected NUL byte"
  | .notText => "stream did not contain valid UTF-8"
  | .other text => text

/-- The text of a file. -/
def fileText (bytes : List UInt8) : Except FileError (List Char) :=
  match Text.decode bytes with
  | some s => .ok s
  | none => .error .notText

/-- What stands at a path. -/
inductive Entry where
  | file (bytes : List UInt8)
  | directory
  /-- A device that is empty when it is read, and forgets what is written. -/
  | sink
  deriving DecidableEq, Repr

/-- A directory tree, as the entries below its root with the names that lead to them, and the names
that lead to the working directory. -/
structure Files where
  entries : List (List String × Entry)
  here : List String
  deriving DecidableEq, Repr

/-- The names of the directories below the root of a system. -/
def systemDirectories : List String :=
  ["bin", "boot", "dev", "etc", "home", "lib", "media", "mnt", "opt", "proc", "root", "run", "sbin",
   "srv", "sys", "tmp", "usr", "var"]

/-- The names of the devices that are sinks. -/
def sinks : List String :=
  ["null", "stdout", "stderr"]

namespace Files

/-- An empty working directory, which is a temporary one. No path can spell its name, so the only
way to it is to start from it. -/
def empty : Files :=
  { entries :=
      systemDirectories.map (fun name => ([name], .directory)) ++
        sinks.map (fun name => (["dev", name], .sink)) ++ [(["tmp", ""], .directory)]
    here := ["tmp", ""] }

/-- What the names lead to; no names lead to the root. -/
def entry? (d : Files) (names : List String) : Option Entry :=
  if names.isEmpty then some .directory
  else (d.entries.find? (·.1 == names)).map (·.2)

/-- The tree with an entry put at the names, in place of what stands there. -/
def put (d : Files) (names : List String) (e : Entry) : Files :=
  { d with entries := (names, e) :: d.entries.filter (·.1 != names) }

/-! ## Looking up -/

/-- The place one name on. An empty name and a dot stay where they are, which must be a directory;
the root is above itself. -/
def step (d : Files) (place : List String) (name : String) : Except FileError (List String) :=
  match d.entry? place with
  | none => .error .notFound
  | some (.file _) | some .sink => .error .notADirectory
  | some .directory =>
    if name = "" ∨ name = "." then .ok place
    else if name = ".." then .ok place.dropLast
    else if 255 < name.utf8ByteSize then .error .nameTooLong
    else if (d.entry? (place ++ [name])).isNone then .error .notFound
    else .ok (place ++ [name])

/-- Where names lead from a place. -/
def walk (d : Files) (place : List String) (names : List String) :
    Except FileError (List String) :=
  names.foldlM d.step place

/-- The place that a path starts from. -/
def startOf (d : Files) (path : String) : List String :=
  if path.startsWith "/" then [] else d.here

/-- The names of a path, if it can be a path at all. -/
def namesOf (path : String) : Except FileError (List String) :=
  if path.contains '\x00' then .error .nulInName
  else if path.isEmpty then .error .notFound
  else if 4096 ≤ path.utf8ByteSize then .error .nameTooLong
  else .ok (path.splitOn "/")

/-! ## Reading and writing -/

/-- The bytes of the file at a path. -/
def read (d : Files) (path : String) : Except FileError (List UInt8) := do
  let names ← namesOf path
  match d.entry? (← d.walk (d.startOf path) names) with
  | some (.file bytes) => .ok bytes
  | some .sink => .ok []
  | some .directory => .error .isADirectory
  | none => .error .notFound

/-- Starts the file at a path anew: it is there afterwards, and empty. A slash at the end asks for a
directory, which is not what is started. -/
def create (d : Files) (path : String) : Except FileError Files := do
  let names ← namesOf path
  let slash := path.endsWith "/"
  let names := (names.reverse.dropWhile String.isEmpty).reverse
  let parent ← d.walk (d.startOf path) names.dropLast
  match d.entry? parent, names.getLast? with
  | none, _ => .error .notFound
  | some (.file _), _ | some .sink, _ => .error .notADirectory
  | some .directory, none => .error .isADirectory
  | some .directory, some last =>
    if slash ∨ last ∈ [".", ".."] then .error .isADirectory
    else if 255 < last.utf8ByteSize then .error .nameTooLong
    else
      match d.entry? (parent ++ [last]) with
      | some .directory => .error .isADirectory
      | some .sink => .ok d
      | some (.file _) | none => .ok (d.put (parent ++ [last]) (.file []))

/-- The tree with a directory at the names, if nothing stands there. -/
def ensure (d : Files) (names : List String) : Files :=
  if (d.entry? names).isSome then d else d.put names .directory

/-- The tree with an entry where the names lead from a place, and with the directories on the
way. -/
def placeFrom (d : Files) (place : List String) (e : Entry) : List String → Files
  | [] => d.put place e
  | name :: rest =>
    if name = "" ∨ name = "." then d.placeFrom place e rest
    else
      (d.ensure place).placeFrom (if name = ".." then place.dropLast else place ++ [name]) e rest

/-- The tree with an entry at a path, and with the directories on the way. -/
def place (d : Files) (path : String) (e : Entry) : Files :=
  d.placeFrom (d.startOf path) e (path.splitOn "/")

end Files

end WordSieve
