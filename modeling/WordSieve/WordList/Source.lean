import WordSieve.Files
import WordSieve.Text.Case
import WordSieve.WordList.Embedded
import WordSieve.WordList.Json.Document
import WordSieve.WordList.Lines

/-!
# Where a word list comes from

A word list is the embedded one or a file. A file whose name ends in `.json`, in any case, is read
as JSON, and any other file one word a line.
-/

set_option autoImplicit false

namespace WordSieve

open Text

/-- Where a word list comes from. -/
inductive WordSource where
  | embedded
  | file (path : String)
  deriving DecidableEq, Repr

/-- Why a word list cannot be loaded. -/
inductive LoadError where
  | file (error : FileError)
  | json (error : Json.Error)
  deriving DecidableEq, Repr

/-- The error behind this one in words. -/
def LoadError.cause : LoadError → String
  | .file e => e.message
  | .json e => e.message

/-- The error in words. -/
def LoadError.message (e : LoadError) : String :=
  match e with
  | .file _ => s!"could not read word list: {e.cause}"
  | .json _ => s!"word list is not valid JSON: {e.cause}"

/-- The name of the file that a path leads to: its last name, past slashes and dots at the end. A
path that ends in `..` has none. -/
def fileName? (path : String) : Option String :=
  (((path.splitOn "/").filter fun name => !(name = "" || name = ".")).getLast?).filter (· ≠ "..")

/-- What stands behind the last dot of a file's name. A dot that starts the name does not count. -/
def extension? (name : List Char) : Option (List Char) :=
  let ending := name.reverse.takeWhile (· ≠ '.')
  if ending.length + 1 < name.length then some ending.reverse else none

namespace WordSource

/-- The source that an argument names: the word `embedded`, or a path. -/
def ofArg (arg : String) : WordSource :=
  if arg = "embedded" then .embedded else .file arg

/-- The source as it is named. -/
def name : WordSource → String
  | .embedded => "embedded"
  | .file path => path

/-- Whether a file is read as JSON. -/
def isJson (path : String) : Bool :=
  match (fileName? path).bind (extension? ·.toList) with
  | some ending => equalsIgnoringAsciiCase ending "json".toList
  | none => false

/-- The words of a file's text. -/
def readText (path : String) (content : List Char) : Except LoadError (List Word) :=
  if isJson path then (readJson content).mapError .json else .ok (readLines content)

/-- The words of the source. `read` gives the bytes of a file. -/
def load (read : String → Except FileError (List UInt8)) :
    WordSource → Except LoadError (List Word)
  | .embedded => .ok embeddedWords
  | .file path =>
    match (read path).bind fileText with
    | .error e => .error (.file e)
    | .ok content => readText path content

end WordSource

end WordSieve
