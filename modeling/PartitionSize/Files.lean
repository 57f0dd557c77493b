/-!
# Files

What can go wrong with a file, and how paths are taken apart. `Files m` is what the program needs of
a file system: a machine's own, or a `FileTree` that exists only as a value.
-/

namespace PartitionSize

/-- Why a file operation failed. -/
inductive FileError where
  | notFound
  | exists
  | notADirectory
  | isADirectory
  /-- A name in the path, or the path, is too long. -/
  | nameTooLong
  /-- The path holds the character that ends paths for the system. -/
  | nulByte
  /-- The contents are no text. -/
  | notText
  /-- Any other reason, in the words of the system. -/
  | other (message : String)
deriving Repr, DecidableEq

/-- The text of the error. -/
def FileError.message : FileError → String
  | .notFound => "No such file or directory (os error 2)"
  | .exists => "File exists (os error 17)"
  | .notADirectory => "Not a directory (os error 20)"
  | .isADirectory => "Is a directory (os error 21)"
  | .nameTooLong => "File name too long (os error 36)"
  | .nulByte => "file name contained an unexpected NUL byte"
  | .notText => "stream did not contain valid UTF-8"
  | .other message => message

/-! ## Paths -/

namespace Path

/-- The pieces of a text between slashes. -/
def splitSlashes : List Char → List (List Char)
  | [] => [[]]
  | c :: cs =>
    if c = '/' then [] :: splitSlashes cs
    else
      match splitSlashes cs with
      | [] => [[c]]
      | piece :: pieces => (c :: piece) :: pieces

/-- The pieces of a path between its slashes that are not empty. -/
def pieces (path : String) : List String :=
  ((splitSlashes path.toList).map String.ofList).filter (· != "")

/-- The components of a path that lead anywhere, which single points do not. -/
def components (path : String) : List String := (pieces path).filter (· != ".")

/-- Whether a path starts at the root. -/
def isAbsolute (path : String) : Bool := path.toList.head? = some '/'

/-- Whether a path has to lead to a directory. -/
def endsWithSlash (path : String) : Bool := path.toList.getLast? = some '/'

/-- The steps that a path takes. A single point is a step as well, for it stays in a directory but
not at a file; so is a slash at the end. -/
def steps (path : String) : List String :=
  pieces path ++ if endsWithSlash path then ["."] else []

/-- The greatest number of bytes of a name. -/
def maxName : Nat := 255

/-- The greatest number of bytes of a path. -/
def maxPath : Nat := 4095

/-- What the system finds wrong with the text of a path, before it looks at any file. -/
def invalid? (path : String) : Option FileError :=
  if path.toList.contains '\x00' then some .nulByte
  else if path = "" then some .notFound
  else if maxPath < path.utf8ByteSize then some .nameTooLong
  else none

/-- The path with these components. -/
def ofComponents (absolute : Bool) (components : List String) : String :=
  (if absolute then "/" else "") ++ "/".intercalate components

/-- The path seen from a directory. -/
def join (directory path : String) : String :=
  if isAbsolute path then path
  else if endsWithSlash directory then directory ++ path
  else directory ++ "/" ++ path

/-- The path of the directory that holds a path; the root is in none. -/
def parent? (path : String) : Option String :=
  match components path with
  | [] => none
  | cs => some (ofComponents (isAbsolute path) cs.dropLast)

/-- The name of what a path leads to, unless it ends by going up. -/
def fileName? (path : String) : Option String :=
  match (components path).getLast? with
  | none => none
  | some name => if name = ".." then none else some name

end Path

/-! ## File systems -/

/-- What the program does with files. -/
structure Files (m : Type → Type) where
  /-- The one path of an existing file or directory that has no detours. -/
  canonical : String → m (Except FileError String)
  /-- The contents of a text file. -/
  read : String → m (Except FileError String)
  /-- Makes a directory and those that hold it, as far as they are missing. -/
  createDirectories : String → m (Except FileError Unit)
  /-- Writes at the end of a file, which is made if it is missing. -/
  append : String → String → m Unit

end PartitionSize
