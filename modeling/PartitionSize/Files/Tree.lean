import PartitionSize.Files

/-!
# A file tree

A `FileTree` is a working directory as a value: its directories and the contents of its files, by
the components of their paths. A path is walked step by step, so that `a/..` and `a/.` need a
directory `a`. What lies outside the working directory is not part of the tree: nothing is found
there but the root, and what is written there is lost.
-/

namespace PartitionSize

/-- A working directory. -/
structure FileTree where
  /-- The name under which the working directory shows in canonical paths. -/
  root : String
  /-- The directories other than the working directory. -/
  directories : List (List String) := []
  /-- The contents of the files. -/
  files : List (List String × ByteArray) := []

namespace FileTree

/-- What a path leads to. -/
inductive Place where
  /-- A directory of the tree. -/
  | directory (path : List String)
  /-- A file of the tree. -/
  | file (path : List String) (contents : ByteArray)
  /-- A name in a directory of the tree that nothing has yet. -/
  | missing (path : List String)
  /-- A directory above the working directory. -/
  | above
  /-- The directory that holds everything. -/
  | root
  /-- A place outside the tree, of which nothing is known. -/
  | outside

/-- What a name in a directory stands for. -/
def child (t : FileTree) (here : List String) (name : String) : Place :=
  let here := here ++ [name]
  if t.directories.contains here then .directory here
  else
    match t.files.lookup here with
    | some contents => .file here contents
    | none => .missing here

/-- The place that steps lead to from a place. A name that no directory can hold is noticed where it
is looked up. -/
def walk (t : FileTree) : Place → List String → Except FileError Place
  | p, [] => .ok p
  | .file .., _ :: _ => .error .notADirectory
  | .missing _, _ :: _ => .error .notFound
  | p, "." :: steps => walk t p steps
  | .directory here, ".." :: steps =>
    if here.isEmpty then walk t .above steps else walk t (.directory here.dropLast) steps
  | .directory here, name :: steps =>
    if Path.maxName < name.utf8ByteSize then .error .nameTooLong
    else walk t (t.child here name) steps
  | .above, ".." :: steps => walk t .above steps
  | .root, ".." :: steps => walk t .root steps
  | _, _ :: steps => walk t .outside steps

/-- The place that a path leads to. Absolute paths lead out of the tree. -/
def find (t : FileTree) (path : String) : Except FileError Place :=
  match Path.invalid? path with
  | some e => .error e
  | none =>
    if Path.isAbsolute path then t.walk .root (Path.steps path)
    else
      match Path.steps path with
      | [] => .ok (.directory [])
      | name :: steps => t.walk (.directory []) (if name = t.root then steps else name :: steps)

/-- The canonical path of what a path leads to. Of the directories above only the root has a name
here. -/
def canonical (t : FileTree) (path : String) : Except FileError String :=
  match t.find path with
  | .error e => .error e
  | .ok (.directory here) => .ok (Path.ofComponents false (t.root :: here))
  | .ok (.file here _) => .ok (Path.ofComponents false (t.root :: here))
  | .ok .above | .ok .root => .ok "/"
  | .ok _ => .error .notFound

/-- The text in a file. -/
def read (t : FileTree) (path : String) : Except FileError String :=
  match t.find path with
  | .error e => .error e
  | .ok (.file _ contents) =>
    match String.fromUTF8? contents with
    | some text => .ok text
    | none => .error .notText
  | .ok (.directory _) | .ok .above | .ok .root => .error .isADirectory
  | .ok _ => .error .notFound

/-- Whether a path leads to a directory. -/
def leadsToDirectory (t : FileTree) (path : String) : Bool :=
  match t.find path with
  | .ok (.directory _) | .ok .above | .ok .root | .ok .outside => true
  | _ => false

/-- The tree with one more directory. -/
def createDirectory (t : FileTree) (path : String) : Except FileError FileTree :=
  match t.find path with
  | .error e => .error e
  | .ok (.missing here) => .ok { t with directories := t.directories ++ [here] }
  | .ok .outside => .ok t
  | .ok _ => .error .exists

/-- The tree with a directory and those that hold it; the components are given from the last on.
The directories that hold it are made only if one is missing. -/
def createReversed (absolute : Bool) (t : FileTree) : List String → Except FileError FileTree
  | [] => .ok t
  | c :: holders =>
    let path := Path.ofComponents absolute (c :: holders).reverse
    let unlessThere (t : FileTree) (e : FileError) : Except FileError FileTree :=
      if t.leadsToDirectory path then .ok t else .error e
    match t.createDirectory path with
    | .ok t => .ok t
    | .error .notFound =>
      match createReversed absolute t holders with
      | .error e => .error e
      | .ok t =>
        match t.createDirectory path with
        | .ok t => .ok t
        | .error e => unlessThere t e
    | .error e => unlessThere t e

/-- The tree with a directory and those that hold it. -/
def createDirectories (t : FileTree) (path : String) : Except FileError FileTree :=
  createReversed (Path.isAbsolute path) t (Path.components path).reverse

/-- The files with other contents of one of them. -/
def setFile (files : List (List String × ByteArray)) (here : List String) (contents : ByteArray) :
    List (List String × ByteArray) :=
  match files with
  | [] => [(here, contents)]
  | f :: fs => if f.1 = here then (here, contents) :: fs else f :: setFile fs here contents

/-- The tree with a text added at the end of a file. -/
def append (t : FileTree) (path text : String) : FileTree :=
  match t.find path with
  | .ok (.file here contents) => { t with files := setFile t.files here (contents ++ text.toUTF8) }
  | .ok (.missing here) => { t with files := setFile t.files here text.toUTF8 }
  | _ => t

/-- The tree with a file and the directories that hold it. -/
def addFile (t : FileTree) (path : String) (contents : ByteArray) : FileTree :=
  let here := Path.components path
  let holders := (List.range here.length).map here.take
  { t with
    directories :=
      t.directories ++ holders.filter fun d => !d.isEmpty && !t.directories.contains d
    files := setFile t.files here contents }

/-- A file tree as the files of a program. -/
def operations {m : Type → Type} [Monad m] [MonadStateOf FileTree m] : Files m where
  canonical path := return (← get).canonical path
  read path := return (← get).read path
  createDirectories path := do
    match (← get).createDirectories path with
    | .error e => return .error e
    | .ok t =>
      set t
      return .ok ()
  append path text := modify fun t : FileTree => t.append path text

end FileTree

end PartitionSize
