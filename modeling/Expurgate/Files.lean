import Expurgate.Error

/-!
Files and folders as the program sees them.
-/

namespace Expurgate

/-- A place in a tree of files: the names on the way from the root. -/
abbrev Location := List String

inductive FileContent where
  | text (s : String)
  /-- Bytes that are no text. -/
  | bytes
  deriving Repr, DecidableEq

/-- A tree of files. A folder is there if it is listed or if something is in it. There are no links
in it, and so every file has one place. -/
structure FileTree where
  files : List (Location × FileContent)
  folders : List Location
  deriving Repr, DecidableEq

namespace FileTree

def file? (t : FileTree) (l : Location) : Option FileContent := t.files.lookup l

def isFolder (t : FileTree) (l : Location) : Bool :=
  l.isEmpty || t.folders.any (l.isPrefixOf ·) || t.files.any fun f => l.isPrefixOf f.1.dropLast

/-- The place that the names of a path lead to. All but the last one must be names of folders. Dots
are taken out on the way, and two dots lead up. A file in the middle leads nowhere. -/
def walk (t : FileTree) : Location → List String → Except FileFault Location
  | l, [] => .ok l
  | l, name :: rest =>
    if (t.file? l).isSome then .error .notDirectory
    else if !t.isFolder l then .error .notFound
    else if name = "" ∨ name = "." then t.walk l rest
    else if name = ".." then t.walk l.dropLast rest
    else t.walk (l ++ [name]) rest

/-- Where the way along a path inside a folder begins. -/
def origin (folder : Location) (path : String) : Location :=
  if path.toList.head? = some '/' then [] else folder

/-- The names of a path. One that ends in a slash has an empty name at its end. -/
def names (path : String) : List String := (path.toList.splitOn '/').map String.ofList

def locate (t : FileTree) (folder : Location) (path : String) : Except FileFault Location :=
  if path = "" then .error .notFound else t.walk (origin folder path) (names path)

def read (t : FileTree) (folder : Location) (path : String) : Except FileFault String := do
  let l ← t.locate folder path
  match t.file? l with
  | some (.text s) => return s
  | some .bytes => throw .invalidText
  | none => throw (if t.isFolder l then .isDirectory else .notFound)

def isFile (t : FileTree) (folder : Location) (path : String) : Bool :=
  match t.locate folder path with
  | .ok l => (t.file? l).isSome
  | .error _ => false

/-- The tree with a file put in the place of one that may have been there. Whether one can be put
there is for `target` to say. -/
def put (t : FileTree) (l : Location) (s : String) : FileTree :=
  { t with files := (l, .text s) :: t.files.filter (·.1 ≠ l) }

/-- The place where a path lets a file be written. A path that ends in a slash names a folder,
whether there is one or not. -/
def target (t : FileTree) (folder : Location) (path : String) : Except FileFault Location := do
  if path = "" then throw .notFound
  let kept := ((names path).reverse.dropWhile (· = "")).reverse
  let l ← t.walk (origin folder path) kept
  if path.toList.getLast? = some '/' ∨ t.isFolder l then throw .isDirectory else return l

end FileTree

end Expurgate
