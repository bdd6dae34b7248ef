import PageRender.Text.Utf8

/-!
# Files

A small tree of files, named by relative paths, and reading a document from it. A path is walked
from the working directory; the ways to fail are those of a file system.
-/

namespace PageRender

/-- Why a document could not be read or written. -/
inductive FileError where
  | notFound
  | permissionDenied
  | brokenPipe
  | invalidData
  | other
  /-- The path names nothing. -/
  | noSuchFile
  | isDirectory
  /-- A part of the path that is not the last names a file. -/
  | notDirectory
  | nameTooLong
  /-- The path holds the null character. -/
  | nullInName
  | notUtf8
  deriving DecidableEq, Repr

namespace FileError

def message : FileError → String
  | .notFound => "entity not found"
  | .permissionDenied => "permission denied"
  | .brokenPipe => "broken pipe"
  | .invalidData => "invalid data"
  | .other => "other error"
  | .noSuchFile => "No such file or directory (os error 2)"
  | .isDirectory => "Is a directory (os error 21)"
  | .notDirectory => "Not a directory (os error 20)"
  | .nameTooLong => "File name too long (os error 36)"
  | .nullInName => "file name contained an unexpected NUL byte"
  | .notUtf8 => "stream did not contain valid UTF-8"

end FileError

/-- A tree of files: the parts of each path, and the bytes of the file. -/
structure FileTree where
  files : List (List String × List Nat)
  deriving Inhabited

/-- What a path leads to. -/
inductive FileNode where
  | file (bytes : List Nat)
  | directory
  deriving Repr

namespace FileTree

def parts (path : String) : List String :=
  ((path.splitOn "/").filter fun part => part != "" && part != ".")

/-- The tree of files given by path; of two files with one path the later one counts. -/
def ofFiles (files : List (String × List Nat)) : FileTree :=
  ⟨(files.map fun entry => (parts entry.1, entry.2)).reverse⟩

/-- What the parts of a path lead to from the root of a tree. -/
def node? (tree : FileTree) (place : List String) : Option FileNode :=
  match tree.files.find? fun entry => entry.1 == place with
  | some entry => some (.file entry.2)
  | none =>
      if place.isEmpty || tree.files.any fun entry => place.isPrefixOf entry.1 then some .directory
      else none

/-- Walks the parts of a path; `place` is where the walk stands, nearest part first, and `outside`
how far it stands above the working directory. -/
def walk (tree : FileTree) : Nat → List String → List String → Except FileError FileNode
  | 0, place, [] =>
      match tree.node? place.reverse with
      | some node => .ok node
      | none => .error .noSuchFile
  | _ + 1, _, [] => .ok .directory
  | outside, place, part :: rest =>
      if part.utf8ByteSize > 255 then .error .nameTooLong
      else if part == ".." then
        match outside, place with
        | 0, _ :: above => walk tree 0 above rest
        | level, _ => walk tree (level + 1) [] rest
      else if outside > 0 then .error .noSuchFile
      else
        match tree.node? (part :: place).reverse with
        | none => .error .noSuchFile
        | some .directory => walk tree 0 (part :: place) rest
        | some (.file bytes) => if rest.isEmpty then .ok (.file bytes) else .error .notDirectory

def open? (tree : FileTree) (path : String) : Except FileError FileNode :=
  if path.toList.contains '\x00' then .error .nullInName
  else if path.isEmpty then .error .noSuchFile
  else if path.startsWith "/" then
    if (parts path).isEmpty then .ok .directory else .error .noSuchFile
  else
    match walk tree 0 [] (parts path) with
    | .ok (.file bytes) =>
        if path.endsWith "/" || path.endsWith "/." then .error .notDirectory else .ok (.file bytes)
    | outcome => outcome

def bytes (tree : FileTree) (path : String) : Except FileError (List Nat) :=
  match tree.open? path with
  | .error error => .error error
  | .ok .directory => .error .isDirectory
  | .ok (.file bytes) => .ok bytes

end FileTree

/-- A way to read files: the bytes behind a path, or why there are none. -/
abbrev FileReader := String → Except FileError (List Nat)

namespace FileReader

def decode (bytes : List Nat) : Except FileError String :=
  match Text.decode? bytes with
  | some text => .ok (.ofList text)
  | none => .error .notUtf8

def document (files : FileReader) (path : String) : Except FileError String :=
  (files path).bind decode

def isFile (files : FileReader) (path : String) : Bool :=
  (files path).isOk

end FileReader

end PageRender
