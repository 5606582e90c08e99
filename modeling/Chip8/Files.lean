import Chip8.Text.Quoted

/-!
# Files

A program looks at files through a `FileSystem`, which may be any. `Files` is one: a
small tree around a working directory. A path is looked up component by component; a
file is no directory, so nothing lies below it, and a missing component ends the search.

A place is named by the components that lead to it from the working directory.
Above it, places begin with as many double points as there are levels to climb;
from the root of the system, with a slash. Of the system's own tree only the
directories right below the root and the null device are known.
-/
namespace Chip8

/-- Why a file could not be opened. -/
inductive PathError where
  | notFound
  | notDirectory
  | isDirectory
  | nameTooLong
  /-- The path has a NUL character, so it names nothing. -/
  | nul
  /-- Any other refusal of the system, by its number and its text. -/
  | other (code : Nat) (text : String)
  deriving DecidableEq, Repr

/-- The number and the text of a refusal of the system. -/
def PathError.describe : PathError → Nat × String
  | .notFound => (2, "No such file or directory")
  | .notDirectory => (20, "Not a directory")
  | .isDirectory => (21, "Is a directory")
  | .nameTooLong => (36, "File name too long")
  | .nul => (0, "embedded null byte")
  | .other code text => (code, text)

/-- The message about a path that could not be opened. -/
def PathError.message (e : PathError) (path : String) : String :=
  match e with
  | .nul => "embedded null byte"
  | e =>
    let (code, text) := e.describe
    s!"[Errno {code}] {text}: " ++ Text.quoted path

/-- What lies at a place in the tree. -/
inductive FileNode where
  | file (content : List UInt8)
  | directory

/-- The files and directories that were put into the tree, by their places. -/
structure Files where
  files : List (List String × List UInt8)
  directories : List (List String)

namespace Files

def components (path : String) : List String := (path.splitOn "/")

/-- The components that a path below the working directory names a place with. -/
def place (path : String) : List String := (components path).filter fun c => c != "" && c != "."

def empty : Files := ⟨[], []⟩

def putAt (f : Files) (p : List String) (content : List UInt8) : Files :=
  { f with files := (p, content) :: f.files.filter fun entry => entry.1 != p }

def put (f : Files) (path : String) (content : List UInt8) : Files := f.putAt (place path) content

def putDirectory (f : Files) (path : String) : Files :=
  { f with directories := place path :: f.directories }

/-- The directories right below the root of the system. -/
def systemDirectories : List String :=
  ["bin", "boot", "dev", "etc", "home", "lib", "media", "mnt", "opt", "proc", "root", "run", "sbin",
    "srv", "sys", "tmp", "usr", "var"]

/-- Whether a place is a directory of the system: the root, one right below it, or
one above the working directory. -/
def isSystemDirectory : List String → Bool
  | ["/"] => true
  | ["/", name] => systemDirectories.contains name
  | p => p.all (· == "..")

/-- What lies at a place. Every place above a file or a directory is a directory. -/
def node? (f : Files) (p : List String) : Option FileNode :=
  match f.files.lookup p with
  | some content => some (.file content)
  | none =>
    if p = ["/", "dev", "null"] then some (.file [])
    else if isSystemDirectory p || f.directories.any p.isPrefixOf ||
        f.files.any fun entry => p.isPrefixOf entry.1
    then some .directory
    else none

/-- The place above a place. The root of the system is above itself. -/
def parent : List String → List String
  | ["/"] => ["/"]
  | p => if p.all (· == "..") then ".." :: p else p.dropLast

/-- Where a path leads: a place in the tree and what lies there, if anything. A
place without anything can be filled. -/
def walk (f : Files) (here : List String) :
    List String → Except PathError (List String × Option FileNode)
  | [] => .ok (here, some .directory)
  | c :: rest =>
    if c = "" ∨ c = "." then walk f here rest
    else if c = ".." then walk f (parent here) rest
    else if 255 < c.utf8ByteSize then .error .nameTooLong
    else
      let place := here ++ [c]
      match f.node? place with
      | some .directory => walk f place rest
      | some (.file content) =>
        if rest.isEmpty then .ok (place, some (.file content)) else .error .notDirectory
      | none => if rest.isEmpty then .ok (place, none) else .error .notFound

def resolve (f : Files) (path : String) : Except PathError (List String × Option FileNode) :=
  if path.toList.contains (Char.ofNat 0) then .error .nul
  else if path = "" then .error .notFound
  else if 4096 ≤ path.utf8ByteSize then .error .nameTooLong
  else f.walk (if path.toList.head? = some '/' then ["/"] else []) (components path)

def read (f : Files) (path : String) : Except PathError (List UInt8) :=
  match f.resolve path with
  | .error e => .error e
  | .ok (_, none) => .error .notFound
  | .ok (_, some .directory) => .error .isDirectory
  | .ok (_, some (.file content)) => .ok content

/-- The place of a file that is opened for writing. -/
def writable (f : Files) (path : String) : Except PathError (List String) :=
  match f.resolve path with
  | .error e => .error e
  | .ok (_, some .directory) => .error .isDirectory
  | .ok (place, _) => .ok place

theorem walk_ne_nul (f : Files) (here components : List String) :
    f.walk here components ≠ .error .nul := by
  induction components generalizing here with
  | nil => nofun
  | cons c rest ih =>
    unfold walk
    split
    · exact ih _
    · split
      · exact ih _
      · split
        · nofun
        · simp only
          split
          · exact ih _
          · split <;> nofun
          · split <;> nofun

/-- Reading fails for want of a name exactly if the path has a NUL character. -/
theorem read_eq_nul_iff (f : Files) (path : String) :
    f.read path = .error .nul ↔ Char.ofNat 0 ∈ path.toList := by
  unfold read resolve
  by_cases h : Char.ofNat 0 ∈ path.toList
  · simp [h]
  · have hwalk (here : List String) := f.walk_ne_nul here (components path)
    simp only [List.contains_iff_mem, h, if_false, iff_false]
    split
    · rename_i e he
      rintro ⟨⟩
      split at he
      · cases he
      · split at he
        · cases he
        · exact hwalk _ he
    all_goals nofun

end Files

/-- What a program finds of files, by path: what reading one yields, and whether one
can be opened for writing. Only a path with a NUL character is refused as a name. -/
structure FileSystem where
  read : String → Except PathError (List UInt8)
  writable : String → Except PathError Unit
  read_eq_nul_iff : ∀ path, read path = .error .nul ↔ Char.ofNat 0 ∈ path.toList

/-- The files of a tree. -/
def Files.system (f : Files) : FileSystem where
  read := f.read
  writable path := (f.writable path).map fun _ => ()
  read_eq_nul_iff := f.read_eq_nul_iff

end Chip8
