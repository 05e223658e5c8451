import TypeCatalog.Path
import TypeCatalog.Text.Quoted

/-! # Storage

Directories and files by their paths.  A path may lead through a directory and out of it again.

* `Storage.find`: what a path leads to.
* `Storage.open?`: storage with a file that is open to be added to, or why it cannot be opened; it
  is made if it is missing, and so are the directories on the way.
-/

namespace TypeCatalog

/-- The directories and the files that are there, by their resolved paths. -/
structure Storage where
  directories : List Path
  files : List Path

/-- Why a file cannot be opened. -/
inductive StorageFault where
  | isDirectory (path : String)
  | fileExists (path : String)
  | notDirectory (path : String)
  | nameTooLong (path : String)
  | nullCharacter
  deriving DecidableEq, Repr

def StorageFault.message : StorageFault → String
  | .isDirectory path  => "[Errno 21] Is a directory: " ++ Text.quote path
  | .fileExists path   => "[Errno 17] File exists: " ++ Text.quote path
  | .notDirectory path => "[Errno 20] Not a directory: " ++ Text.quote path
  | .nameTooLong path  => "[Errno 36] File name too long: " ++ Text.quote path
  | .nullCharacter     => "embedded null byte"

/-- What a path leads to: a directory, a file, nothing in a directory that is there, nothing because
a directory on the way is missing or is a file, or nothing because a name is longer than names can
be. -/
inductive Place where
  | directory
  | file
  | absent
  | missing
  | blocked
  | tooLong
  deriving DecidableEq, Repr

namespace Storage

def ofPaths (directories files : List String) : Storage :=
  ⟨directories.map Path.ofText, files.map Path.ofText⟩

/-- A name has at most so many bytes. -/
def longestName : Nat := 255

def isTooLong (part : List Char) : Bool := decide (longestName < Text.byteSize part)

/-- The directory that leads out of another one. -/
def outward : List Char := ['.', '.']

/-- A path without parts that lead out of a directory again; `front` holds the parts before, from
the last on. -/
def resolve (front : List (List Char)) : List (List Char) → List (List Char)
  | []      => front.reverse
  | p :: ps => if p = outward then resolve front.tail ps else resolve (p :: front) ps

def resolved (p : Path) : Path := { p with parts := resolve [] p.parts }

/-- What is at a path without further parts. -/
def at? (s : Storage) (p : Path) : Place :=
  if p.parts.isEmpty || s.directories.any (·.parts == p.parts) then .directory
  else if s.files.any (·.parts == p.parts) then .file
  else .absent

/-- What is reached from the directory with the parts `front`, in reverse. -/
def walk (s : Storage) (root : String) (front : List (List Char)) : List (List Char) → Place
  | []      => .directory
  | p :: ps =>
      if p = outward then walk s root front.tail ps
      else if isTooLong p then .tooLong
      else
        match s.at? ⟨root, (p :: front).reverse⟩, ps with
        | .directory, ps     => walk s root (p :: front) ps
        | place,      []     => place
        | .file,      _ :: _ => .blocked
        | _,          _ :: _ => .missing

def find (s : Storage) (p : Path) : Place := s.walk p.root [] p.parts

/-- With a directory and those around it. -/
def withDirectory (s : Storage) (p : Path) : Storage :=
  { s with directories :=
      (List.range (p.parts.length + 1)).map (fun n => { p with parts := p.parts.take n })
        ++ s.directories }

/-! ### Opening files -/

/-- Makes the directory with the parts `reversed` and those around it, as far as they are
missing. -/
def makeDirectory (root : String) :
    (reversed : List (List Char)) → Storage → Except StorageFault Storage
  | [],         s => .ok s
  | p :: front, s => do
      let path : Path := ⟨root, (p :: front).reverse⟩
      let made (s : Storage) : Except StorageFault Storage :=
        match s.find path with
        | .directory => .ok s
        | .file      => .error (.fileExists path.toText)
        | .blocked   => .error (.notDirectory path.toText)
        | .tooLong   => .error (.nameTooLong path.toText)
        | _          => .ok { s with directories := resolved path :: s.directories }
      if s.find path = .missing then made (← makeDirectory root front s) else made s

/-- Opens the file at a path; the result is the storage, and the resolved path. -/
def open? (s : Storage) (destination : String) : Except StorageFault (Storage × String) := do
  let p := Path.ofText destination
  if p.parts.dropLast.any (·.contains '\x00') then throw .nullCharacter
  let s ← makeDirectory p.root p.parts.reverse.tail s
  let q := resolved p
  if q.parts.any (·.contains '\x00') then throw .nullCharacter
  match s.find q with
  | .directory => throw (.isDirectory q.toText)
  | .tooLong   => throw (.nameTooLong q.toText)
  | _          => return ({ s with files := q :: s.files }, q.toText)

end Storage

end TypeCatalog
