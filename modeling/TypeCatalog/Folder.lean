import TypeCatalog.Storage
import TypeCatalog.Stored

/-! # Folders

Documents in files, as they are found from a directory: a path that does not start at the root
starts there.

* `Folder.stored`: what is stored at a path.
-/

namespace TypeCatalog

/-- A directory in storage, with what the files hold. -/
structure Folder where
  here : Path
  storage : Storage
  holdings : List (Path × Stored)

namespace Folder

/-- A path from the folder. -/
def absolute (here : Path) (path : String) : Path :=
  let p := Path.ofText path
  if p.isAbsolute then p else { here with parts := here.parts ++ p.parts }

/-- A folder with files; the directories they are in are there as well. -/
def ofFiles (here : Path) (storage : Storage) (files : List (String × Stored)) : Folder :=
  let holdings := (files.filter fun f => f.2.exists?).map fun f => (absolute here f.1, f.2)
  let around := holdings.foldl
    (fun s h => s.withDirectory { h.1 with parts := h.1.parts.dropLast })
    (storage.withDirectory here)
  ⟨here, { around with files := holdings.map Prod.fst ++ around.files }, holdings⟩

/-- The way a path is written asks for a directory: it ends in a slash, alone or before a full
stop. -/
def asksForDirectory (path : String) : Bool :=
  match path.toList.reverse with
  | '/' :: _        => true
  | '.' :: '/' :: _ => true
  | _               => false

/-- A path may have at most so many bytes. -/
def longestPath : Nat := 4095

/-- What is stored at a path. -/
def stored (f : Folder) (path : String) : Stored :=
  let p := absolute f.here path
  if longestPath < Text.byteSize path.toList then .unreachable
  else match f.storage.find p with
  | .tooLong   => .unreachable
  | .directory => if path.isEmpty then .absent else .directory
  | .file      =>
      if asksForDirectory path then .absent
      else (f.holdings.lookup (Storage.resolved p)).getD .absent
  | _          => .absent

end Folder

end TypeCatalog
