import TypeCatalog.Path
import TypeCatalog.Text.Half

/-! # Settings — destinations of the log

A record goes to one of the standard streams or to a file, which is given by an absolute path and
kept in normal form.  A tilde at the front stands for a home directory: the user's own, or that of
the user who is named after it.

* `Destination.ofText`: the destination a text stands for.
-/

namespace TypeCatalog.Destination

/-- The home directories: the user's own, and those of other users by name. -/
structure Homes where
  own : String
  others : List (String × String)

/-- The first halves in a text that stand for no byte and so cannot be encoded: where they start,
how many there are one after the other, and the code of the first. -/
structure Unencodable where
  start : Nat
  count : Nat
  code : Nat
  deriving DecidableEq, Repr

def Unencodable.find? (cs : List Char) : Option Unencodable :=
  let codes := Text.codes cs
  let isBad (n : Nat) : Bool := Text.isHalf n && !(decide (0xDC80 ≤ n) && decide (n < 0xDD00))
  let start := codes.findIdx isBad
  match codes.drop start with
  | []        => none
  | n :: rest => some ⟨start, 1 + (rest.takeWhile Text.isHalf).length, n⟩

def Unencodable.message (u : Unencodable) : String :=
  let place :=
    if u.count = 1 then
      "character '\\u" ++ String.ofList (Nat.toDigits 16 u.code) ++ "' in position " ++
        toString u.start
    else
      "characters in position " ++ toString u.start ++ "-" ++ toString (u.start + u.count - 1)
  "'utf-8' codec can't encode " ++ place ++ ": surrogates not allowed"

/-- Why a text is no destination. -/
inductive Fault where
  | relative
  | noHome
  | unencodable (u : Unencodable)
  | nullCharacter
  deriving DecidableEq, Repr

def Fault.message (text : String) : Fault → String
  | .relative      => "File destination must be absolute path: " ++ text
  | .noHome        => "Could not determine home directory."
  | .unencodable u => u.message
  | .nullCharacter => "embedded null byte"

/-- The directory a name after a tilde stands for.  What cannot be the name of a user is not looked
up. -/
def homeOf (homes : Homes) (user : List Char) : Except Fault String :=
  if user.isEmpty then .ok homes.own
  else
    match Unencodable.find? user with
    | some u => .error (.unencodable u)
    | none   =>
        if user.contains '\x00' then .error .nullCharacter
        else (homes.others.lookup (String.ofList user)).elim (.error .noHome) .ok

/-- The homes with the user's own directory as the environment gives it, if it does. -/
def Homes.within (environment : List (String × String)) (homes : Homes) : Homes :=
  { homes with own := (environment.lookup "HOME").getD homes.own }

/-- The text of a home directory without slashes at its end; one that is empty then is the root. -/
def directoryText (home : String) : String :=
  let front := (home.toList.reverse.dropWhile (· == '/')).reverse
  if front.isEmpty then "/" else String.ofList front

/-- The path with a home directory in place of a tilde at its front; there is none if there is no
such directory, or if it is a tilde again. -/
def expandHome (homes : Homes) (p : Path) : Except Fault Path :=
  match p.root, p.parts with
  | "", ('~' :: user) :: rest => do
      let home ← homeOf homes user
      let h := Path.ofText (directoryText home)
      if home.toList.head? = some '~' then .error .noHome else .ok ⟨h.root, h.parts ++ rest⟩
  | _,  _                     => .ok p

def streams : List String := ["stderr", "stdout"]

/-- The destination a text stands for, in normal form. -/
def ofText (homes : Homes) (text : String) : Except Fault String :=
  if streams.contains text then .ok text
  else
    match expandHome homes (Path.ofText text) with
    | .error f => .error f
    | .ok p    => if p.isAbsolute then .ok p.toText else .error .relative

end TypeCatalog.Destination
