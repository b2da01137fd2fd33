/-
  Files, as far as the program asks for them: the bytes of a file, whether there is something at a
  path, and the names in a directory. Names are bytes and need not be text.
-/
import RecordRules.Text.Utf8

namespace RecordRules

/-- A path, or a name in a directory, as bytes. -/
abbrev Path := List UInt8

namespace Path

/-- The byte between the names of a path. -/
def separator : UInt8 := 47

/-- The path that a text writes. -/
def ofText (s : String) : Path := Text.utf8 s

/-- A path as messages show it. -/
def shown (p : Path) : String := Text.ofBytes p

/-- A path from a directory on. A path that starts at the root stays as it is. -/
def join (directory p : Path) : Path :=
  if p.head? = some separator then p
  else if directory = [] ∨ directory.getLast? = some separator then directory ++ p
  else directory ++ separator :: p

/-- The bytes between separators. -/
def names : Path → List Path
  | [] => [[]]
  | b :: bs =>
    if b = separator then [] :: names bs
    else match names bs with
      | name :: rest => (b :: name) :: rest
      | [] => [[b]]

/-- The order of names: by their first different byte. -/
def le (a b : Path) : Bool := a ≤ b

/-- A name's part before its last dot and the part after it. A dot at the start does not count. -/
def splitDot (name : Path) : Path × Option Path :=
  let after := (name.reverse.takeWhile (· ≠ 46)).reverse
  let before := name.take (name.length - after.length - 1)
  if name = [46, 46] ∨ after.length = name.length ∨ before = [] then (name, none)
  else (before, some after)

end Path

/-- Why a file or a directory cannot be read. -/
inductive DiskFault
  | noEntry
  | notDirectory
  | isDirectory
  | nameTooLong
  | nulInName
  | other (message : String)
deriving DecidableEq, Repr

/-- The wording of the system. -/
def DiskFault.message : DiskFault → String
  | noEntry => "No such file or directory (os error 2)"
  | notDirectory => "Not a directory (os error 20)"
  | isDirectory => "Is a directory (os error 21)"
  | nameTooLong => "File name too long (os error 36)"
  | nulInName => "file name contained an unexpected NUL byte"
  | other message => message

/-- What a disk answers: whether there is something at a path, the bytes of a file, and the names in a
    directory, of which any may be unreadable. -/
structure Disk where
  has : Path → Bool
  read : Path → Except DiskFault (List UInt8)
  list : Path → Except DiskFault (List (Except DiskFault Path))

namespace Disk

/-- The complaint about bytes that are no text. -/
def notText : String := "stream did not contain valid UTF-8"

/-- The text of a file. -/
def readText (d : Disk) (p : Path) : Except String String :=
  match d.read p with
  | .ok bytes =>
    match Text.ofUtf8? bytes with
    | some s => .ok s
    | none => .error notText
  | .error fault => .error fault.message

/-- The disk that gives known answers, and has nothing at other paths. -/
def ofAnswers (present : List Path) (files : List (Path × Except DiskFault (List UInt8)))
    (directories : List (Path × Except DiskFault (List (Except DiskFault Path)))) : Disk where
  has p := present.contains p
  read p := (files.lookup p).getD (.error .noEntry)
  list p := (directories.lookup p).getD (.error .noEntry)

end Disk

end RecordRules
