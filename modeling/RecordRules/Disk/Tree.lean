/-
  A disk as a tree of files and directories. Paths start at the top; what lies above or beside the
  tree is not there.
-/
import RecordRules.Disk

namespace RecordRules

/-- A file with its bytes, or a directory with named entries. -/
inductive Tree
  | file (bytes : List UInt8)
  | directory (entries : List (Path × Tree))

namespace Tree

/-- The directory without entries. -/
def empty : Tree := directory []

instance : Inhabited Tree := ⟨empty⟩

/-- An entry of a directory replaced by a changed one, or added. `none` stands for no entry. -/
def change (name : Path) (f : Option Tree → Tree) : List (Path × Tree) → List (Path × Tree)
  | [] => [(name, f none)]
  | (n, t) :: rest => if n = name then (n, f (some t)) :: rest else (n, t) :: change name f rest

/-- A tree with another put at the end of a way of names, through directories made as needed. What
    is there already is merged with a directory, and replaced by a file. -/
def place (new : Tree) : List Path → Option Tree → Tree
  | [], old =>
    match new, old with
    | directory [], some (directory entries) => directory entries
    | new, _ => new
  | name :: names, some (directory entries) => directory (change name (place new names) entries)
  | name :: names, _ => directory [(name, place new names none)]

/-- The longest name and the longest path. -/
def nameLimit : Nat := 255
def pathLimit : Nat := 4095

/-- What is found by names from a directory on. The directories on the way stand before the last
    one, so that a step back is possible. -/
def walk : (way : List Tree) → List Path → Except DiskFault Tree
  | [], _ => .error .noEntry
  | here :: _, [] => .ok here
  | file _ :: _, _ :: _ => .error .notDirectory
  | directory entries :: way, name :: names =>
    if name = [] ∨ name = [46] then walk (directory entries :: way) names
    else if name = [46, 46] then walk way names
    else if nameLimit < name.length then .error .nameTooLong
    else match entries.lookup name with
      | some tree => walk (tree :: directory entries :: way) names
      | none => .error .noEntry

/-- What is found at a path. -/
def find (tree : Tree) (p : Path) : Except DiskFault Tree :=
  if p.contains 0 then .error .nulInName
  else if p = [] ∨ p.head? = some Path.separator then .error .noEntry
  else if pathLimit < p.length then .error .nameTooLong
  else walk [tree] p.names

/-- The disk with a tree on it. -/
def disk (tree : Tree) : Disk where
  has p := (tree.find p).isOk
  read p := do
    match ← tree.find p with
    | file bytes => return bytes
    | directory _ => throw .isDirectory
  list p := do
    match ← tree.find p with
    | file _ => throw .notDirectory
    | directory entries => return entries.map fun entry => .ok entry.1

end Tree

end RecordRules
