import DeckEdit.CommandLine.Entry

/-! A machine of which the files in the working directory are known, and of the rest only what every
    machine has. -/

namespace DeckEdit

/-- The files of a machine, under the names on the way to each from the root. -/
abbrev FileTree := List (List Text × List UInt8)

namespace FileTree

/-- The names on the way to the working directory. No path spells its own name, which nobody knows. -/
def workingDirectory : List Text := ["tmp", ""]

/-- The directories that every machine has, the working directory included. -/
def standardDirectories : List (List Text) :=
  let inRoot : List Text :=
    ["bin", "boot", "dev", "etc", "home", "lib", "media", "mnt", "opt", "proc", "root", "run", "sbin",
      "srv", "sys", "tmp", "usr", "var"]
  let usr : Text := "usr"
  let inUsr : List Text := ["bin", "include", "lib", "local", "sbin", "share", "src"]
  let var : Text := "var"
  let inVar : List Text := ["cache", "lib", "log", "tmp"]
  [] :: inRoot.map ([·]) ++ inUsr.map ([usr, ·]) ++ inVar.map ([var, ·]) ++ [workingDirectory]

/-- The files that every machine has: the null device, which is empty. -/
def standardFiles : FileTree :=
  [(["dev", "null"], [])]

/-- A machine with these files in the working directory. -/
def ofFiles (files : FileTree) : FileTree :=
  standardFiles ++
    files.map fun (names, contents) => (workingDirectory ++ names.map Utf8.systemForm, contents)

def file? (tree : FileTree) (names : List Text) : Option (List UInt8) :=
  (tree.find? fun (n, _) => n == names).map (·.2)

def isDirectory (tree : FileTree) (names : List Text) : Bool :=
  standardDirectories.contains names || tree.any fun (n, _) => names.isPrefixOf n && n != names

def spot (tree : FileTree) (place : List Text) : Spot :=
  match tree.file? place with
  | some contents => .file contents
  | none => if tree.isDirectory place then .directory else .nothing

/-- One name further on from a directory, whose own names are given last first. A step up leaves it. -/
def follow (above : List Text) (name : Text) : List Text :=
  if name == Path.up then above.tail else Utf8.systemForm name :: above

/-- The names from the root on of where some names lead, from the root or from the working directory. -/
def place (root : Text) (names : List Text) : List Text :=
  let start := if root.isEmpty then workingDirectory.reverse else []
  (names.foldl follow start).reverse

/-- What stands behind the first names of a path that starts so. -/
def spotsFrom (tree : FileTree) (root : Text) (names : List Text) : Spot :=
  tree.spot (place root names)

def entry (tree : FileTree) (p : Path) : Entry :=
  p.entry (tree.spotsFrom p.root)

/-- The place of what a path leads to, unless there is no way. -/
def resolve (tree : FileTree) (p : Path) : Except Entry (List Text) :=
  match p.obstacle? (tree.spotsFrom p.root) with
  | some obstacle => .error obstacle
  | none => .ok (place p.root p.names)

/-- The path from the working directory to what is in it. -/
def local? (names : List Text) : Option Text :=
  if workingDirectory.isPrefixOf names then
    some (Text.join "/" (names.drop workingDirectory.length))
  else none

end FileTree
end DeckEdit
