import DeckEdit.CommandLine.Path

/-! What a path leads to. A path is followed name by name, and every name but the last must lead to a
    directory. What stands behind the first names of a path is told by whoever knows the files. -/

namespace DeckEdit

/-- What stands at a place. -/
inductive Spot where
  | file (contents : List UInt8)
  | directory
  | nothing
  deriving DecidableEq, Repr

inductive Entry where
  | file (contents : List UInt8)
  | directory
  /-- Nothing, in a directory that is there. -/
  | vacant
  /-- Nothing, because there is no directory on the way. -/
  | missing
  /-- Nothing, because there is a file where a directory should be. -/
  | underFile
  /-- Nothing, because a name on the way is too long, or all of the path. -/
  | tooLong
  deriving DecidableEq, Repr

/-- What stands at the end of a way. -/
def Spot.entry : Spot → Entry
  | file contents => .file contents
  | directory => .directory
  | nothing => .vacant

namespace Path

/-- Why some names lead nowhere that follow on those that are `done`. -/
def blocked? (spot : List Text → Spot) : List Text → List Text → Option Entry
  | _, [] => none
  | done, name :: rest =>
    match spot done with
    | .file _ => some .underFile
    | .nothing => some .missing
    | .directory =>
      if name != up && isNameTooLong name then some .tooLong
      else blocked? spot (done ++ [name]) rest

/-- Why there is no way to the last name of a path. -/
def obstacle? (spot : List Text → Spot) (p : Path) : Option Entry :=
  if p.flaw?.isSome then some .missing
  else if p.isTooLong then some .tooLong
  else blocked? spot [] p.names

/-- What a path leads to, where `spot` tells what stands behind its first names. -/
def entry (spot : List Text → Spot) (p : Path) : Entry :=
  (p.obstacle? spot).getD (spot p.names).entry

end Path
end DeckEdit
