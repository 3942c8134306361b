import PartsList.Disk.Operations

/-!
# Files below a directory

All files below a directory, links followed.  A link back to a directory that it lies below, and a
link that leads nowhere, are passed over.
-/

namespace PartsList

namespace Disk

/-- The files below a directory at the given location, which lies below the locations `ancestors`;
`fuel` bounds the depth. -/
def filesBelow (disk : Disk) : (fuel : Nat) → (ancestors : List Location) → Path → Location →
    List Path
  | 0, _, _, _ => []
  | fuel + 1, ancestors, directory, location =>
    (disk.children location).flatMap fun name =>
      let path := directory.join name
      match disk.entryAt? (location ++ [name]) with
      | some (.file _) => [path]
      | some .directory =>
        disk.filesBelow fuel (location :: ancestors) path (location ++ [name])
      | some (.link _) =>
        match disk.resolve .followed path with
        | .ok ⟨_, some (.file _), _⟩ => [path]
        | .ok ⟨target, some .directory, _⟩ =>
          if target ∈ location :: ancestors then []
          else disk.filesBelow fuel (location :: ancestors) path target
        | _ => []
      | none => []

/-- Depth below which no walk without loops can get: every step down enters a location that the
walk has not entered on its way, or follows a link. -/
def walkDepth (disk : Disk) : Nat :=
  (disk.entries.length + 2) * (disk.entries.length + 2)

/-- The files below a directory, in no particular order; none when the path leads to no
directory. -/
def files (disk : Disk) (root : Path) : List Path :=
  match disk.resolve .followed root with
  | .ok ⟨location, some .directory, _⟩ => disk.filesBelow disk.walkDepth [] root location
  | _ => []

end Disk

end PartsList
