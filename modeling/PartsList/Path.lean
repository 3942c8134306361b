/-!
# Paths

A path keeps the spelling it was given.  Two paths name the same place when their components agree:
repeated and trailing slashes and inner dots do not count.  Paths are ordered by their components,
which is not the order of their spellings.
-/

namespace PartsList

/-- One step of a path.  The order of the constructors is their order among paths. -/
inductive Component
  /-- The root in front of an absolute path. -/
  | root
  /-- A dot in front of a relative path. -/
  | current
  /-- Two dots: the directory above. -/
  | parent
  /-- A name in a directory. -/
  | normal (name : String)
deriving DecidableEq, Repr

namespace Component

/-- Place of the kind of component among the kinds. -/
def rank : Component → Nat
  | root => 0
  | current => 1
  | parent => 2
  | normal _ => 3

/-- Order of components: by kind, names among themselves by their text. -/
def order : Component → Component → Ordering
  | normal name, normal other => compareOfLessAndEq name other
  | left, right => compareOfLessAndEq left.rank right.rank

end Component

/-- A path as it is spelled. -/
structure Path where
  /-- The spelling. -/
  spelling : String
deriving DecidableEq, Repr

namespace Path

/-- Pieces of a character list between slashes. -/
def splitSlashes : List Char → List (List Char)
  | [] => [[]]
  | c :: rest =>
    match splitSlashes rest with
    | piece :: pieces => if c = '/' then [] :: piece :: pieces else (c :: piece) :: pieces
    | [] => [[]]

/-- The pieces of the spelling between its slashes. -/
def pieces (path : Path) : List String :=
  (splitSlashes path.spelling.toList).map String.ofList

/-- The component that a piece behind the first one stands for. -/
def innerComponent? (piece : String) : Option Component :=
  if piece = "" ∨ piece = "." then none
  else if piece = ".." then some .parent
  else some (.normal piece)

/-- The component that the first piece stands for, when more pieces follow or none does. -/
def firstComponent? (piece : String) (more : Bool) : Option Component :=
  if piece = "" then (if more then some .root else none)
  else if piece = "." then some .current
  else innerComponent? piece

/-- The components of a path. -/
def components (path : Path) : List Component :=
  match path.pieces with
  | [] => []
  | piece :: rest =>
    (firstComponent? piece (!rest.isEmpty)).toList ++ rest.filterMap innerComponent?

/-- Both paths name the same place. -/
def same (path other : Path) : Bool :=
  path.components == other.components

/-- Lexicographic order of component lists. -/
def orderComponents : List Component → List Component → Ordering
  | [], [] => .eq
  | [], _ :: _ => .lt
  | _ :: _, [] => .gt
  | left :: lefts, right :: rights => (left.order right).then (orderComponents lefts rights)

/-- The order of paths. -/
def order (path other : Path) : Ordering :=
  orderComponents path.components other.components

/-- The path comes no later than the other one. -/
def ranked (path other : Path) : Bool :=
  (path.order other).isLE

/-- The paths in order. -/
def sort (paths : List Path) : List Path :=
  paths.mergeSort ranked

/-- The name at the end of a path that ends in one. -/
def lastName? (path : Path) : Option String :=
  match path.components.getLast? with
  | some (.normal name) => some name
  | _ => none

/-- The name of the file a path leads to; the whole path when it does not end in a name. -/
def fileName (path : Path) : String :=
  path.lastName?.getD path.spelling

/-- What follows the last dot of a name, unless that dot is its first character. -/
def extensionOf (name : String) : Option String :=
  let reversed := name.toList.reverse
  let tail := reversed.takeWhile (· != '.')
  match reversed.drop tail.length with
  | _ :: _ :: _ => some (String.ofList tail.reverse)
  | _ => none

/-- The extension of the file a path leads to. -/
def extension? (path : Path) : Option String :=
  path.lastName?.bind extensionOf

/-- The pieces up to the last one that stands for a component. -/
def dropSilent (pieces : List String) : List String :=
  (pieces.reverse.dropWhile fun piece => piece = "" ∨ piece = ".").reverse

/-- The directory a path lies in; none for the empty path and for the root. -/
def parent? (path : Path) : Option Path :=
  match path.components with
  | [] => none
  | [.root] => none
  | [.current] => some ⟨""⟩
  | _ =>
    let front := (dropSilent path.pieces).dropLast
    let kept := dropSilent front
    match kept, front with
    | [], "" :: _ => some ⟨"/"⟩
    | [], "." :: _ => some ⟨"."⟩
    | kept, _ => some ⟨String.intercalate "/" kept⟩

/-- A name inside a directory. -/
def join (directory : Path) (name : String) : Path :=
  if directory.spelling = "" ∨ directory.spelling.toList.getLast? = some '/' then
    ⟨directory.spelling ++ name⟩
  else ⟨directory.spelling ++ "/" ++ name⟩

/-- The path without the slashes at its end, unless it is made of nothing else. -/
def withoutSlashes (path : Path) : Path :=
  match path.spelling.toList.reverse.dropWhile (· == '/') with
  | [] => path
  | rest => ⟨String.ofList rest.reverse⟩

end Path

end PartsList
