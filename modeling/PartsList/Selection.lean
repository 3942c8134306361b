import PartsList.Checkpoint.Basic
import PartsList.Disk.Walk

/-!
# Selection

Which files a run processes: the documents below the input directory, without those that are done
when a run is resumed, or only those that failed.  A limit on their number counts what is left.
-/

namespace PartsList

/-- The extension of documents, whatever the case of its letters. -/
def documentExtension : String := "pdf"

/-- The path has the extension of documents. -/
def isDocumentPath (path : Path) : Bool :=
  match path.extension? with
  | some text => text.toList.map Char.toLower == documentExtension.toList
  | none => false

/-- The documents below a directory, in the order of their paths; nothing when it is none. -/
def discover? (disk : Disk) (root : Path) : Option (List Path) :=
  if disk.isDirectory root then some (Path.sort ((disk.files root).filter isDocumentPath)) else none

/-- How files are selected. -/
inductive SelectionMode
  /-- All files. -/
  | fresh
  /-- The files that are not done. -/
  | resume
  /-- The files that failed. -/
  | retryFailed
deriving DecidableEq, Repr

namespace SelectionMode

/-- The mode that two flags ask for; the wish to retry failed files wins. -/
def ofFlags (resume retryFailedOnly : Bool) : SelectionMode :=
  if retryFailedOnly then .retryFailed else if resume then .resume else .fresh

/-- The mode looks at the checkpoint. -/
def usesCheckpoint (mode : SelectionMode) : Bool :=
  mode != .fresh

/-- The mode's name. -/
def name : SelectionMode → String
  | fresh => "Fresh"
  | resume => "Resume"
  | retryFailed => "RetryFailed"

end SelectionMode

/-- The candidates of a mode. -/
def candidates (discovered : List Path) (checkpoint : Checkpoint) : SelectionMode → List Path
  | .fresh => discovered
  | .resume => discovered.filter (!checkpoint.isProcessed ·)
  | .retryFailed => checkpoint.failed.paths

/-- The files of a run: the first candidates, up to the limit if there is one. -/
def selectFiles (discovered : List Path) (checkpoint : Checkpoint) (mode : SelectionMode)
    (limit : Option Nat) : List Path :=
  match limit with
  | some count => (candidates discovered checkpoint mode).take count
  | none => candidates discovered checkpoint mode

end PartsList
