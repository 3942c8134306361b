import PartsList.Extraction.Document
import PartsList.Log.Basic

/-!
# The engine's library

Documents are read by a library that is loaded when the program starts.  It is looked for where the
settings say, else where the environment says, else where the system keeps its libraries; a place
that is named is the only one that is tried.
-/

namespace PartsList

/-- Where the library is looked for. -/
inductive LibraryPlace
  /-- At the path that the settings name. -/
  | configured (path : Path)
  /-- At the path that the environment names. -/
  | environment (path : Path)
  /-- Where the system keeps its libraries. -/
  | standard
deriving DecidableEq, Repr

/-- Loads a library: the engine it yields, or what the system says when it cannot be loaded. -/
abbrev Loader := LibraryPlace → Except String Engine

namespace LibraryPlace

/-- Name of the environment variable that names a path. -/
def variableName : String := "PDFIUM_DYNAMIC_LIB_PATH"

/-- The place that is tried when the settings and the environment name the given paths. -/
def choose (configured environment : Option Path) : LibraryPlace :=
  match configured, environment with
  | some path, _ => .configured path
  | none, some path => .environment path
  | none, none => .standard

/-- What the log says before the library is loaded. -/
def announcement : LibraryPlace → List LogLine
  | configured path => [line "configured path" path]
  | environment path => [line "env var" path]
  | standard => []
where
  /-- A line that names a path and where it is from. -/
  line (origin : String) (path : Path) : LogLine :=
    { level := .debug
      target := "bomharvest::pipeline::extraction::pdfium"
      message := "Loading PDFium from " ++ origin ++ " path=" ++ path.spelling
      fields := ["message", "path"] }

/-- What went wrong, as far as it depends on the place. -/
def complaint : LibraryPlace → String
  | configured path | environment path => "Failed to load PDFium from " ++ path.spelling
  | standard =>
    "PDFium library not found. Set pdfium_library_path, " ++ variableName ++ " or install PDFium"

/-- The engine of the library at a place. -/
def engine (place : LibraryPlace) (loader : Loader) : Except EngineError Engine :=
  match loader place with
  | .ok engine => .ok engine
  | .error reason => .error (.library (place.complaint ++ ": " ++ reason))

end LibraryPlace

end PartsList
