/-!
# Library Search Paths

Backends may live in libraries of their own. A library and its two entry points are named after the
backend, and a list of directories says where to look.

Two paths are the same when they have the same components. Repeated slashes and a trailing slash do
not count, nor does a component that is a single dot, unless it stands first in a relative path. Two
dots are a component like any other. A search path keeps the spelling that came first.
-/

namespace Transceiver

namespace Library

/-- The file that holds a backend. -/
def fileName (backend : String) : String :=
  s!"librigcat_{backend}.so"

/-- The entry point that registers the models of a backend. -/
def initSymbol (backend : String) : String :=
  s!"rigcat_init_{backend}"

/-- The entry point that looks for a radio at a port. -/
def probeSymbol (backend : String) : String :=
  s!"rigcat_probe_{backend}"

end Library

/-- What a path says, apart from its spelling. -/
structure PathComponents where
  /-- The path starts at the root. -/
  absolute : Bool
  names : List String
  deriving DecidableEq, Repr

/-- The components of a path. -/
def PathComponents.ofString (path : String) : PathComponents :=
  let absolute := path.startsWith "/"
  let pieces := (path.toList.splitOn '/').map String.ofList
  let isName (piece : String) : Bool := piece != "" && piece != "."
  -- A dot counts only where a relative path starts: the piece before a leading slash is empty.
  let lead := if pieces.head? == some "." then ["."] else []
  ⟨absolute, lead ++ pieces.filter isName⟩

/-- A file in a directory. -/
def joinPath (directory file : String) : String :=
  if directory == "" || directory.endsWith "/" then directory ++ file
  else directory ++ "/" ++ file

/-- The directories in which to look, in order. -/
structure SearchPath where
  /-- The directories as they were first spelled. -/
  directories : List String
  deriving DecidableEq, Repr

namespace SearchPath

/-- Nowhere to look. -/
def empty : SearchPath := ⟨[]⟩

/-- Some directory of the search path is the same as `path`. -/
def covers (search : SearchPath) (path : String) : Bool :=
  search.directories.any fun directory =>
    PathComponents.ofString directory == PathComponents.ofString path

/-- Adds a directory at the end unless it is covered. -/
def add (search : SearchPath) (path : String) : SearchPath :=
  if search.covers path then search else ⟨search.directories ++ [path]⟩

/-- The search path that takes in `paths` in turn. -/
def ofList (paths : List String) : SearchPath :=
  paths.foldl add empty

/-- The files that may hold a backend, in the order in which they are tried. -/
def candidates (search : SearchPath) (backend : String) : List String :=
  search.directories.map fun directory => joinPath directory (Library.fileName backend)

end SearchPath

end Transceiver
