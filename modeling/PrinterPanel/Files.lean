import PrinterPanel.Text.Fit

/-!
# File browser

The printer lists its files as full paths with `/` between the names. The browser shows the
entries of one folder at a time: first the folders in it, each once, then the files.
-/

namespace PrinterPanel.Files

/-- A path, or a part of one. -/
abbrev Path := List Char

/-- Bytes available for a path. -/
def pathRoom : Nat := 64

/-- Most paths in a listing, and most entries of a folder. -/
def maxPaths : Nat := 64

/-- Take over a listing of the printer. Paths beyond the last place are dropped, and a path that
is too long leaves an empty place. -/
def listing (paths : List String) : List Path :=
  (paths.take maxPaths).map fun p => if Text.fits pathRoom p then p.toList else []

/-- One row of the browser. -/
inductive Entry where
  /-- A folder. -/
  | folder (name : Path)
  /-- A file. -/
  | file (name : Path)
  deriving DecidableEq, Repr

/-- The name of an entry. -/
def Entry.name : Entry → Path
  | folder name | file name => name

/-- What selecting an entry leads to. -/
inductive Selected where
  /-- The browser shows the folder now. -/
  | folder
  /-- A file was chosen, with this full path. -/
  | file (path : Path)
  deriving DecidableEq, Repr

/-- The browser: all paths and the folder that it shows. -/
structure Browser where
  /-- The paths of the listing. -/
  paths : List Path
  /-- The folder, with a `/` behind it unless it is the top one. -/
  folder : Path
  deriving DecidableEq, Repr, Inhabited

namespace Browser

/-- The browser without a listing. -/
def empty : Browser := ⟨[], []⟩

/-- Show the top folder of a listing. -/
def load (paths : List Path) : Browser := ⟨paths, []⟩

/-- The part of a path below a folder, if there is one. -/
def below (folder path : Path) : Option Path :=
  if folder.isPrefixOf path && folder.length < path.length then some (path.drop folder.length)
  else none

/-- The first folder on a path, if the path does not name a file directly. -/
def firstFolder (path : Path) : Option Path :=
  if path.contains '/' then some (path.takeWhile (· != '/')) else none

/-- The folders in the present one, in the order of their first mention. -/
def folders (b : Browser) : List Path :=
  ((b.paths.filterMap (below b.folder)).filterMap firstFolder).eraseDups

/-- The files in the present folder, in the order of the listing. -/
def files (b : Browser) : List Path :=
  (b.paths.filterMap (below b.folder)).filter (! ·.contains '/')

/-- A list of names with one more behind it, unless the list is full or the name is too long. -/
def put (names : List Path) (name : Path) : List Path :=
  if names.length < maxPaths ∧ Text.size name ≤ pathRoom then names ++ [name] else names

/-- What a pass over the listing has found of a folder so far. -/
structure Found where
  /-- The folders in it, each once. -/
  folders : List Path
  /-- The files in it. They wait until all folders are found. -/
  files : List Path
  deriving DecidableEq, Repr

/-- Look at one more path of the listing. -/
def Found.look (folder : Path) (found : Found) (path : Path) : Found :=
  match below folder path with
  | none => found
  | some rest =>
    match firstFolder rest with
    | some name =>
      if name ∈ found.folders then found
      else { found with folders := put found.folders name }
    | none => { found with files := put found.files rest }

/-- Look at the paths of a listing, one after the other. -/
def find (folder : Path) (paths : List Path) : Found := paths.foldl (.look folder) ⟨[], []⟩

/-- The rows of the present folder. Files are put behind the folders as long as there is room. -/
def entries (b : Browser) : List Entry :=
  let found := find b.folder b.paths
  (found.folders.map Entry.folder ++ found.files.map Entry.file).take maxPaths

/-- Whether the top folder is shown. -/
def isTop (b : Browser) : Bool := b.folder.isEmpty

/-- Go into a folder or choose a file, by the number of its row. -/
def select (b : Browser) (index : Nat) : Option Selected × Browser :=
  match b.entries[index]? with
  | none => (none, b)
  | some (.folder name) =>
    let folder := b.folder ++ name ++ ['/']
    if Text.size folder ≤ pathRoom then (some .folder, { b with folder := folder }) else (none, b)
  | some (.file name) =>
    let path := b.folder ++ name
    (if Text.size path ≤ pathRoom then some (.file path) else none, b)

/-- The folder that holds a folder. -/
def parent (folder : Path) : Path :=
  ((folder.reverse.dropWhile (· == '/')).dropWhile (· != '/')).reverse

/-- Go up by one folder; the result tells whether there was one to go up from. -/
def up (b : Browser) : Bool × Browser :=
  if b.isTop then (false, b) else (true, { b with folder := parent b.folder })

end Browser

end PrinterPanel.Files
