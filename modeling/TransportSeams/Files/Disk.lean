import TransportSeams.Files.Fault

/-!
A tree of directories and text files without links. Operations name a place by a path, which is
walked from the root, and fail as an operating system does. Each write stamps the file with the
tick of a clock.
-/

set_option autoImplicit false
set_option relaxedAutoImplicit false

namespace TransportSeams

/-- The names from the root down. -/
abbrev Location : Type :=
  List String

inductive DiskEntry where
  | directory
  | file (text : String) (modified : Nat)
deriving DecidableEq, Repr

structure Disk where
  /-- Everything below the root, in the order in which it was made. -/
  entries : List (Location × DiskEntry)
  clock : Nat

abbrev DiskAttempt : Type → Type :=
  ExceptT FileFault (StateM Disk)

namespace Disk

def empty : Disk :=
  ⟨[], 0⟩

def entry? (disk : Disk) (location : Location) : Option DiskEntry :=
  if location = [] then some .directory else disk.entries.lookup location

def putEntry (location : Location) (entry : DiskEntry) :
    List (Location × DiskEntry) → List (Location × DiskEntry)
  | [] => [(location, entry)]
  | (other, held) :: rest =>
    if other = location then (location, entry) :: rest
    else (other, held) :: putEntry location entry rest

def put (disk : Disk) (location : Location) (entry : DiskEntry) : Disk :=
  { disk with entries := putEntry location entry disk.entries }

def remove (disk : Disk) (location : Location) : Disk :=
  { disk with entries := disk.entries.filter fun entry => entry.1 ≠ location }

/-- The entries right inside a directory, with their names. -/
def children (disk : Disk) (location : Location) : List (String × DiskEntry) :=
  disk.entries.filterMap fun (place, entry) =>
    match place.getLast? with
    | some name => if place.dropLast = location then some (name, entry) else none
    | none => none

/-- Only what is a directory can be gone on from. -/
def enter (disk : Disk) (location : Location) : Except FileFault Unit :=
  match disk.entry? location with
  | none => .error .noEntry
  | some (.file ..) => .error .notDirectory
  | some .directory => .ok ()

/-- One step of a walk; the place that has been reached must be a directory. -/
def step (disk : Disk) (location : Location) (segment : List Char) :
    Except FileFault Location := do
  disk.enter location
  if Path.isSilent segment then return location
  else if segment = ['.', '.'] then return location.dropLast
  else
    let name := String.ofList segment
    if name.utf8ByteSize > 255 then throw .nameTooLong else return location ++ [name]

def walk (disk : Disk) : Location → List (List Char) → Except FileFault Location
  | location, [] => .ok location
  | location, segment :: rest => do
    disk.walk (← disk.step location segment) rest

/-- The texts that are a path to the operating system. -/
def checkPath (path : Path) : Except FileFault Unit :=
  if path.text.toList.contains '\x00' then .error .embeddedNul
  else if path.text = "" then .error .noEntry
  else if path.text.utf8ByteSize > 4095 then .error .nameTooLong
  else .ok ()

/-- The place that a path leads to, whether or not there is something. -/
def locate (disk : Disk) (path : Path) : Except FileFault Location := do
  checkPath path
  disk.walk [] path.segments

/-- The segments without those that come from slashes at the end. -/
def unslashed (path : Path) : List (List Char) :=
  (path.segments.reverse.dropWhile (· = [])).reverse

def lookup (disk : Disk) (path : Path) : Except FileFault (Location × DiskEntry) := do
  let location ← disk.locate path
  match disk.entry? location with
  | some entry => return (location, entry)
  | none => throw .noEntry

def exists? (disk : Disk) (path : Path) : Bool :=
  (disk.lookup path).toOption.isSome

def isDirectory (disk : Disk) (path : Path) : Bool :=
  match disk.lookup path with
  | .ok (_, .directory) => true
  | _ => false

def read (disk : Disk) (path : Path) : Except FileFault String := do
  match ← disk.lookup path with
  | (_, .file text _) => return text
  | (_, .directory) => throw .isDirectory

/-- The place of a file that is to be written, with its text if it is there. A path that ends in a
slash or in dots can only mean a directory, whatever there is. -/
def writable (disk : Disk) (path : Path) : Except FileFault (Location × String) := do
  checkPath path
  let segments := unslashed path
  let parent ← disk.walk [] segments.dropLast
  disk.enter parent
  match segments.getLast? with
  | none => throw .isDirectory
  | some segment =>
    if path.endsWithSlash || Path.isSilent segment || segment = ['.', '.'] then
      throw .isDirectory
    else
      let location ← disk.step parent segment
      match disk.entry? location with
      | some .directory => throw .isDirectory
      | some (.file text _) => return (location, text)
      | none => return (location, "")

def store (location : Location) (text : String) : DiskAttempt Unit :=
  modify fun disk =>
    { disk.put location (.file text disk.clock) with clock := disk.clock + 1 }

def ofExcept {α : Type} (result : Except FileFault α) : DiskAttempt α :=
  ExceptT.mk (pure result)

/-- Replaces the text of a file, which is made when it is missing. -/
def write (path : Path) (text : String) : DiskAttempt Unit := do
  let (location, _) ← ofExcept ((← get).writable path)
  store location text

/-- Adds text at the end of a file, which is made when it is missing. -/
def append (path : Path) (text : String) : DiskAttempt Unit := do
  let (location, old) ← ofExcept ((← get).writable path)
  store location (old ++ text)

def makeDirectory (path : Path) : DiskAttempt Unit := do
  let disk ← get
  ofExcept (checkPath path)
  let location ← ofExcept (disk.walk [] (unslashed path))
  match disk.entry? location, disk.entry? location.dropLast with
  | some _, _ => throw .alreadyExists
  | none, some .directory => set (disk.put location .directory)
  | none, some (.file ..) => throw .notDirectory
  | none, none => throw .noEntry

/-- Makes a directory, or is content with the one that is there. -/
def ensureDirectory (path : Path) : DiskAttempt Unit :=
  tryCatch (makeDirectory path) fun fault => do
    unless (← get).isDirectory path do
      throw fault

/-- Makes the first of the directories, after the ones that follow it where they are missing. -/
def makeDirectoriesAlong : List Path → DiskAttempt Unit
  | [] => throw .unreachableRoot
  | path :: parents =>
    if path.text = "" then return ()
    else
      tryCatch (ensureDirectory path) fun fault => do
        if fault = .noEntry then
          makeDirectoriesAlong parents
          ensureDirectory path
        else throw fault

/-- The path, its parent, the parent of that, and so on. -/
def ancestors : Nat → Path → List Path
  | 0, path => [path]
  | depth + 1, path =>
    path :: match path.parent? with
      | some parent => ancestors depth parent
      | none => []

/-- Makes a directory and all that are missing above it. -/
def makeDirectories (path : Path) : DiskAttempt Unit :=
  makeDirectoriesAlong (ancestors path.segments.length path)

def list (disk : Disk) (path : Path) :
    Except FileFault (Location × List (String × DiskEntry)) := do
  match ← disk.lookup path with
  | (location, .directory) => return (location, disk.children location)
  | (_, .file ..) => throw .notDirectory

end Disk

end TransportSeams
