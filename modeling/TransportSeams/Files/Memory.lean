import TransportSeams.Error

/-!
Files held in memory, found by the components of their paths. Directories are noted when they are
made and are otherwise nothing: only a file exists.
-/

set_option autoImplicit false
set_option relaxedAutoImplicit false

namespace TransportSeams

structure MemoryFiles where
  files : List (List Path.Component × String)
  /-- The directories that were made, the newest first. -/
  made : List Path

namespace MemoryFiles

def empty : MemoryFiles :=
  ⟨[], []⟩

def find? (memory : MemoryFiles) (path : Path) : Option String :=
  memory.files.lookup path.components

def write (memory : MemoryFiles) (path : Path) (text : String) : MemoryFiles :=
  { memory with files := (path.components, text) :: memory.files }

def ofList (files : List (Path × String)) : MemoryFiles :=
  files.foldl (fun memory file => memory.write file.1 file.2) empty

/-- The text of a file, or what is wrong with its path. -/
def text (memory : MemoryFiles) (path : Path) : Except IoFault String :=
  (memory.find? path).elim (.error (.missingFile path)) .ok

def read (memory : MemoryFiles) (path : Path) : Except SeamError String :=
  (memory.text path).mapError SeamError.io

def exists? (memory : MemoryFiles) (path : Path) : Bool :=
  (memory.find? path).isSome

def makeDirectory (memory : MemoryFiles) (path : Path) : MemoryFiles :=
  { memory with made := path :: memory.made }

/-- The directories that were made, as they were named, in order. -/
def madeDirectories (memory : MemoryFiles) : List Path :=
  memory.made.reverse

end MemoryFiles

end TransportSeams
