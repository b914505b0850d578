import TransportSeams.Files.Path

/-!
Pruning run logs. A file belongs to the run logs of the active one when it has the same extension
and a stem that starts with the active stem. The oldest are deleted first, until the rest fits the
budget; the active log counts and is never deleted. The sizes are added up in 64 bits.
-/

set_option autoImplicit false
set_option relaxedAutoImplicit false

namespace TransportSeams

/-- A regular file of the log's directory. -/
structure LogFile where
  name : String
  size : Nat
  modified : Nat
deriving DecidableEq, Repr

namespace LogFile

def isRunLog (active : String) (file : LogFile) : Bool :=
  let (stem, extension?) := Path.splitName file.name
  let (activeStem, activeExtension?) := Path.splitName active
  extension? = activeExtension? && activeStem.toList.isPrefixOf stem.toList

def totalSize (files : List LogFile) : Nat :=
  files.foldr (fun file total => file.size + total) 0

/-- What a counter of 64 bits shows for the files; it starts again when it is full. -/
def countedSize (files : List LogFile) : Nat :=
  totalSize files % UInt64.size

/-- The run logs among the files, the oldest first and otherwise in the order of the list. -/
def runLogs (active : String) (files : List LogFile) : List LogFile :=
  (files.filter (isRunLog active)).mergeSort fun a b => a.modified ≤ b.modified

/-- What to delete of files that count for `total` bytes together. -/
def surplus (active : String) (budget : Nat) : Nat → List LogFile → List LogFile
  | _, [] => []
  | total, file :: rest =>
    if total ≤ budget then []
    else if file.name = active then surplus active budget total rest
    else file :: surplus active budget (total - file.size) rest

def toPrune (active : String) (budget : Nat) (files : List LogFile) : List LogFile :=
  let logs := runLogs active files
  surplus active budget (countedSize logs) logs

end LogFile

end TransportSeams
