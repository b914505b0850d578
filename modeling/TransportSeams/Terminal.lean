/-!
A terminal that remembers the lines written to it, the ordinary ones apart from the error lines.
-/

set_option autoImplicit false
set_option relaxedAutoImplicit false

namespace TransportSeams

structure Terminal where
  /-- The ordinary lines, the newest first. -/
  output : List String
  /-- The error lines, the newest first. -/
  errors : List String
deriving DecidableEq, Repr

namespace Terminal

def empty : Terminal :=
  ⟨[], []⟩

def writeLine (terminal : Terminal) (line : String) : Terminal :=
  { terminal with output := line :: terminal.output }

def writeErrorLine (terminal : Terminal) (line : String) : Terminal :=
  { terminal with errors := line :: terminal.errors }

/-- The ordinary lines in the order in which they were written. -/
def outputLines (terminal : Terminal) : List String :=
  terminal.output.reverse

/-- The error lines in the order in which they were written. -/
def errorLines (terminal : Terminal) : List String :=
  terminal.errors.reverse

end Terminal

end TransportSeams
