import TransportSeams.Files.Path

/-!
Why an operation on files fails, with the texts the operating system uses.
-/

set_option autoImplicit false
set_option relaxedAutoImplicit false

namespace TransportSeams

inductive FileFault where
  | noEntry
  | alreadyExists
  | notDirectory
  | isDirectory
  | nameTooLong
  | embeddedNul
  | notText
  | unreachableRoot
  | other (detail : String)
deriving DecidableEq, Repr

def FileFault.message : FileFault → String
  | noEntry => "No such file or directory (os error 2)"
  | alreadyExists => "File exists (os error 17)"
  | notDirectory => "Not a directory (os error 20)"
  | isDirectory => "Is a directory (os error 21)"
  | nameTooLong => "File name too long (os error 36)"
  | embeddedNul => "file name contained an unexpected NUL byte"
  | notText => "stream did not contain valid UTF-8"
  | unreachableRoot => "failed to create whole tree"
  | other detail => detail

end TransportSeams
