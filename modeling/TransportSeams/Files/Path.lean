import TransportSeams.Text.Pieces

/-!
Slash-separated paths. A path keeps its text; two paths name the same file when their components
agree. Repeated and trailing slashes are no components, and neither is `.` except at the start of a
relative path; `..` is kept.
-/

set_option autoImplicit false
set_option relaxedAutoImplicit false

namespace TransportSeams

structure Path where
  text : String
deriving DecidableEq, Repr, Inhabited

namespace Path

inductive Component where
  | root
  | here
  | up
  | name (text : String)
deriving DecidableEq, Repr

/-- What stands before the first name: a slash, a leading `.`, or nothing. -/
inductive Anchor where
  | root
  | here
  | none
deriving DecidableEq, Repr

def segments (path : Path) : List (List Char) :=
  Text.pieces '/' path.text.toList

def isAbsolute (path : Path) : Bool :=
  path.text.toList.head? = some '/'

def endsWithSlash (path : Path) : Bool :=
  path.text.toList.getLast? = some '/'

/-- The anchor and the segments after it. -/
def anchored (path : Path) : Anchor × List (List Char) :=
  match path.segments with
  | [] => (.none, [])
  | first :: rest =>
    if path.isAbsolute then (.root, rest)
    else if first = ['.'] then (.here, rest)
    else (.none, first :: rest)

/-- A segment that is no component. -/
def isSilent (segment : List Char) : Bool :=
  segment = [] || segment = ['.']

def Anchor.components : Anchor → List Component
  | .root => [.root]
  | .here => [.here]
  | .none => []

def Anchor.segments : Anchor → List (List Char)
  | .root => [[]]
  | .here => [['.']]
  | .none => []

def components (path : Path) : List Component :=
  path.anchored.1.components ++
    (path.anchored.2.filter (!isSilent ·)).map fun segment =>
      if segment = ['.', '.'] then .up else .name (String.ofList segment)

def ofSegments (segments : List (List Char)) : Path :=
  ⟨String.ofList (Text.join ['/'] segments)⟩

/-- The path from the anchor along the segments; the root alone is a slash. -/
def ofAnchored (anchor : Anchor) (segments : List (List Char)) : Path :=
  if anchor = .root ∧ segments = [] then ⟨"/"⟩ else ofSegments (anchor.segments ++ segments)

def join (base relative : Path) : Path :=
  if relative.isAbsolute then relative
  else if base.text = "" ∨ base.endsWithSlash then ⟨base.text ++ relative.text⟩
  else ⟨base.text ++ "/" ++ relative.text⟩

/-- The path itself when it is absolute, else the path seen from `base`. -/
def absolutize (base path : Path) : Path :=
  if path.isAbsolute then path else base.join path

def dropSilentEnd (segments : List (List Char)) : List (List Char) :=
  (segments.reverse.dropWhile isSilent).reverse

/-- The path without its last component; the root and the empty path have none to give up. -/
def parent? (path : Path) : Option Path :=
  match path.anchored with
  | (anchor, segments) =>
    match dropSilentEnd segments with
    | [] => if anchor = .here then some ⟨""⟩ else none
    | kept => some (ofAnchored anchor (dropSilentEnd kept.dropLast))

def fileName? (path : Path) : Option String :=
  match path.components.getLast? with
  | some (.name text) => some text
  | _ => none

/-- A file name cut at its last dot; a dot at the very start does not count. -/
def splitName (name : String) : String × Option String :=
  let reversed := name.toList.reverse
  let suffix := (reversed.takeWhile (· ≠ '.')).reverse
  let stem := ((reversed.dropWhile (· ≠ '.')).drop 1).reverse
  if stem = [] then (name, none) else (String.ofList stem, some (String.ofList suffix))

end Path

end TransportSeams
