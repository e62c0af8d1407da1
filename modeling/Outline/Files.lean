import Outline.Path
import Outline.Text.Lines
import Outline.Text.Quoted
import Outline.Text.Utf8

namespace Outline

-- The files below the working folder, as a value. Nothing stands above the working folder.
structure Files where
  -- By the names on the way, the first of which is a slash for the root. No content stands for a
  -- folder.
  entries : List (List String × Option (List UInt8))
  deriving DecidableEq, Repr

namespace Files

inductive Fault
  | missing
  | isFolder
  | notFolder
  | nameTooLong
  -- Nothing is looked up for such a path.
  | nullByte
  | unencodable (e : Text.Utf8.Unencodable)
  deriving DecidableEq, Repr

def Fault.message : Fault → String
  | missing       => "[Errno 2] No such file or directory"
  | isFolder      => "[Errno 21] Is a directory"
  | notFolder     => "[Errno 20] Not a directory"
  | nameTooLong   => "[Errno 36] File name too long"
  | nullByte      => "embedded null byte"
  | unencodable e => e.message

-- Did looking up a path come to this? The others are not taken for faults of files.
def Fault.isOfFile : Fault → Bool
  | nullByte      => false
  | unencodable _ => false
  | _             => true

structure Error where
  fault : Fault
  path  : String
  deriving DecidableEq, Repr

def Error.message (e : Error) : String :=
  if e.fault.isOfFile then e.fault.message ++ ": " ++ Text.quoted e.path else e.fault.message

-- The names on the way from the root.
def rootNames : List String := ["/"]

def isFolder (fs : Files) (names : List String) : Bool :=
  names.isEmpty || names = rootNames || fs.entries.any fun (other, content?) =>
    if other = names then content?.isNone else names.isPrefixOf other

def content? (fs : Files) (names : List String) : Option (List UInt8) :=
  (fs.entries.lookup names).bind id

def nameLimit : Nat := 255

-- Follows names from `here` on.
def follow (fs : Files) (here : List String) : List String → Except Fault (List String)
  | [] => .ok here
  | name :: rest =>
    if !fs.isFolder here then .error (if (fs.content? here).isSome then .notFolder else .missing)
    else if nameLimit < name.utf8ByteSize then .error .nameTooLong
    else if name = "." then follow fs here rest
    else if name = ".." then
      if here.isEmpty then .error .missing
      else follow fs (if here = rootNames then here else here.dropLast) rest
    else follow fs (here ++ [name]) rest

-- Why nothing is looked up for a path.
@[irreducible]
def misspelt? (path : String) : Option Fault :=
  match Text.Utf8.unencodableInPath? path with
  | some e => some (.unencodable e)
  | none   => if path.toList.contains '\x00' then some .nullByte else none

-- The names of the place that a path leads to.
def locate (fs : Files) (path : String) : Except Fault (List String) :=
  let names := ((Text.split '/' path.toList).map String.ofList).filter (· ≠ "")
  match misspelt? path with
  | some fault => .error fault
  | none =>
    if path = "" then .error .missing
    else follow fs (if path.toList.head? = some '/' then rootNames else []) names

def endsInSlash (path : String) : Bool := path.toList.getLast? = some '/'

private def readAt (fs : Files) (path : String) : Except Fault (List UInt8) := do
  let names ← fs.locate path
  if fs.isFolder names then throw .isFolder
  match fs.content? names with
  | some content => if endsInSlash path then throw .notFolder else return content
  | none         => throw .missing

def read (fs : Files) (path : String) : Except Error (List UInt8) :=
  (fs.readAt path).mapError fun fault => ⟨fault, path⟩

def put (names : List String) (content : List UInt8) :
    List (List String × Option (List UInt8)) → List (List String × Option (List UInt8))
  | [] => [(names, some content)]
  | e :: es => if e.1 = names then (names, some content) :: es else e :: put names content es

def writeAt (fs : Files) (path : String) (content : List UInt8) : Except Fault Files := do
  let names ← fs.locate path
  if fs.isFolder names then throw .isFolder
  if endsInSlash path then throw (if (fs.content? names).isSome then .notFolder else .isFolder)
  return ⟨put names content fs.entries⟩

-- The bytes of a text that is written in pieces, up to the first piece that there are none for.
def contentOf : List String → List UInt8 × Option Text.Utf8.Unencodable
  | [] => ([], none)
  | piece :: pieces =>
    match Text.Utf8.unencodable? piece with
    | some e => ([], some e)
    | none   =>
      let (content, stop?) := contentOf pieces
      (Text.Utf8.encode piece ++ content, stop?)

-- The files after a text is written to one of them in pieces, and what stopped the writing if it was
-- stopped. The file has lost its content before.
def write (fs : Files) (path : String) (pieces : List String) :
    Except Error (Files × Option Text.Utf8.Unencodable) :=
  let (content, stop?) := contentOf pieces
  ((fs.writeAt path content).map (·, stop?)).mapError fun fault => ⟨fault, path⟩

-- The names on the way that a path is written for.
def namesOf (p : Path) : List String := if p.root = "" then p.names else rootNames ++ p.names

-- The path of the names on the way.
def pathOf (names : List String) : Path :=
  if rootNames.isPrefixOf names then ⟨"/", names.drop 1⟩ else ⟨"", names⟩

-- The files of these paths; no content stands for a folder.
def ofList (entries : List (String × Option (List UInt8))) : Files :=
  ⟨entries.map fun (path, content?) => (namesOf (.ofText path), content?)⟩

-- The files that are new since then, or have another content.
def since (before after : Files) : List (String × List UInt8) :=
  after.entries.filterMap fun (names, content?) => do
    let content ← content?
    if before.content? names = some content then none else some ((pathOf names).text, content)

-- Why a file could not be read as text.
inductive ReadError
  | file (e : Error)
  | encoding (e : Text.Utf8.Error)
  deriving DecidableEq, Repr

def ReadError.message : ReadError → String
  | file e     => e.message
  | encoding e => e.message

def ReadError.isReported : ReadError → Bool
  | file e     => e.fault.isOfFile
  | encoding _ => true

def ofBytes (content : List UInt8) : Except ReadError String :=
  ((Text.Utf8.decode content).mapError .encoding).map fun s =>
    String.ofList (Text.unifyNewlines s.toList)

-- What follows the mark that may stand at the front; there is no text in a part of a mark.
def dropMark (content : List UInt8) : List UInt8 :=
  if Text.Utf8.mark.isPrefixOf content then content.drop 3
  else if content.length < 3 && content.isPrefixOf Text.Utf8.mark then []
  else content

def readText (fs : Files) (path : String) : Except ReadError String := do
  ofBytes (← (fs.read path).mapError .file)

-- As `readText`, but a mark at the front does not count.
def readMarkedText (fs : Files) (path : String) : Except ReadError String := do
  ofBytes (dropMark (← (fs.read path).mapError .file))

end Files
end Outline
