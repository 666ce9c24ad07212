/-!
# Files

What reading a file can come to, and a working directory held as data: the paths of its files with
their contents. A path is walked segment by segment, and only directories can be walked through.
Outside the working directory there are directories but no files.
-/

namespace OpticsCheck

inductive ReadFailure where
  | missing
  | throughFile
  | directory
  | denied
  | nameTooLong
  | notText
  | other (reason : String)
deriving DecidableEq, Repr

def ReadFailure.message : ReadFailure → String
  | .missing => "No such file or directory (os error 2)"
  | .throughFile => "Not a directory (os error 20)"
  | .directory => "Is a directory (os error 21)"
  | .denied => "Permission denied (os error 13)"
  | .nameTooLong => "File name too long (os error 36)"
  | .notText => "stream did not contain valid UTF-8"
  | .other reason => reason

/-- The contents of files by their path, which is a list of segments. -/
abbrev Files := List (List (List Char) × String)

namespace Files

def segments (path : String) : List (List Char) := path.toList.splitOn '/'

def ofList (files : List (String × String)) : Files :=
  files.map fun (path, content) => (segments path, content)

def hasDirectory (files : Files) (place : List (List Char)) : Bool :=
  files.any fun (file, _) => place.isPrefixOf file

/-- Whether a segment only says where to go from a directory. -/
def isMove (segment : List Char) : Bool :=
  segment = [] || segment = ['.'] || segment = ['.', '.']

/-- Outside the working directory nothing but directories is known. -/
def outside (rest : List (List Char)) : Except ReadFailure String :=
  .error (if rest.all isMove then .directory else .missing)

/-- A name takes at most 255 bytes. -/
def isTooLong (segment : List Char) : Bool := 255 < (String.ofList segment).utf8ByteSize

/-- A path takes at most this many bytes, and is not walked if it takes more. -/
def longestPath : Nat := 4095

/-- Walks on from the directory `place`. -/
def walk (files : Files) (place : List (List Char)) :
    List (List Char) → Except ReadFailure String
  | [] => .error .directory
  | segment :: rest =>
    if segment = [] ∨ segment = ['.'] then walk files place rest
    else if segment = ['.', '.'] then
      if place.isEmpty then outside rest else walk files place.dropLast rest
    else if isTooLong segment then .error .nameTooLong
    else
      let next := place ++ [segment]
      match files.lookup next with
      | some content => if rest.isEmpty then .ok content else .error .throughFile
      | none => if files.hasDirectory next then walk files next rest else .error .missing

def read (files : Files) (path : String) : Except ReadFailure String :=
  if longestPath < path.utf8ByteSize then .error .nameTooLong
  else if path.startsWith "/" then outside (segments path)
  else walk files [] (segments path)

end Files
end OpticsCheck
