namespace DeclCheck.CommandLine

inductive ReadFailure where
  | notFound
  | isDirectory
  | notDirectory
  | notText
  | other (reason : String)
deriving DecidableEq, Repr

def ReadFailure.reason : ReadFailure → String
  | notFound => "No such file or directory (os error 2)"
  | isDirectory => "Is a directory (os error 21)"
  | notDirectory => "Not a directory (os error 20)"
  | notText => "stream did not contain valid UTF-8"
  | other reason => reason

/-- The text of a file, given its bytes. -/
def decode (bytes : ByteArray) : Except ReadFailure String :=
  match String.fromUTF8? bytes with
  | some text => .ok text
  | none => .error .notText

/-- Files by path. -/
structure Directory where
  files : List (String × ByteArray)

namespace Directory

/-- The parts of a path between slashes, without empty parts and single points. -/
def parts (path : String) : List String :=
  ((path.toList.splitOn '/').map String.ofList).filter fun part => part ≠ "" ∧ part ≠ "."

/-- The path ends in a way that only a directory can be named. -/
def namesDirectory (path : String) : Bool :=
  match (path.toList.splitOn '/').getLast? with
  | some last => last = [] || last = ['.']
  | none => false

/-- Read a file by a path that starts in the directory. Nothing is known of the
directories around it but that they are there. -/
def read (directory : Directory) (path : String) : Except ReadFailure String :=
  let wanted := parts path
  if wanted.all (· = "..") then .error .isDirectory
  else if path.toList.head? = some '/' then .error .notFound
  else match directory.files.find? fun file => parts file.1 = wanted with
    | some (_, bytes) => if namesDirectory path then .error .notDirectory else decode bytes
    | none =>
      if directory.files.any fun file => wanted.isPrefixOf (parts file.1) then
        .error .isDirectory
      else if directory.files.any fun file => (parts file.1).isPrefixOf wanted then
        .error .notDirectory
      else .error .notFound

end Directory

end DeclCheck.CommandLine
