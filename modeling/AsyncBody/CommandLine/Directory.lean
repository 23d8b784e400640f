/-!
A directory with its files, the names that lead to them, and reading and writing by name. A write
changes nothing but the file that it names, and a write that fails changes nothing.
-/
namespace AsyncBody.CommandLine

/-- Folders on the way to an entry, then the entry. -/
abbrev Path := List String

/-- The files in and below the folder that a program runs in, and the folders below it. -/
structure Directory where
  files : List (Path × ByteArray)
  folders : List Path

inductive FileError where
  | missing
  | notFolder
  | isFolder
  | tooLong
  | notText
  /-- A cause that only the system knows, in its words. -/
  | other (description : String)
deriving DecidableEq, Repr

def FileError.message : FileError → String
  | .missing => "No such file or directory (os error 2)"
  | .notFolder => "Not a directory (os error 20)"
  | .isFolder => "Is a directory (os error 21)"
  | .tooLong => "File name too long (os error 36)"
  | .notText => "stream did not contain valid UTF-8"
  | .other description => description

/-- What a name leads to: a folder, a file, or a place in a folder that is free. A name that ends
in a slash asks for a folder at the free place. -/
inductive Place where
  | folder
  | file (path : Path)
  | free (path : Path) (asksFolder : Bool)
deriving DecidableEq, Repr

/-- The most bytes that an entry has in its name. -/
def longestEntry : Nat := 255

/-- The most bytes that a name has with the folders on its way. -/
def longestName : Nat := 4095

namespace Directory

/-- Each way to a file leads through folders. -/
def ofFiles (files : List (Path × ByteArray)) : Directory :=
  ⟨files,files.flatMap fun (path, _) => (List.range path.length).map path.take⟩

def read? (d : Directory) (path : Path) : Option ByteArray := d.files.lookup path

def isFolder (d : Directory) (path : Path) : Bool := path.isEmpty || d.folders.contains path

/-- Walks from a folder. Nothing but folders is known outside the directory, where the walk has no
path. -/
def walk (d : Directory) : Option Path → List String → Except FileError Place
  | _, [] => .ok .folder
  | none, name :: rest =>
    if name = "" ∨ name = "." ∨ name = ".." then d.walk none rest else .error .missing
  | some here, name :: rest =>
    if name = "" ∨ name = "." then d.walk (some here) rest
    else if name = ".." then d.walk (if here.isEmpty then none else some here.dropLast) rest
    else if longestEntry < name.utf8ByteSize then .error .tooLong
    else
      let next := here ++ [name]
      if d.isFolder next then d.walk (some next) rest
      else if (d.read? next).isSome then
        if rest.isEmpty then .ok (.file next) else .error .notFolder
      else if rest.all (· = "") then .ok (.free next (! rest.isEmpty))
      else .error .missing

/-- Names are taken apart at slashes; one that starts with a slash starts outside. -/
def place (d : Directory) (name : String) : Except FileError Place :=
  if longestName < name.utf8ByteSize then .error .tooLong
  else match (name.toList.splitOn '/').map String.ofList with
  | [""] => .error .missing
  | "" :: rest => d.walk none rest
  | names => d.walk (some []) names

def readText (d : Directory) (name : String) : Except FileError String := do
  match ← d.place name with
  | .folder => .error .isFolder
  | .free _ _ => .error .missing
  | .file path =>
    match (d.read? path).bind String.fromUTF8? with
    | some text => .ok text
    | none => .error .notText

/-- Puts a file at a path, in place of the one that was there. -/
def put (d : Directory) (path : Path) (content : ByteArray) : Directory :=
  { d with files := (path, content) :: d.files.filter (·.1 != path) }

def writeText (d : Directory) (name text : String) : Except FileError Directory := do
  match ← d.place name with
  | .folder | .free _ true => .error .isFolder
  | .file path | .free path false => .ok (d.put path text.toUTF8)

end Directory
end AsyncBody.CommandLine
