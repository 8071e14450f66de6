import SessionKeeper.SystemError
import SessionKeeper.Text.Blank
import SessionKeeper.Text.Utf8

/-!
# Files

The files that a run can reach lie below its working directory, or are given by paths from the root;
a directory is there because something lies in it. A path is walked name by name, and every name but
the last must lead to a directory.
-/

namespace SessionKeeper

/-- What lies under a path. -/
inductive FileContent where
  | regular (bytes : Bytes)
  | socket
  /-- A file that cannot be opened. -/
  | locked (error : SystemError)
  /-- A file that can be opened, but not read. -/
  | faulty (error : SystemError)
  deriving DecidableEq, Repr

/-- Files under their paths, each path a list of names from the working directory down, or from the
root if it begins with the root's name. -/
structure Files where
  entries : List (List String × FileContent)

/-- What a walk along a path leads to. -/
inductive FileNode where
  | regular (bytes : Bytes)
  | socket
  | locked (error : SystemError)
  | faulty (error : SystemError)
  /-- A directory, with the names that lead to it. -/
  | directory (path : List String)

namespace Files

/-- No files. -/
def empty : Files := ⟨[]⟩

/-- The name of the root, which no file can have. -/
def rootName : String := "/"

/-- The names of the directory that a path starts from. -/
def start (path : String) : List String :=
  if path.startsWith rootName then [rootName] else []

/-- The names of a path. -/
def pathNames (path : String) : List String :=
  start path ++ (Text.split '/' path).filter fun name => name != "" && name != "."

/-- The files with one more. -/
def add (f : Files) (path : String) (content : FileContent) : Files :=
  ⟨f.entries ++ [(pathNames path, content)]⟩

/-- What lies under a path of names. -/
def node? (f : Files) (path : List String) : Option FileNode :=
  match f.entries.lookup path with
  | some (.regular bytes) => some (.regular bytes)
  | some .socket => some .socket
  | some (.locked error) => some (.locked error)
  | some (.faulty error) => some (.faulty error)
  | none =>
      if path.isEmpty || f.entries.any fun entry => path.isPrefixOf entry.1 then
        some (.directory path)
      else none

/-- The greatest number of bytes of a name. -/
def maxNameLength : Nat := 255

/-- The number of bytes that a path must stay below. -/
def pathLimit : Nat := 4096

/-- The directory above another one: the root is above itself, and none is known above the working
directory. -/
def parent? (path : List String) : Option (List String) :=
  if path.isEmpty then none
  else if path = [rootName] then some path
  else some path.dropLast

/-- Walk from a node along the names that are left. The empty name and the dot stay where they are,
and two dots go back. -/
def walk (f : Files) (node : FileNode) (names : List String) : Except SystemError FileNode :=
  match names, node with
  | [], node => .ok node
  | name :: names, .directory path =>
      if name = "" ∨ name = "." then f.walk (.directory path) names
      else if name = ".." then
        match parent? path with
        | none => .error .noEntry
        | some path => f.walk (.directory path) names
      else if maxNameLength < name.utf8ByteSize then .error .nameTooLong
      else
        match f.node? (path ++ [name]) with
        | none => .error .noEntry
        | some node => f.walk node names
  | _ :: _, _ => .error .notDirectory

/-- What a path leads to. -/
def find (f : Files) (path : String) : Except SystemError FileNode :=
  if path.toList.contains '\x00' then .error .zeroInPath
  else if pathLimit ≤ path.utf8ByteSize then .error .nameTooLong
  else if path.isEmpty then .error .noEntry
  else f.walk (.directory (start path)) (Text.split '/' path)

/-- Open a file for reading. A directory can be opened, but not read. -/
def openFile (f : Files) (path : String) : Except SystemError FileNode :=
  match f.find path with
  | .ok .socket => .error .noDevice
  | .ok (.locked error) => .error error
  | found => found

/-- Open and read a file. -/
def read (f : Files) (path : String) : Except SystemError Bytes :=
  match f.openFile path with
  | .error e => .error e
  | .ok (.regular bytes) => .ok bytes
  | .ok (.faulty error) => .error error
  | .ok _ => .error .isDirectory

/-- The first name behind a path, for the entries below it. -/
def nameBelow (path : List String) (entry : List String) : Option String :=
  if path.isPrefixOf entry then (entry.drop path.length).head? else none

/-- The names in a directory, each one once. -/
def list (f : Files) (path : String) : Except SystemError (List String) :=
  match f.find path with
  | .error e => .error e
  | .ok (.directory names) =>
      .ok (f.entries.filterMap fun entry => nameBelow names entry.1).eraseDups
  | .ok _ => .error .notDirectory

/-- The path of a name in a directory. -/
def join (directory name : String) : String :=
  if directory.endsWith "/" then directory ++ name else directory ++ "/" ++ name

/-- The part of a name behind its last dot; none if there is no dot behind the first character. -/
def extension? (name : String) : Option String :=
  let behind := name.toList.reverse.takeWhile (· != '.')
  if behind.length + 1 < name.length then some (String.ofList behind.reverse) else none

end Files

end SessionKeeper
