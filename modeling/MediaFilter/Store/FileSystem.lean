import MediaFilter.Store.Path

/-!
A file system: a tree of directories with files for leaves.  A place is given by the names from
the root on; a path may also go up by two points and stay where it is by one, so that many paths
lead to a place.  The operations fail as those of the system do.
-/

namespace MediaFilter

inductive FileContent where
  | text (text : String)
  /-- Bytes that are not the encoding of any text. -/
  | bytes (bytes : List UInt8)
  deriving DecidableEq, Repr

def FileContent.ofBytes (bytes : List UInt8) : FileContent :=
  match String.fromUTF8? ⟨bytes.toArray⟩ with
  | some decoded => .text decoded
  | none => .bytes bytes

inductive FileNode where
  | file (content : FileContent)
  | directory (entries : List (String × FileNode))

inductive FileFault where
  | notFound
  | exists
  | notDirectory
  | isDirectory
  | notText
  | tooLong
  | strayNul
  | device
  deriving DecidableEq, Repr

def FileFault.message : FileFault → String
  | .notFound => "No such file or directory (os error 2)"
  | .exists => "File exists (os error 17)"
  | .notDirectory => "Not a directory (os error 20)"
  | .isDirectory => "Is a directory (os error 21)"
  | .notText => "stream did not contain valid UTF-8"
  | .tooLong => "File name too long (os error 36)"
  | .strayNul => "file name contained an unexpected NUL byte"
  | .device => "Input/output error (os error 5)"

/-- The names that lead from the root to a node, none of them points. -/
abbrev Place := List String

/-- Where a name leads from a directory. -/
def Place.step (place : Place) (name : String) : Place :=
  if name = "." then place
  else if name = ".." then place.dropLast
  else place ++ [name]

/-- A name has at most 255 bytes. -/
def isNameTooLong (name : String) : Bool := 255 < name.utf8ByteSize

/-- What is wrong with a path whatever the file system holds; its text has less than 4096 bytes. -/
def FilePath.fault? (path : FilePath) : Option FileFault :=
  if path.names.any fun name => name.toList.contains '\x00' then some .strayNul
  else if 4096 ≤ path.size then some .tooLong
  else none

/-! The entries of a directory, each under its name. -/

abbrev FileEntries := List (String × FileNode)

namespace FileEntries

def find? (name : String) (entries : FileEntries) : Option FileNode :=
  (List.find? (fun entry => entry.1 == name) entries).map Prod.snd

def erase (name : String) (entries : FileEntries) : FileEntries :=
  entries.filter fun entry => entry.1 != name

def put (name : String) (node : FileNode) (entries : FileEntries) : FileEntries :=
  (name, node) :: entries.erase name

/-- What is at a place below these entries. -/
def node? (entries : FileEntries) : Place → Option FileNode
  | [] => some (.directory entries)
  | name :: names =>
    match entries.find? name, names with
    | some (.directory inner), names => FileEntries.node? inner names
    | some (.file content), [] => some (.file content)
    | _, _ => none

/-- Changes the entries of the directory at a place, if there is one. -/
def alter (change : FileEntries → FileEntries) (entries : FileEntries) : Place → FileEntries
  | [] => change entries
  | name :: names =>
    entries.map fun entry =>
      match entry.2 with
      | .directory inner =>
        if entry.1 = name then (name, .directory (FileEntries.alter change inner names)) else entry
      | .file _ => entry

end FileEntries

/-- The root is a directory, given by its entries. -/
structure FileSystem where
  entries : FileEntries

namespace FileSystem

def empty : FileSystem := ⟨[]⟩

def node? (system : FileSystem) (place : Place) : Option FileNode := system.entries.node? place

def isDirectory (system : FileSystem) (place : Place) : Bool :=
  match system.node? place with
  | some (.directory _) => true
  | _ => false

/-- Changes what is at a place by changing the entries of the directory that holds it. -/
def alter (change : String → FileEntries → FileEntries) (place : Place) (system : FileSystem) :
    FileSystem :=
  match place.getLast? with
  | some name => ⟨system.entries.alter (change name) place.dropLast⟩
  | none => system

def erase (place : Place) (system : FileSystem) : FileSystem := system.alter .erase place

def put (place : Place) (node : FileNode) (system : FileSystem) : FileSystem :=
  system.alter (fun name => .put name node) place

/-- Goes on from a directory to the directory that a name leads to. -/
def enter (system : FileSystem) (place : Place) (name : String) : Except FileFault Place :=
  if isNameTooLong name then .error .tooLong
  else
    match system.node? (place.step name) with
    | some (.directory _) => .ok (place.step name)
    | some (.file _) => .error .notDirectory
    | none => .error .notFound

def resolve (system : FileSystem) (names : List String) : Except FileFault Place :=
  names.foldlM system.enter []

/-- The place that a path names, whether or not something is there, in a directory that is. -/
def locate (system : FileSystem) (path : FilePath) : Except FileFault Place :=
  match path.fault?, system.resolve path.names.dropLast, path.names.getLast? with
  | some fault, _, _ => .error fault
  | none, .error fault, _ => .error fault
  | none, .ok place, none => .ok place
  | none, .ok place, some name =>
    if isNameTooLong name then .error .tooLong else .ok (place.step name)

def read (system : FileSystem) (path : FilePath) : Except FileFault String :=
  match system.locate path with
  | .error fault => .error fault
  | .ok place =>
    match system.node? place with
    | some (.file (.text text)) => .ok text
    | some (.file (.bytes _)) => .error .notText
    | some (.directory _) => .error .isDirectory
    | none => .error .notFound

/-- A directory that is there already is as good as a new one. -/
def ensureDirectory (place : Place) (name : String) (system : FileSystem) :
    Except FileFault Place × FileSystem :=
  if isNameTooLong name then (.error .tooLong, system)
  else
    match system.node? (place.step name) with
    | some (.directory _) => (.ok (place.step name), system)
    | some (.file _) => (.error .exists, system)
    | none => (.ok (place.step name), system.put (place.step name) (.directory []))

/-- The directory that names lead to, with all above it that are missing; the names come last
first.  Those that were made stay when one below them cannot be. -/
def makeDirectoriesTo : (reversed : List String) → FileSystem →
    Except FileFault Place × FileSystem
  | [], system => (.ok [], system)
  | name :: above, system =>
    match system.resolve above.reverse with
    | .ok place => system.ensureDirectory place name
    | .error .notFound =>
      match makeDirectoriesTo above system with
      | (.ok place, system) => system.ensureDirectory place name
      | failure => failure
    | .error fault => (.error fault, system)

/-- A point at the end of a path makes no directory: what is made then is only what lies above the
last name, and that name has to lead somewhere. -/
def makeDirectories (path : FilePath) (system : FileSystem) :
    Except FileFault Place × FileSystem :=
  let names := path.names.filter fun name => name != "."
  match path.fault? with
  | some fault => (.error fault, system)
  | none =>
    if path.names.getLast? = some "." then
      match system.resolve names with
      | .error .notFound =>
        match makeDirectoriesTo names.reverse.tail system with
        | (.ok _, system) => (system.resolve names, system)
        | failure => failure
      | outcome => (outcome, system)
    else makeDirectoriesTo names.reverse system

def write (path : FilePath) (content : FileContent) (system : FileSystem) :
    Except FileFault FileSystem :=
  match system.locate path with
  | .error fault => .error fault
  | .ok place =>
    if system.isDirectory place then .error .isDirectory
    else .ok (system.put place (.file content))

/-- A file takes another place, and with it the place of the file that was there. -/
def rename (source target : FilePath) (system : FileSystem) : Except FileFault FileSystem :=
  match system.locate source, system.locate target with
  | .error fault, _ | .ok _, .error fault => .error fault
  | .ok source, .ok target =>
    match system.node? source with
    | some (.file content) =>
      if system.isDirectory target then .error .isDirectory
      else .ok ((system.erase source).put target (.file content))
    | some (.directory _) => .error .isDirectory
    | none => .error .notFound

end FileSystem

mutual

/-- The path of a node and the paths of what lies below it; that of a directory ends in a slash. -/
def FileNode.paths (path : String) : FileNode → List String
  | .file _ => [path]
  | .directory entries => (path ++ "/") :: FileEntries.paths (path ++ "/") entries

def FileEntries.paths (above : String) : List (String × FileNode) → List String
  | [] => []
  | entry :: entries => entry.2.paths (above ++ entry.1) ++ FileEntries.paths above entries

end

/-- What lies below a directory, in order. -/
def FileSystem.listing (system : FileSystem) (directory : Place) : List String :=
  match system.node? directory with
  | some (.directory entries) =>
    (FileEntries.paths "" entries).mergeSort fun first second => decide (first ≤ second)
  | _ => []

end MediaFilter
