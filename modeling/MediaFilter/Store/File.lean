import MediaFilter.Error
import MediaFilter.Store.FileSystem
import MediaFilter.Text.Quoted

/-!
Settings kept in files, one below the store's directory for each key.  A text is first written
beside its file and then takes its place, so that nobody reads half of it.  A key is made of
letters, digits, dashes and underscores only, so it names nothing outside the directory and never
the file that another key is being written to.
-/

namespace MediaFilter

structure FileStore where
  directory : String
  deriving DecidableEq, Repr

/-- A step of saving that fails although nothing stands in its way.  The file that was to be
written may then hold anything, or be as it was. -/
inductive SaveFault where
  | creating
  | writing (left : Option FileContent)
  | renaming
  deriving DecidableEq, Repr

namespace FileStore

def isKeyChar (c : Char) : Bool := c.isAlphanum || c = '-' || c = '_'

def isKey (key : String) : Bool := !key.isEmpty && key.toList.all isKeyChar

def fileName (key : String) : String := key ++ ".json"

def draftName (key : String) : String := key ++ ".json.tmp"

def shownPath (store : FileStore) (name : String) : String := joinPath store.directory name

def path (store : FileStore) (name : String) : FilePath :=
  ⟨pathNames store.directory ++ [name], (store.shownPath name).utf8ByteSize⟩

def badKey (key : String) : Error := .invalidInput ("invalid storage key: " ++ Text.quoted key)

def failed (action path : String) (fault : FileFault) : Error :=
  .storage (action ++ " " ++ path ++ ": " ++ fault.message)

def load (store : FileStore) (key : String) (system : FileSystem) :
    Except Error (Option String) :=
  if isKey key then
    match system.read (store.path (fileName key)) with
    | .ok text => .ok (some text)
    | .error .notFound => .ok none
    | .error fault => .error (failed "read" (store.shownPath (fileName key)) fault)
  else .error (badKey key)

def create (store : FileStore) (fault : Option SaveFault) (system : FileSystem) :
    Except FileFault Place × FileSystem :=
  if fault = some .creating then (.error .device, system)
  else system.makeDirectories (.ofText store.directory)

/-- Writes the draft; the file system afterwards stands beside the outcome, since a write that
fails may leave something behind. -/
def writeDraft (store : FileStore) (key text : String) (fault : Option SaveFault)
    (system : FileSystem) : Except FileFault Unit × FileSystem :=
  let draft := store.path (draftName key)
  match fault with
  | some (.writing none) => (.error .device, system)
  | some (.writing (some left)) =>
    match system.write draft left with
    | .ok system => (.error .device, system)
    | .error fault => (.error fault, system)
  | _ =>
    match system.write draft (.text text) with
    | .ok system => (.ok (), system)
    | .error fault => (.error fault, system)

def publish (store : FileStore) (key : String) (fault : Option SaveFault)
    (system : FileSystem) : Except FileFault FileSystem :=
  if fault = some .renaming then .error .device
  else system.rename (store.path (draftName key)) (store.path (fileName key))

def saveWith (store : FileStore) (fault : Option SaveFault) (key text : String)
    (system : FileSystem) : Except Error Unit × FileSystem :=
  if isKey key then
    match store.create fault system with
    | (.error fault, system) => (.error (failed "create" store.directory fault), system)
    | (.ok _, system) =>
      match store.writeDraft key text fault system with
      | (.error fault, system) =>
        (.error (failed "write" (store.shownPath (draftName key)) fault), system)
      | (.ok (), system) =>
        match store.publish key fault system with
        | .error fault =>
          (.error (failed "rename" (store.shownPath (fileName key)) fault), system)
        | .ok system => (.ok (), system)
  else (.error (badKey key), system)

def save (store : FileStore) (key text : String) (system : FileSystem) :
    Except Error Unit × FileSystem :=
  store.saveWith none key text system

end FileStore

end MediaFilter
