import MediaFilter.Backend.TagCatalog
import MediaFilter.Environment
import MediaFilter.Store.Path
import MediaFilter.Text.Numeral

/-!
The settings of a session, from its environment or set by hand.
-/

namespace MediaFilter

structure SessionConfig where
  /-- The pause in milliseconds after which typed text counts. -/
  debounce : Nat
  groupTags : Bool
  stateDirectory : String
  /-- How many commands may wait for the session. -/
  capacity : Nat
  deriving DecidableEq, Repr

namespace SessionConfig

def defaultDebounce : Nat := 500

def defaultCapacity : Nat := 64

def directoryName : String := "anitools"

def debounceVariable : String := "ANITOOLS_FILTER_DEBOUNCE_MS"

def groupTagsVariable : String := "ANITOOLS_GROUP_TAGS"

def stateDirectoryVariable : String := "ANITOOLS_STATE_DIR"

/-- Below the directory for states, or else the home directory, or else that for temporary
files. -/
def defaultDirectory (environment : Environment) : String :=
  match environment.filled? "XDG_STATE_HOME", environment.filled? "HOME" with
  | some states, _ => joinPath states directoryName
  | none, some home => joinPath (joinPath (joinPath home ".local") "state") directoryName
  | none, none => joinPath ((environment.get? "TMPDIR").getD "/tmp") directoryName

def initial (environment : Environment) : SessionConfig :=
  { debounce := defaultDebounce
    groupTags := false
    stateDirectory := defaultDirectory environment
    capacity := defaultCapacity }

def isTrue (text : String) : Bool := text == "true" || text == "1"

def ofEnvironment (environment : Environment) : SessionConfig :=
  { debounce :=
      ((environment.get? debounceVariable).bind fun text => Text.readUInt64? text.toList).getD
        defaultDebounce
    groupTags := (environment.get? groupTagsVariable).any isTrue
    stateDirectory :=
      (environment.filled? stateDirectoryVariable).getD (defaultDirectory environment)
    capacity := defaultCapacity }

/-- At least one command may wait. -/
def withCapacity (capacity : Nat) (config : SessionConfig) : SessionConfig :=
  { config with capacity := max capacity 1 }

def grouping (config : SessionConfig) : TagGrouping := .ofFlag config.groupTags

end SessionConfig

end MediaFilter
