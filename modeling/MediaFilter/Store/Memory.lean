import MediaFilter.Error

/-!
Settings kept in memory: a text for each key.
-/

namespace MediaFilter

structure MemoryStore where
  texts : List (String × String)
  deriving DecidableEq, Repr

namespace MemoryStore

def empty : MemoryStore := ⟨[]⟩

def load (store : MemoryStore) (key : String) : Option String :=
  (store.texts.find? fun entry => entry.1 == key).map Prod.snd

def save (key text : String) (store : MemoryStore) : MemoryStore :=
  ⟨(key, text) :: store.texts.filter fun entry => entry.1 != key⟩

def size (store : MemoryStore) : Nat := store.texts.length

def isEmpty (store : MemoryStore) : Bool := store.texts.isEmpty

@[simp] theorem load_save_self (store : MemoryStore) (key text : String) :
    (store.save key text).load key = some text := by
  simp [load, save]

theorem load_save_of_ne (store : MemoryStore) {key other : String} (text : String)
    (h : other ≠ key) : (store.save key text).load other = store.load other := by
  have not_eq : (key == other) = false := by simp [Ne.symm h]
  simp only [load, save, List.find?_cons, not_eq]
  rw [List.find?_filter]
  congr 2
  funext entry
  by_cases eq : entry.1 = other <;> simp [eq, h]

end MemoryStore

structure FaultyStore where
  memory : MemoryStore
  loadFault : Option String
  saveFault : Option String
  deriving DecidableEq, Repr

namespace FaultyStore

def sound (memory : MemoryStore) : FaultyStore := ⟨memory, none, none⟩

def load (store : FaultyStore) (key : String) : Except Error (Option String) :=
  match store.loadFault with
  | some detail => .error (.storage detail)
  | none => .ok (store.memory.load key)

/-- A save that fails leaves the store as it was. -/
def save (key text : String) (store : FaultyStore) : Except Error FaultyStore :=
  match store.saveFault with
  | some detail => .error (.storage detail)
  | none => .ok { store with memory := store.memory.save key text }

end FaultyStore

end MediaFilter
