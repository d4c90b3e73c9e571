/-!
Files, as far as they matter to whoever writes one. How they are kept and what a path leads to is up to
the system; the simplest of systems is a folder of names.
-/
namespace Courier

structure FileError where
  message : String
  deriving DecidableEq, Repr

/-- A system that keeps files. Whoever writes a file gives all that it is to hold; a write that fails
may have changed that file nonetheless. -/
class FileSystem (Files : Type) where
  read? : Files → (path : String) → Option (List UInt8)
  /-- Whether two paths lead to one file. -/
  Same : Files → (path other : String) → Prop
  write : Files → (path : String) → List UInt8 → Except FileError Unit × Files
  written {files : Files} {path : String} {bytes : List UInt8} :
    (write files path bytes).1 = .ok () → read? (write files path bytes).2 path = some bytes
  elsewhere {files : Files} {path other : String} {bytes : List UInt8} :
    ¬Same files path other → read? (write files path bytes).2 other = read? files other

structure Folder where
  entries : List (String × List UInt8) := []
  deriving DecidableEq, Repr

namespace Folder

def read? (folder : Folder) (path : String) : Option (List UInt8) := folder.entries.lookup path

def put (folder : Folder) (name : String) (bytes : List UInt8) : Folder where
  entries := (name, bytes) :: folder.entries.filter fun entry => entry.1 != name

def refusal? (path : String) : Option FileError :=
  if path = "." ∨ path = ".." then some ⟨"Is a directory (os error 21)"⟩
  else if path = "" ∨ '/' ∈ path.toList then some ⟨"No such file or directory (os error 2)"⟩
  else none

def write (folder : Folder) (path : String) (bytes : List UInt8) : Except FileError Unit × Folder :=
  match refusal? path with
  | some error => (.error error, folder)
  | none => (.ok (), folder.put path bytes)

theorem lookup_filter (entries : List (String × List UInt8)) {name other : String}
    (apart : other ≠ name) :
    (entries.filter fun entry => entry.1 != name).lookup other = entries.lookup other := by
  induction entries with
  | nil => rfl
  | cons entry rest ih =>
    obtain ⟨first, held⟩ := entry
    rw [List.filter_cons, List.lookup_cons]
    split
    next => rw [List.lookup_cons, ih]
    next own =>
      have same : first = name := by simpa using own
      have skipped : (other == first) = false := by simpa [same] using apart
      rw [ih, skipped]

theorem read?_put (folder : Folder) (name : String) (bytes : List UInt8) (other : String) :
    (folder.put name bytes).read? other =
      if other = name then some bytes else folder.read? other := by
  unfold read? put
  split
  next same => simp [same]
  next apart =>
    have skipped : (other == name) = false := by simpa using apart
    rw [List.lookup_cons, skipped, ← lookup_filter folder.entries apart]

instance : FileSystem Folder where
  read? := read?
  Same _ path other := path = other
  write := write
  written := by
    intro folder path bytes succeeds
    unfold write at succeeds ⊢
    split at succeeds
    · cases succeeds
    next => simp only [read?_put, ↓reduceIte]
  elsewhere := by
    intro folder path other bytes apart
    unfold write
    split
    · rfl
    · rw [read?_put, if_neg fun same => apart same.symm]

end Folder
end Courier
