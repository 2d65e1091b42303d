import ApiPages.Files.Store
import ApiPages.Proofs.Association
import ApiPages.Proofs.Files.Path
import ApiPages.Proofs.Outcome

namespace ApiPages

namespace FileContent

@[simp] theorem append_empty (content : FileContent) : content.append "" = content := by
  cases content <;> simp [append, String.toUTF8]

@[simp] theorem append_append (content : FileContent) (s t : String) :
    (content.append s).append t = content.append (s ++ t) := by
  cases content <;> simp [append, String.toUTF8, String.append_assoc]

end FileContent

namespace Store

variable {store other third : Store} {path : Path} {place : List String}

theorem setEntry_eq_assign (place : List String) (entry : Entry)
    (entries : List (List String × Entry)) :
    put.setEntry place entry entries = Association.assign place entry entries := by
  induction entries with
  | nil => rfl
  | cons first rest ih => rw [put.setEntry, Association.assign, ih]

-- Nothing can be put in the place of the root, which is no place for an entry.
theorem entry?_put {entry : Entry} (hplace : place ≠ []) (sought : List String) :
    Store.entry? (store.put place entry) sought =
      if sought = place then some entry else store.entry? sought := by
  cases sought with
  | nil => simp [ entry?, hplace.symm]
  | cons name rest => simp [ entry?, put, setEntry_eq_assign, Association.lookup_assign]

theorem descend_eq_ok {name : String} {next : List String} :
    store.descend path place name = .ok next ↔
      store.entry? place = some .directory ∧ (name = ".." ∨ name.utf8ByteSize ≤ nameLimit) ∧
        next = Path.follow place name := by
  unfold descend Path.follow
  cases hentry : store.entry? place with
  | none => simp
  | some entry =>
      cases entry with
      | file content => simp
      | locked content => simp
      | directory =>
          by_cases hdots : name = ".."
          · simp [hdots, eq_comm]
          · by_cases hsize : name.utf8ByteSize ≤ nameLimit
            · simp [hdots, hsize, Nat.not_lt.mpr hsize, eq_comm]
            · simp [hdots, hsize, Nat.lt_of_not_le hsize]

-- Every directory of a store is one of the other.
def KeepsDirectories (store other : Store) : Prop :=
  store.current = other.current ∧
    ∀ place, store.entry? place = some .directory → other.entry? place = some .directory

theorem foldlM_descend {names : List String} (h : store.KeepsDirectories other)
    {start : List String} (hplace : names.foldlM (store.descend path) start = .ok place) :
    names.foldlM (other.descend path) start = .ok place ∧
      place = names.foldl Path.follow start := by
  induction names generalizing start with
  | nil =>
      cases hplace
      exact ⟨rfl, rfl⟩
  | cons name rest ih =>
      rw [List.foldlM_cons] at hplace ⊢
      cases hnext : store.descend path start name with
      | error error =>
          rw [hnext] at hplace
          cases hplace
      | ok next =>
          rw [hnext] at hplace
          obtain ⟨hentry, hname, rfl⟩ := descend_eq_ok.mp hnext
          have hother : other.descend path start name = .ok _ :=
            descend_eq_ok.mpr ⟨h.2 start hentry, hname, rfl⟩
          rw [hother]
          exact ih hplace

-- A path that leads somewhere leads to its place.
theorem locate_keeps (h : store.KeepsDirectories other) (hplace : store.locate path = .ok place) :
    other.locate path = .ok place ∧ place = path.place store.current := by
  unfold locate at hplace ⊢
  split at hplace
  · cases hplace
  · rename_i husable
    rw [if_neg husable, ← h.1]
    exact foldlM_descend h hplace

theorem KeepsDirectories.refl (store : Store) : store.KeepsDirectories store :=
  ⟨rfl, fun _ h => h⟩

theorem place_of_locate (h : store.locate path = .ok place) : place = path.place store.current :=
  (locate_keeps (.refl store) h).2

-- What the file at a path holds.
def Holds (store : Store) (path : Path) (content : FileContent) : Prop :=
  ∃ place, store.locate path = .ok place ∧ store.entry? place = some (.file content)

theorem Holds.entry_eq {content : FileContent} (h : store.Holds path content) :
    store.entry? (path.place store.current) = some (.file content) := by
  obtain ⟨place, hlocate, hfile⟩ := h
  rwa [← place_of_locate hlocate]

-- The files of two stores are the same.
def SameFiles (store other : Store) : Prop :=
  ∀ place entry, entry ≠ .directory →
    (store.entry? place = some entry ↔ other.entry? place = some entry)

-- All that is new in the other store are directories.
structure Grows (store other : Store) : Prop where
  directories : store.KeepsDirectories other
  files : store.SameFiles other

theorem Grows.refl (store : Store) : store.Grows store := ⟨.refl store, fun _ _ _ => Iff.rfl⟩

theorem Grows.trans (h : store.Grows other) (hthird : other.Grows third) : store.Grows third where
  directories := ⟨h.directories.1.trans hthird.directories.1, fun place hplace =>
    hthird.directories.2 place (h.directories.2 place hplace)⟩
  files place entry hentry := (h.files place entry hentry).trans (hthird.files place entry hentry)

theorem Grows.holds (h : store.Grows other) {content : FileContent}
    (hholds : store.Holds path content) : other.Holds path content := by
  obtain ⟨place, hplace, hfile⟩ := hholds
  exact ⟨place, (locate_keeps h.directories hplace).1,
    (h.files place (.file content) nofun).mp hfile⟩

theorem makeDirectory_grows (h : store.makeDirectory path = .ok other) : store.Grows other := by
  simp only [makeDirectory, Outcome.bind_eq_ok_iff] at h
  obtain ⟨place, -, h⟩ := h
  split at h <;> cases h
  rename_i hnone
  have hroot : place ≠ [] := by
    rintro rfl
    cases hnone
  refine ⟨⟨rfl, fun sought hsought => ?_⟩, fun sought entry hentry => ?_⟩
  · rw [entry?_put hroot]
    split
    · rfl
    · exact hsought
  · rw [entry?_put hroot]
    split
    · rename_i heq
      simp [heq, hnone, hentry.symm]
    · exact Iff.rfl

-- A file that may be changed, with what it holds; a missing one has the empty text.
def IsWritable (entry : Option Entry) (content : FileContent) : Prop :=
  entry = some (.file content) ∨ entry = none ∧ content = .text ""

theorem IsWritable.ne_directory {entry : Option Entry} {content : FileContent}
    (h : IsWritable entry content) :
    entry ≠ some .directory := by
  rintro rfl
  simp [IsWritable] at h

-- What a change of a file comes to: one file, new or not, and nothing else.
theorem changeFile_eq_ok {change : FileContent → FileContent}
    (h : store.changeFile path change = .ok other) :
    ∃ place old, store.locate path = .ok place ∧ place ≠ [] ∧
      IsWritable (store.entry? place) old ∧ other = store.put place (.file (change old)) := by
  simp only [changeFile, Outcome.bind_eq_ok_iff] at h
  obtain ⟨place, hlocate, h⟩ := h
  have hroot : store.entry? place ≠ some .directory → place ≠ [] := by
    rintro hplace rfl
    exact hplace rfl
  split at h <;> cases h
  case h_3 old hentry =>
    have hold : IsWritable (store.entry? place) old := .inl hentry
    exact ⟨place, old, hlocate, hroot hold.ne_directory, hold, rfl⟩
  case h_4 hentry =>
    have hold : IsWritable (store.entry? place) "" := .inr ⟨hentry, rfl⟩
    exact ⟨place, "", hlocate, hroot hold.ne_directory, hold, rfl⟩

theorem keepsDirectories_put {entry : Entry} (hroot : place ≠ [])
    (hplace : store.entry? place ≠ some .directory) :
    store.KeepsDirectories (store.put place entry) := by
  refine ⟨rfl, fun sought hsought => ?_⟩
  have hne : sought ≠ place := by
    rintro rfl
    exact hplace hsought
  rw [entry?_put hroot, if_neg hne]
  exact hsought

theorem holds_of_change {change : FileContent → FileContent}
    (h : store.changeFile path change = .ok other) : ∃ old, other.Holds path (change old) := by
  obtain ⟨place, old, hlocate, hroot, hold, rfl⟩ := changeFile_eq_ok h
  have hkeeps : store.KeepsDirectories (store.put place (.file (change old))) :=
    keepsDirectories_put hroot hold.ne_directory
  exact ⟨old, place, (locate_keeps hkeeps hlocate).1, by rw [entry?_put hroot, if_pos rfl]⟩

-- A file that is there can be changed.
theorem Holds.exists_change {content : FileContent} (h : store.Holds path content)
    (change : FileContent → FileContent) : ∃ other, store.changeFile path change = .ok other := by
  obtain ⟨place, hlocate, hfile⟩ := h
  exact ⟨store.put place (.file (change content)), by
    simp [changeFile, hlocate, hfile, bind, Except.bind]⟩

section Writing

variable {content : FileContent} (h : store.changeFile path (fun _ => content) = .ok other)
include h

theorem holds_of_write : other.Holds path content := (holds_of_change h).elim fun _ hholds => hholds

theorem write_holds_other {old : FileContent} {untouched : Path}
    (hplace : path.place store.current ≠ untouched.place store.current)
    (hholds : store.Holds untouched old) : other.Holds untouched old := by
  obtain ⟨place, _, hlocate, hroot, hwritable, rfl⟩ := changeFile_eq_ok h
  obtain ⟨kept, hkept, hfile⟩ := hholds
  have hne : kept ≠ place := by
    rintro rfl
    exact hplace ((place_of_locate hlocate).symm.trans (place_of_locate hkept))
  refine ⟨kept, (locate_keeps (keepsDirectories_put hroot hwritable.ne_directory) hkept).1, ?_⟩
  rw [entry?_put hroot, if_neg hne]
  exact hfile

end Writing

end Store

end ApiPages
