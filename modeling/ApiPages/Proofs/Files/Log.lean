import ApiPages.Proofs.Files.Store

namespace ApiPages.Store

variable {store other third : Store} {path : Path} {place : List String} {log : Option Path}

-- The places of a file that there may be.
def placesOf (current : List String) (file : Option Path) : List (List String) :=
  file.toList.map (Path.place current)

-- What is found at a path depends on the entry that it leads to alone.
theorem look_congr (hlocate : other.locate path = store.locate path)
    (hentry : ∀ place, store.locate path = .ok place → other.entry? place = store.entry? place) :
    other.kind? path = store.kind? path ∧ other.readText path = store.readText path := by
  unfold kind? readText
  rw [hlocate]
  cases h : store.locate path with
  | error error => exact ⟨by cases error <;> rfl, rfl⟩
  | ok place =>
      simp only [bind, Except.bind, hentry place h]
      exact ⟨trivial, trivial⟩

-- All that is not as in the store are files, where it has no directory.
structure AddsFiles (store other : Store) : Prop where
  current : other.current = store.current
  entries : ∀ place, other.entry? place = store.entry? place ∨
    store.entry? place ≠ some .directory ∧ ∃ content, other.entry? place = some (.file content)

namespace AddsFiles

variable (h : AddsFiles store other)
include h

theorem keepsDirectories : store.KeepsDirectories other := by
  refine ⟨h.current.symm, fun place hplace => ?_⟩
  rcases h.entries place with hsame | ⟨hnone, -⟩
  · rw [hsame, hplace]
  · exact absurd hplace hnone

theorem descend_cases (path : Path) (place : List String) (name : String) :
    other.descend path place name = store.descend path place name ∨
      store.descend path place name = .error (.notFound path.text) ∧
        other.descend path place name = .error (.notDirectory path.text) := by
  unfold descend
  rcases h.entries place with hsame | ⟨hstore, content, hfile⟩
  · exact .inl (by rw [hsame])
  · rw [hfile]
    rcases hentry : store.entry? place with _ | _ | _ | _
    · exact .inr ⟨rfl, rfl⟩
    · exact .inl rfl
    · exact .inl rfl
    · exact absurd hentry hstore

-- A path leads where it led. One that led nowhere for want of a directory may now meet a file.
theorem locate_cases (path : Path) :
    other.locate path = store.locate path ∨
      store.locate path = .error (.notFound path.text) ∧
        other.locate path = .error (.notDirectory path.text) := by
  unfold locate
  split
  · exact .inl rfl
  · rw [h.current]
    generalize (if path.isAbsolute then [] else store.current) = start
    induction path.names generalizing start with
    | nil => exact .inl rfl
    | cons name rest ih =>
        simp only [List.foldlM_cons]
        rcases h.descend_cases path start name with hsame | ⟨hstore, hother⟩
        · rw [hsame]
          cases store.descend path start name with
          | error error => exact .inl rfl
          | ok next => exact ih next
        · rw [hstore, hother]
          exact .inr ⟨rfl, rfl⟩

end AddsFiles

-- The files of two stores are the same, but for those at some places.
def SameFilesBesides (places : List (List String)) (store other : Store) : Prop :=
  ∀ place ∉ places, ∀ entry, entry ≠ .directory →
    (store.entry? place = some entry ↔ other.entry? place = some entry)

section Besides

variable {places more : List (List String)}

theorem SameFiles.besides (h : store.SameFiles other) (places : List (List String)) :
    store.SameFilesBesides places other := fun place _ => h place

theorem SameFilesBesides.trans (h : store.SameFilesBesides places other)
    (hthird : other.SameFilesBesides places third) : store.SameFilesBesides places third :=
  fun place hplace entry hentry =>
    (h place hplace entry hentry).trans (hthird place hplace entry hentry)

theorem SameFilesBesides.mono (h : store.SameFilesBesides places other) (hmore : places ⊆ more) :
    store.SameFilesBesides more other :=
  fun place hplace => h place fun hmem => hplace (hmore hmem)

theorem sameFilesBesides_write {content : FileContent}
    (h : store.changeFile path (fun _ => content) = .ok other) :
    store.SameFilesBesides [path.place store.current] other := by
  obtain ⟨place, -, hlocate, hroot, -, rfl⟩ := changeFile_eq_ok h
  obtain rfl := place_of_locate hlocate
  intro sought hsought entry _
  rw [entry?_put hroot, if_neg (by simpa using hsought)]

end Besides

theorem current_changeFile {change : FileContent → FileContent}
    (h : store.changeFile path change = .ok other) : other.current = store.current := by
  obtain ⟨place, _, -, -, -, rfl⟩ := changeFile_eq_ok h
  rfl

-- A file that has text at its end or is new.
def Extends (entry other : Option Entry) : Prop :=
  ∃ content more, IsWritable entry content ∧ other = some (.file (content.append more))

theorem Extends.trans {entry other third : Option Entry} (h : Extends entry other)
    (hthird : Extends other third) : Extends entry third := by
  obtain ⟨content, more, hwritable, rfl⟩ := h
  obtain ⟨_, last, hfile | ⟨hnone, -⟩, rfl⟩ := hthird
  · cases hfile
    exact ⟨content, more ++ last, hwritable, by rw [FileContent.append_append]⟩
  · cases hnone

-- All that is new in the other store is a log and text at its end.
structure LogsTo (log : Option Path) (store other : Store) : Prop where
  current : other.current = store.current
  entries : ∀ place, other.entry? place = store.entry? place ∨
    place ∈ placesOf store.current log ∧ Extends (store.entry? place) (other.entry? place)

namespace LogsTo

theorem refl (store : Store) : LogsTo log store store := ⟨rfl, fun _ => .inl rfl⟩

theorem trans (h : LogsTo log store other) (hthird : LogsTo log other third) :
    LogsTo log store third := by
  refine ⟨hthird.current.trans h.current, fun place => ?_⟩
  have hlast := hthird.entries place
  rw [h.current] at hlast
  rcases hlast with hsame | ⟨hlog, hlast⟩
  · rw [hsame]
    exact h.entries place
  · rcases h.entries place with hsame | ⟨-, hfirst⟩
    · exact .inr ⟨hlog, hsame ▸ hlast⟩
    · exact .inr ⟨hlog, hfirst.trans hlast⟩

instance : IsPreorder Store (LogsTo log) where
  refl := refl
  trans _ _ _ := trans

theorem of_change {change : FileContent → FileContent}
    (h : store.changeFile path change = .ok other)
    (hchange : ∀ content, ∃ more, change content = content.append more)
    (hlog : path.place store.current ∈ placesOf store.current log) : LogsTo log store other := by
  obtain ⟨place, old, hlocate, hroot, hwritable, rfl⟩ := changeFile_eq_ok h
  obtain rfl := place_of_locate hlocate
  refine ⟨rfl, fun sought => ?_⟩
  rw [entry?_put hroot]
  split
  · rename_i heq
    subst heq
    obtain ⟨more, hmore⟩ := hchange old
    exact .inr ⟨hlog, old, more, hwritable, by rw [hmore]⟩
  · exact .inl rfl

theorem others (h : LogsTo log store other) (hplace : place ∉ placesOf store.current log) :
    other.entry? place = store.entry? place :=
  (h.entries place).resolve_right fun hlogged => hplace hlogged.1

theorem files (h : LogsTo log store other) {content : FileContent}
    (hfile : store.entry? place = some (.file content)) :
    ∃ more, other.entry? place = some (.file (content.append more)) := by
  rcases h.entries place with hsame | ⟨-, old, more, hold | ⟨hnone, -⟩, hother⟩
  · exact ⟨"", by rw [hsame, hfile, FileContent.append_empty]⟩
  · rw [hfile] at hold
    cases hold
    exact ⟨more, hother⟩
  · rw [hfile] at hnone
    cases hnone

theorem addsFiles (h : LogsTo log store other) : store.AddsFiles other := by
  refine ⟨h.current, fun place => (h.entries place).imp_right ?_⟩
  rintro ⟨-, content, more, hwritable, hother⟩
  exact ⟨hwritable.ne_directory, content.append more, hother⟩

theorem sameFilesBesides (h : LogsTo log store other) :
    store.SameFilesBesides (placesOf store.current log) other :=
  fun place hplace entry _ => by rw [h.others hplace]

-- What is not the log is found as before, or led nowhere and leads nowhere.
theorem look_cases (h : LogsTo log store other)
    (hplace : path.place store.current ∉ placesOf store.current log) :
    (other.kind? path = store.kind? path ∧ other.readText path = store.readText path) ∨
      store.kind? path = .ok none ∧ other.kind? path = .ok none := by
  rcases h.addsFiles.locate_cases path with hsame | ⟨hstore, hother⟩
  · refine .inl (look_congr hsame fun place hlocate => h.others ?_)
    rwa [place_of_locate hlocate]
  · exact .inr ⟨by simp [kind?, hstore], by simp [kind?, hother]⟩

-- A file that is written between records: it holds its text, and what was recorded since if it is the
-- log.
theorem write_between {text : String} {between grown changed after : Store}
    (hbefore : LogsTo log store between) (hgrows : between.Grows grown)
    (hwrite : grown.changeFile path (fun _ => .text text) = .ok changed)
    (hafter : LogsTo log changed after) :
    store.SameFilesBesides (path.place store.current :: placesOf store.current log) after ∧
      ∃ more, after.Holds path (.text (text ++ more)) ∧
        (path.place store.current ∉ placesOf store.current log → more = "") := by
  have hgrown : grown.current = store.current := hgrows.directories.1.symm.trans hbefore.current
  have hchanged : changed.current = store.current := (current_changeFile hwrite).trans hgrown
  constructor
  · have hwritten := sameFilesBesides_write hwrite
    have hlogged := hafter.sameFilesBesides
    rw [hgrown] at hwritten
    rw [hchanged] at hlogged
    refine ((hbefore.sameFilesBesides.mono ?_).trans (hgrows.files.besides _)).trans
      ((hwritten.mono ?_).trans (hlogged.mono ?_)) <;> simp
  · obtain ⟨place, hlocate, hfile⟩ := holds_of_write hwrite
    have hplace : place = path.place store.current := hchanged ▸ place_of_locate hlocate
    have hafterward := (locate_keeps hafter.addsFiles.keepsDirectories hlocate).1
    by_cases hlog : place ∈ placesOf store.current log
    · obtain ⟨more, hmore⟩ := hafter.files hfile
      exact ⟨more, ⟨place, hafterward, hmore⟩, fun hnot => absurd (hplace ▸ hlog) hnot⟩
    · have hsame := hafter.others (hchanged ▸ hlog)
      refine ⟨"", ⟨place, hafterward, ?_⟩, fun _ => rfl⟩
      rw [hsame, hfile, String.append_empty]

end LogsTo

-- All that is new in the other store are files at some places, where they were missing, and texts at
-- the ends of these files.
structure AddsTexts (places : Set (List String)) (added : List String → String)
    (store other : Store) : Prop where
  current : other.current = store.current
  texts : ∀ place ∈ places, ∃ old, IsWritable (store.entry? place) old ∧
    other.entry? place = some (.file (old.append (added place)))
  others : ∀ place ∉ places, other.entry? place = store.entry? place ∧ added place = ""

namespace AddsTexts

variable {places more : Set (List String)} {added addedMore : List String → String}

-- Nothing is added to files that are there.
theorem nothing (h : ∀ place ∈ places, ∃ content, store.entry? place = some (.file content)) :
    AddsTexts places (fun _ => "") store store where
  current := rfl
  texts place hplace := by
    obtain ⟨content, hcontent⟩ := h place hplace
    exact ⟨content, .inl hcontent, by rw [hcontent, FileContent.append_empty]⟩
  others _ _ := ⟨rfl, rfl⟩

theorem trans (h : AddsTexts places added store other)
    (hthird : AddsTexts more addedMore other third) :
    AddsTexts (places ∪ more) (fun place => added place ++ addedMore place) store third where
  current := hthird.current.trans h.current
  texts place hplace := by
    by_cases hfirst : place ∈ places
    · obtain ⟨old, hold, hentry⟩ := h.texts place hfirst
      refine ⟨old, hold, ?_⟩
      by_cases hsecond : place ∈ more
      · obtain ⟨content, hwritable, hthird⟩ := hthird.texts place hsecond
        rw [hentry] at hwritable
        obtain rfl : content = old.append (added place) := by
          simpa [IsWritable, eq_comm] using hwritable
        rw [hthird, FileContent.append_append]
      · obtain ⟨hsame, hnothing⟩ := hthird.others place hsecond
        rw [hsame, hentry, hnothing, String.append_empty]
    · obtain ⟨hsame, hnothing⟩ := h.others place hfirst
      obtain ⟨old, hold, hentry⟩ := hthird.texts place (hplace.resolve_left hfirst)
      exact ⟨old, hsame ▸ hold, by rw [hentry, hnothing, String.empty_append]⟩
  others place hplace := by
    obtain ⟨hsame, hnothing⟩ := h.others place fun hfirst => hplace (.inl hfirst)
    obtain ⟨hthird, hnothing'⟩ := hthird.others place fun hsecond => hplace (.inr hsecond)
    exact ⟨hthird.trans hsame, by rw [hnothing, hnothing', String.empty_append]⟩

theorem of_append {text : String} (h : store.changeFile path (·.append text) = .ok other) :
    AddsTexts {path.place store.current}
      (fun place => if place = path.place store.current then text else "") store other := by
  obtain ⟨place, old, hlocate, hroot, hwritable, rfl⟩ := changeFile_eq_ok h
  obtain rfl := place_of_locate hlocate
  refine ⟨rfl, fun sought hsought => ?_, fun sought hsought => ?_⟩
  · obtain rfl : sought = path.place store.current := hsought
    exact ⟨old, hwritable, by rw [entry?_put hroot, if_pos rfl, if_pos rfl]⟩
  · have hne : sought ≠ path.place store.current := hsought
    exact ⟨by rw [entry?_put hroot, if_neg hne], if_neg hne⟩

theorem of_open (h : store.changeFile path id = .ok other) :
    AddsTexts {path.place store.current} (fun _ => "") store other := by
  have hid : (id : FileContent → FileContent) = (·.append "") :=
    funext fun content => content.append_empty.symm
  rw [hid] at h
  simpa only [ite_self] using of_append h

theorem addsFiles (h : AddsTexts places added store other) : store.AddsFiles other := by
  refine ⟨h.current, fun place => ?_⟩
  by_cases hadded : place ∈ places
  · obtain ⟨old, hold, hentry⟩ := h.texts place hadded
    exact .inr ⟨hold.ne_directory, _, hentry⟩
  · exact .inl (h.others place hadded).1

-- A file stays a file.
theorem holds (h : AddsTexts places added store other) {content : FileContent}
    (hholds : store.Holds path content) : ∃ content, other.Holds path content := by
  obtain ⟨place, hlocate, hfile⟩ := hholds
  have hkept := (locate_keeps h.addsFiles.keepsDirectories hlocate).1
  by_cases hadded : place ∈ places
  · obtain ⟨old, -, hentry⟩ := h.texts place hadded
    exact ⟨_, place, hkept, hentry⟩
  · exact ⟨content, place, hkept, by rw [(h.others place hadded).1, hfile]⟩

end AddsTexts

-- All that is new in the other store are empty files.
structure AddsEmptyFiles (store other : Store) : Prop where
  current : other.current = store.current
  entries : ∀ place, other.entry? place = store.entry? place ∨
    store.entry? place = none ∧ other.entry? place = some (.file "")

namespace AddsEmptyFiles

theorem refl (store : Store) : AddsEmptyFiles store store := ⟨rfl, fun _ => .inl rfl⟩

theorem of_open (h : store.changeFile path id = .ok other) : AddsEmptyFiles store other := by
  obtain ⟨place, old, -, hroot, hwritable, rfl⟩ := changeFile_eq_ok h
  refine ⟨rfl, fun sought => ?_⟩
  rw [entry?_put hroot]
  split
  · rename_i heq
    subst heq
    rcases hwritable with hfile | ⟨hnone, rfl⟩
    · exact .inl hfile.symm
    · exact .inr ⟨hnone, rfl⟩
  · exact .inl rfl

variable (h : AddsEmptyFiles store other)
include h

theorem addsFiles : store.AddsFiles other := by
  refine ⟨h.current, fun place => (h.entries place).imp_right ?_⟩
  rintro ⟨hnone, hempty⟩
  exact ⟨by simp [hnone], _, hempty⟩

-- What is found at a path is what was found there, or an empty file where there was none.
theorem look_cases (path : Path) :
    (other.kind? path = store.kind? path ∧
      (other.readText path).toOption = (store.readText path).toOption) ∨
    (store.kind? path = .ok none ∧ (store.readText path).toOption = none ∧
      other.kind? path = .ok (some .file) ∧ other.readText path = .ok "") := by
  rcases h.addsFiles.locate_cases path with hsame | ⟨hstore, hother⟩
  · by_cases hentry : ∀ place, store.locate path = .ok place →
        other.entry? place = store.entry? place
    · obtain ⟨hkind, htext⟩ := look_congr hsame hentry
      exact .inl ⟨hkind, by rw [htext]⟩
    · push Not at hentry
      obtain ⟨place, hplace, hne⟩ := hentry
      obtain ⟨hnone, hempty⟩ := (h.entries place).resolve_left hne
      have hother := hsame.trans hplace
      refine .inr ⟨?_, ?_, ?_, ?_⟩ <;>
        simp [kind?, readText, hplace, hother, hnone, hempty, bind, Except.bind, Except.toOption,
          Text.unifyLineEnds]
  · refine .inl ⟨?_, ?_⟩ <;>
      simp [kind?, readText, hstore, hother, bind, Except.bind, Except.toOption]

end AddsEmptyFiles

end ApiPages.Store
