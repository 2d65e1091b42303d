import ApiPages.Files.Path
import Mathlib

namespace ApiPages.Path

-- The place that a name leads to.
def follow (place : List String) (name : String) : List String :=
  if name = ".." then place.dropLast else place ++ [name]

-- The place of a path, seen from the current directory.
def place (current : List String) (path : Path) : List String :=
  path.names.foldl follow (if path.isAbsolute then [] else current)

theorem foldl_follow_of_notMem {names : List String} (h : ".." ∉ names) (place : List String) :
    names.foldl follow place = place ++ names := by
  induction names generalizing place with
  | nil => simp
  | cons name rest ih =>
      have hname : name ≠ ".." := fun heq => h (heq ▸ List.mem_cons_self)
      have hrest : ".." ∉ rest := fun hmem => h (List.mem_cons_of_mem name hmem)
      rw [List.foldl_cons, ih hrest, follow, if_neg hname, List.append_assoc,
        List.singleton_append]

-- A path that goes down from a directory and never up.
def IsBelow (directory path : Path) : Prop :=
  ∃ names, ".." ∉ names ∧ path = { directory with names := directory.names ++ names }

theorem IsBelow.place_eq_iff {directory path other : Path} (h : directory.IsBelow path)
    (hother : directory.IsBelow other) (current : List String) :
    path.place current = other.place current ↔ path = other := by
  refine ⟨fun hplace => ?_, congrArg _⟩
  obtain ⟨names, hnames, rfl⟩ := h
  obtain ⟨others, hothers, rfl⟩ := hother
  simp only [place, isAbsolute, List.foldl_append, foldl_follow_of_notMem hnames,
    foldl_follow_of_notMem hothers] at hplace
  rw [List.append_cancel_left hplace]

theorem splitOnChar_of_notMem {sep : Char} {cs : List Char} (h : sep ∉ cs) :
    Text.splitOnChar sep cs = [cs] := by
  induction cs with
  | nil => rfl
  | cons c rest ih =>
      have hc : c ≠ sep := fun heq => h (heq ▸ List.mem_cons_self)
      have hrest : sep ∉ rest := fun hmem => h (List.mem_cons_of_mem c hmem)
      simp only [Text.splitOnChar, hc, ite_false, ih hrest]

-- A text without slashes names one place further down, or none.
theorem child_of_notMem (path : Path) {name : String} (h : '/' ∉ name.toList) :
    path.child name =
      { path with names := path.names ++ [name].filter fun name => name ≠ "" ∧ name ≠ "." } := by
  have hslashes : name.toList.takeWhile (· = '/') = [] := by
    cases hname : name.toList with
    | nil => rfl
    | cons c rest =>
        have hc : c ≠ '/' := fun heq => h (by simp [hname, heq])
        simp [hc]
  have htext : ofText name = { names := [name].filter fun name => name ≠ "" ∧ name ≠ "." } := by
    simp only [ofText, splitOnChar_of_notMem h, hslashes, List.map_cons, List.map_nil,
      String.ofList_toList, List.length_nil]
  rw [child, htext]
  rfl

theorem isBelow_child {path : Path} {name : String} (h : '/' ∉ name.toList) (hdots : name ≠ "..") :
    path.IsBelow (path.child name) := by
  refine ⟨_, ?_, child_of_notMem path h⟩
  simp [hdots.symm]

theorem IsBelow.trans {directory path other : Path} (h : directory.IsBelow path)
    (hother : path.IsBelow other) : directory.IsBelow other := by
  obtain ⟨names, hnames, rfl⟩ := h
  obtain ⟨others, hothers, rfl⟩ := hother
  exact ⟨names ++ others, by simp [hnames, hothers], by simp⟩

end ApiPages.Path
