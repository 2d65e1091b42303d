import ApiPages.Proofs.Yaml.Merge

namespace ApiPages.Yaml

variable {key : Key} {path : List Key} {name : String} {names : List String}
  {value inner found : Yaml} {current : Option Yaml} {base overrides : Members} {p : Key → Bool}

-- What stands at the end of a path.
def inner? : List Key → Yaml → Option Yaml
  | [], value => some value
  | key :: path, value => (find key value.members).bind (inner? path)

theorem inner?_append (path rest : List Key) (value : Yaml) :
    inner? (path ++ rest) value = (inner? path value).bind (inner? rest) := by
  induction path generalizing value with
  | nil => rfl
  | cons key path ih =>
      rw [List.cons_append, inner?, inner?, Option.bind_assoc]
      exact Option.bind_congr fun inner _ => ih inner

theorem isKeyed_of_inner? (h : value.isKeyed p = true) (hinner : inner? path value = some inner) :
    inner.isKeyed p = true := by
  induction path generalizing value with
  | nil =>
      cases hinner
      exact h
  | cons key path ih =>
      obtain ⟨next, hnext, hrest⟩ := Option.bind_eq_some_iff.mp hinner
      exact ih (isKeyed_of_find (areKeyed_members h) hnext) hrest

def isMapping : Yaml → Bool
  | .mapping _ => true
  | _ => false

theorem isMapping_iff : value.isMapping = true ↔ ∃ members, value = .mapping members := by
  cases value <;> simp [isMapping]

-- A value spares a path that it does not have, as long as it has only mappings on the way.
def Spares (value : Yaml) (path : List Key) : Prop :=
  inner? path value = none ∧ ∀ start, start <+: path → ∀ found, inner? start value = some found →
    ∃ members, found = .mapping members

-- A value cuts a path off on which it has something else before the end.
def CutsOff (value : Yaml) (path : List Key) : Prop :=
  ∃ start key rest found, path = start ++ key :: rest ∧ inner? start value = some found ∧
    found.isMapping = false

theorem spares_or_cutsOff (h : inner? path value = none) :
    Spares value path ∨ CutsOff value path := by
  by_cases hway : ∀ start, start <+: path → ∀ found, inner? start value = some found →
      ∃ members, found = .mapping members
  · exact .inl ⟨h, hway⟩
  · push Not at hway
    obtain ⟨start, ⟨rest, rfl⟩, found, hfound, hother⟩ := hway
    have hplain : found.isMapping = false := by
      rw [← Bool.not_eq_true, isMapping_iff]
      exact fun ⟨members, hmembers⟩ => hother members hmembers
    cases rest with
    | nil =>
        rw [List.append_nil, hfound] at h
        cases h
    | cons key rest => exact .inr ⟨start, key, rest, found, rfl, hfound, hplain⟩

theorem Spares.of_find (h : Spares value (key :: path))
    (hinner : find key value.members = some inner) : Spares inner path := by
  refine ⟨?_, fun start hstart found hfound => ?_⟩
  · have hnone := h.1
    rwa [inner?, hinner] at hnone
  · refine h.2 (key :: start) (List.cons_prefix_cons.mpr ⟨rfl, hstart⟩) found ?_
    rwa [inner?, hinner]

theorem bind_inner?_cons_of_not_mapping (h : ∀ base, current ≠ some (.mapping base)) :
    current.bind (inner? (key :: path)) = none := by
  cases current with
  | none => rfl
  | some found =>
      cases found with
      | mapping base => exact absurd rfl (h base)
      | _ => rfl

theorem inner?_cons_mergeInto (h : areKeyed p overrides = true) (base : Members) :
    inner? (key :: path) (.mapping (mergeInto base overrides)) =
      (((find key overrides).map (overlay (find key base))).or (find key base)).bind
        (inner? path) := by
  rw [inner?, members, find_mergeInto h]

-- By induction on the path: a mapping that is met on it is merged into the mapping in its place.
theorem inner?_overlay_of_spares (hkeyed : value.isKeyed p = true) (h : Spares value path)
    (current : Option Yaml) : inner? path (overlay current value) = current.bind (inner? path) := by
  induction path generalizing value current with
  | nil => cases h.1
  | cons key path ih =>
      obtain ⟨overrides, rfl⟩ := h.2 [] List.nil_prefix value rfl
      by_cases hbase : ∃ base, current = some (.mapping base)
      · obtain ⟨base, rfl⟩ := hbase
        change inner? (key :: path) (.mapping (mergeInto base overrides)) =
          (find key base).bind (inner? path)
        rw [inner?_cons_mergeInto hkeyed]
        cases hinner : find key overrides with
        | none => rfl
        | some inner => exact ih (isKeyed_of_find hkeyed hinner) (h.of_find hinner) _
      · rw [not_exists] at hbase
        rw [overlay_eq_self fun base hcurrent => absurd hcurrent (hbase base), h.1,
          bind_inner?_cons_of_not_mapping hbase]

theorem inner?_overlay_of_inner? (hkeyed : value.isKeyed p = true)
    (h : inner? path value = some found) (current : Option Yaml) :
    inner? path (overlay current value) = some (overlay (current.bind (inner? path)) found) := by
  induction path generalizing value current with
  | nil =>
      cases h
      cases current <;> rfl
  | cons key path ih =>
      obtain ⟨inner, hinner, hfound⟩ := Option.bind_eq_some_iff.mp h
      by_cases hbase : ∃ base, current = some (.mapping base)
      · obtain ⟨base, rfl⟩ := hbase
        cases value with
        | mapping overrides =>
            change inner? (key :: path) (.mapping (mergeInto base overrides)) =
              some (overlay ((find key base).bind (inner? path)) found)
            rw [members] at hinner
            rw [inner?_cons_mergeInto hkeyed, hinner]
            exact ih (isKeyed_of_find hkeyed hinner) hfound _
        | _ => cases hinner
      · rw [not_exists] at hbase
        rw [overlay_eq_self fun base hcurrent => absurd hcurrent (hbase base),
          bind_inner?_cons_of_not_mapping hbase, overlay_none, h]

theorem overlay_of_not_isMapping (h : found.isMapping = false) : overlay current found = found :=
  overlay_eq_self fun _ _ overrides hmapping => by
    rw [hmapping] at h
    cases h

theorem inner?_overlay_of_cutsOff (hkeyed : value.isKeyed p = true) (h : CutsOff value path)
    (current : Option Yaml) : inner? path (overlay current value) = none := by
  obtain ⟨start, key, rest, found, rfl, hfound, hplain⟩ := h
  rw [inner?_append, inner?_overlay_of_inner? hkeyed hfound, overlay_of_not_isMapping hplain]
  refine bind_inner?_cons_of_not_mapping fun members hmembers => ?_
  cases hmembers
  cases hplain

-- What stands at the end of a path of names.
def follow : List String → Yaml → Option Yaml
  | [], value => some value
  | name :: path, value => (find (.text name) value.members).bind (follow path)

theorem follow_eq (names : List String) (value : Yaml) :
    follow names value = inner? (names.map Key.text) value := by
  induction names generalizing value with
  | nil => rfl
  | cons name names ih => exact Option.bind_congr fun inner _ => ih inner

theorem foldl_get_null (names : List String) : names.foldl Yaml.get .null = .null := by
  induction names with
  | nil => rfl
  | cons name names ih => exact ih

-- Values that are missing on the way read as null.
theorem follow_concat (names : List String) (name : String) (value : Yaml) :
    follow (names ++ [name]) value = find (.text name) (names.foldl Yaml.get value).members := by
  induction names generalizing value with
  | nil =>
      exact Option.bind_fun_some _
  | cons first names ih =>
      rw [List.cons_append, follow, List.foldl_cons, Yaml.get]
      cases find (.text first) value.members with
      | none => rw [Option.getD_none, foldl_get_null]; rfl
      | some next => exact ih next

theorem getD_follow (names : List String) (value : Yaml) :
    (follow names value).getD .null = names.foldl Yaml.get value := by
  induction names generalizing value with
  | nil => rfl
  | cons first names ih =>
      rw [follow, List.foldl_cons, Yaml.get]
      cases find (.text first) value.members with
      | none => rw [Option.getD_none, foldl_get_null]; rfl
      | some inner => exact ih inner

-- A value leaves a path alone that it does not have, as long as it has only mappings on the way.
def LeavesAlone (value : Yaml) (path : List String) : Prop :=
  follow path value = none ∧ ∀ start, start <+: path → ∀ found, follow start value = some found →
    ∃ members, found = .mapping members

theorem LeavesAlone.spares (h : LeavesAlone value names) : Spares value (names.map Key.text) := by
  refine ⟨(follow_eq names value).symm.trans h.1, fun start hstart found hfound => ?_⟩
  obtain ⟨start, hnames, rfl⟩ := List.prefix_map_iff.mp hstart
  exact h.2 start hnames found ((follow_eq start value).trans hfound)

theorem follow_overlay_of_leavesAlone (hnamed : value.isNamed = true)
    (h : LeavesAlone value names) (current : Option Yaml) :
    follow names (overlay current value) = current.bind (follow names) := by
  rw [isNamed_eq] at hnamed
  simp only [funext (follow_eq names), inner?_overlay_of_spares hnamed h.spares]

theorem follow_overlay_of_follow (hnamed : value.isNamed = true)
    (h : follow names value = some found) (current : Option Yaml) :
    follow names (overlay current value) = some (overlay (current.bind (follow names)) found) := by
  rw [isNamed_eq] at hnamed
  rw [follow_eq] at h
  simp only [funext (follow_eq names), inner?_overlay_of_inner? hnamed h]

end ApiPages.Yaml
