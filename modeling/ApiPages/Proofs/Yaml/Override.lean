import ApiPages.Proofs.Yaml.Path

namespace ApiPages.Yaml

variable {base overrides members : Members} {path : List Key} {value : Yaml}

-- Each key stands once in its mapping, in the mappings inside as well.
def KeysDiffer (members : Members) : Prop := areKeyed (fun _ => true) members = true

instance (members : Members) : Decidable (KeysDiffer members) :=
  inferInstanceAs (Decidable (areKeyed _ members = true))

-- The members at the end of a path; anything but a mapping has none.
def membersAt (path : List Key) (members : Members) : Members :=
  ((inner? path (.mapping members)).getD .null).members

theorem isKeyed_mapping (h : KeysDiffer members) :
    (Yaml.mapping members).isKeyed (fun _ => true) = true := h

-- What overrides make of a base, path by path.
structure IsOverride (base overrides merged : Members) : Prop where
  -- Anything but a mapping replaces what stood in its place.
  replaced : ∀ path value, inner? path (.mapping overrides) = some value →
    value.isMapping = false → inner? path (.mapping merged) = some value
  -- So does a mapping in a place without one.
  placed : ∀ path members, inner? path (.mapping overrides) = some (.mapping members) →
    (∀ old, inner? path (.mapping base) ≠ some (.mapping old)) →
    inner? path (.mapping merged) = some (.mapping members)
  -- Where both have a mapping there is one still.
  joined : ∀ path members old, inner? path (.mapping overrides) = some (.mapping members) →
    inner? path (.mapping base) = some (.mapping old) →
    ∃ found, inner? path (.mapping merged) = some (.mapping found)
  kept : ∀ path, Spares (.mapping overrides) path →
    inner? path (.mapping merged) = inner? path (.mapping base)
  cutOff : ∀ path, CutsOff (.mapping overrides) path → inner? path (.mapping merged) = none
  -- In every mapping the keys of the base come first, then the new ones.
  ordered : ∀ path members, inner? path (.mapping merged) = some (.mapping members) →
    members.map Prod.fst = (membersAt path base).map Prod.fst ++
      ((membersAt path overrides).map Prod.fst).filter
        fun key => (find key (membersAt path base)).isNone

theorem membersAt_of_some (h : inner? path (.mapping members) = some value) :
    membersAt path members = value.members := by
  rw [membersAt, h, Option.getD_some]

theorem membersAt_of_not_mapping
    (h : ∀ inner, inner? path (.mapping members) ≠ some (.mapping inner)) :
    membersAt path members = [] := by
  rw [membersAt]
  cases hfound : inner? path (.mapping members) with
  | none => rfl
  | some found =>
      cases found with
      | mapping inner => exact absurd hfound (h inner)
      | _ => rfl

theorem inner?_merge_of_inner? (h : KeysDiffer overrides)
    (hvalue : inner? path (.mapping overrides) = some value) (base : Members) :
    inner? path (.mapping (merge base overrides)) =
      some (overlay (inner? path (.mapping base)) value) :=
  inner?_overlay_of_inner? (isKeyed_mapping h) hvalue (some (.mapping base))

theorem inner?_merge_of_spares (h : KeysDiffer overrides)
    (hspares : Spares (.mapping overrides) path) (base : Members) :
    inner? path (.mapping (merge base overrides)) = inner? path (.mapping base) :=
  inner?_overlay_of_spares (isKeyed_mapping h) hspares (some (.mapping base))

theorem inner?_merge_of_cutsOff (h : KeysDiffer overrides)
    (hcut : CutsOff (.mapping overrides) path) (base : Members) :
    inner? path (.mapping (merge base overrides)) = none :=
  inner?_overlay_of_cutsOff (isKeyed_mapping h) hcut (some (.mapping base))

-- The keys at the end of a path are those of the mapping that was laid over another one there, or of
-- the only one there was.
theorem map_fst_merge_inner? (h : KeysDiffer overrides)
    (hfound : inner? path (.mapping (merge base overrides)) = some (.mapping members)) :
    members.map Prod.fst = (membersAt path base).map Prod.fst ++
      ((membersAt path overrides).map Prod.fst).filter
        fun key => (find key (membersAt path base)).isNone := by
  cases hinner : inner? path (.mapping overrides) with
  | some value =>
      rw [inner?_merge_of_inner? h hinner, Option.some.injEq] at hfound
      cases value with
      | mapping inner =>
          have hkeyed : (Yaml.mapping inner).isKeyed (fun _ => true) = true :=
            isKeyed_of_inner? (isKeyed_mapping h) hinner
          rw [membersAt_of_some hinner]
          by_cases hbase : ∃ old, inner? path (.mapping base) = some (.mapping old)
          · obtain ⟨old, hold⟩ := hbase
            rw [hold] at hfound
            cases hfound
            rw [membersAt_of_some hold]
            exact map_fst_mergeInto hkeyed old
          · rw [not_exists] at hbase
            rw [overlay_eq_self fun old hold => absurd hold (hbase old)] at hfound
            cases hfound
            simp [membersAt_of_not_mapping hbase, find, Yaml.members]
      | _ => cases hfound
  | none =>
      have hnothing : membersAt path overrides = [] :=
        membersAt_of_not_mapping fun inner => by simp [hinner]
      rcases spares_or_cutsOff hinner with hspares | hcut
      · rw [inner?_merge_of_spares h hspares] at hfound
        rw [membersAt_of_some hfound, hnothing]
        simp [Yaml.members]
      · rw [inner?_merge_of_cutsOff h hcut] at hfound
        cases hfound

theorem isOverride_merge (h : KeysDiffer overrides) (base : Members) :
    IsOverride base overrides (merge base overrides) where
  replaced path value hvalue hplain := by
    rw [inner?_merge_of_inner? h hvalue, overlay_of_not_isMapping hplain]
  placed path members hmembers hbase := by
    rw [inner?_merge_of_inner? h hmembers,
      overlay_eq_self fun old hold => absurd hold (hbase old)]
  joined path members old hmembers hold := by
    rw [inner?_merge_of_inner? h hmembers, hold]
    exact ⟨_, rfl⟩
  kept path hspares := inner?_merge_of_spares h hspares base
  cutOff path hcut := inner?_merge_of_cutsOff h hcut base
  ordered path members hfound := map_fst_merge_inner? h hfound

theorem merge_overrides (hbase : KeysDiffer base) (hoverrides : KeysDiffer overrides) :
    IsOverride base overrides (merge base overrides) ∧ KeysDiffer (merge base overrides) ∧
      merge base [] = base ∧ merge [] overrides = overrides ∧
      merge (merge base overrides) overrides = merge base overrides :=
  ⟨isOverride_merge hoverrides base, areKeyed_mergeInto overrides hoverrides base hbase, rfl,
    mergeInto_nil hoverrides, mergeInto_mergeInto hoverrides hbase⟩

-- A mapping over a text, null over a mapping, new keys, and a truth value for the key of a number.
def shapesBase : Members :=
  [(.text "types", .mapping
     [(.text "simple", .list [.text "Json"]),
      (.text "external", .mapping [(.text "Map", .text "/map")])]),
   (.text "output_dir", .text "dist"), (.scalar (.int 1), .text "one")]

def shapesOverrides : Members :=
  [(.text "output_dir", .mapping [(.text "root", .text "pages")]),
   (.scalar (.bool true), .text "yes"),
   (.text "types", .mapping [(.text "inline", .list []), (.text "external", .null)])]

theorem merge_overrides_shapes :
    KeysDiffer shapesBase ∧ KeysDiffer shapesOverrides ∧
      inner? [.text "types", .text "external"] (.mapping (merge shapesBase shapesOverrides)) =
        some .null ∧
      inner? [.text "types", .text "external", .text "Map"]
        (.mapping (merge shapesBase shapesOverrides)) = none ∧
      inner? [.text "output_dir"] (.mapping (merge shapesBase shapesOverrides)) =
        some (.mapping [(.text "root", .text "pages")]) ∧
      inner? [.scalar (.int 1)] (.mapping (merge shapesBase shapesOverrides)) =
        some (.text "yes") ∧
      (merge shapesBase shapesOverrides).map Prod.fst =
        [.text "types", .text "output_dir", .scalar (.int 1)] ∧
      merge (merge shapesBase shapesOverrides) shapesOverrides =
        merge shapesBase shapesOverrides := by
  have hbase : KeysDiffer shapesBase := by decide
  have hoverrides : KeysDiffer shapesOverrides := by decide
  obtain ⟨h, -, -, -, hagain⟩ := merge_overrides hbase hoverrides
  refine ⟨hbase, hoverrides, h.replaced _ _ rfl rfl, h.cutOff _ ?_, h.placed _ _ rfl nofun,
    h.replaced _ _ rfl rfl, h.ordered [] _ rfl, hagain⟩
  exact ⟨[.text "types", .text "external"], .text "Map", [], .null, rfl, rfl, rfl⟩

end ApiPages.Yaml
