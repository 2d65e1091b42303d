import ApiPages.Proofs.Settings.Reading

namespace ApiPages

open Outcome Yaml

namespace Settings

section Named

variable [CharacterNames] {root : Path} {members base overrides : Members}
  {settings merged : Settings}

-- A page of the substitution is a mapping in the overrides and in what they change.
def MergesPages (current : Option Yaml) (value : Yaml) (setting : Setting) : Prop :=
  (∃ page, setting = .substitutionPage page) ∧ (∃ members, current = some (.mapping members)) ∧
    ∃ members, value = .mapping members

-- But for a page, a setting reads all mappings alike.
theorem read_overlay (root : Path) {setting : Setting} {current : Option Yaml} {value : Yaml}
    (h : ¬ MergesPages current value setting) :
    setting.read root (some (overlay current value)) = setting.read root (some value) := by
  by_cases hbase : ∃ base, current = some (.mapping base)
  · obtain ⟨base, rfl⟩ := hbase
    cases value with
    | mapping overrides =>
        cases setting with
        | substitutionPage page => exact absurd ⟨⟨page, rfl⟩, ⟨base, rfl⟩, overrides, rfl⟩ h
        | _ => rfl
    | _ => rfl
  · rw [overlay_eq_self fun base hcurrent => absurd ⟨base, hcurrent⟩ hbase]

-- A setting that the overrides leave alone keeps its value. One that they have is read off their
-- value, but a page of the substitution that is a mapping on both sides is read off the merged one.
theorem ofYaml_merge (hbase : (Yaml.mapping base).isNamed = true)
    (hoverrides : (Yaml.mapping overrides).isNamed = true)
    (h : ofYaml root (.mapping base) = .ok settings)
    (hmerged : ofYaml root (.mapping (merge base overrides)) = .ok merged) (setting : Setting) :
    (LeavesAlone (.mapping overrides) setting.path →
      (setting.isSubstitution = true →
        settings.tables.substitution.isSome = true ∧ merged.tables.substitution.isSome = true) →
      ∃ v, setting.valueIn settings = some v ∧ setting.valueIn merged = some v) ∧
    ∀ value, follow setting.path (.mapping overrides) = some value →
      ∃ v, setting.valueIn merged = some v ∧
        setting.read root (some (overlay (follow setting.path (.mapping base)) value)) = .ok v ∧
        (¬ MergesPages (follow setting.path (.mapping base)) value setting →
          setting.read root (some value) = .ok v) := by
  have hnamed : (Yaml.mapping (merge base overrides)).isNamed = true :=
    areNamed_mergeInto hoverrides hbase
  constructor
  · intro halone hsubstitution
    obtain ⟨v, hv⟩ := Option.isSome_iff_exists.mp
      ((valueIn_isSome setting settings).mpr fun hs => (hsubstitution hs).1)
    obtain ⟨w, hw⟩ := Option.isSome_iff_exists.mp
      ((valueIn_isSome setting merged).mpr fun hs => (hsubstitution hs).2)
    have hfollow : follow setting.path (.mapping (merge base overrides)) =
        follow setting.path (.mapping base) :=
      follow_overlay_of_leavesAlone hoverrides halone (some (.mapping base))
    have hreads := read_follow hnamed hmerged hw
    rw [hfollow, read_follow hbase h hv] at hreads
    cases hreads
    exact ⟨v, hv, hw⟩
  · intro value hvalue
    have hfollow : follow setting.path (.mapping (merge base overrides)) =
        some (overlay (follow setting.path (.mapping base)) value) :=
      follow_overlay_of_follow hoverrides hvalue (some (.mapping base))
    have hsome : (setting.valueIn merged).isSome = true := by
      rw [valueIn_isSome]
      intro hs
      cases setting with
      | substitutionName => exact isSome_substitution hmerged hfollow (List.cons_ne_nil _ _)
      | substitutionDefault => exact isSome_substitution hmerged hfollow (List.cons_ne_nil _ _)
      | substitutionPage page => exact isSome_substitution hmerged hfollow (List.cons_ne_nil _ _)
      | _ => cases hs
    obtain ⟨v, hv⟩ := Option.isSome_iff_exists.mp hsome
    have hreads := read_follow hnamed hmerged hv
    rw [hfollow] at hreads
    exact ⟨v, hv, hreads, fun hmerges => (read_overlay root hmerges).symm.trans hreads⟩

end Named

section Cases

attribute [local instance] noCharacterNames

-- A project names a simple type of its own, and what the placeholder stands for on one more page.
def projectOverrides : Members :=
  [(.text "types", .mapping [(.text "simple", .list [.text "Json"])]),
   (.text "substitution", .mapping
     [(.text "pages", .mapping [(.text "test-api", .text "TestMeta")])])]

theorem ofYaml_merge_projectOverrides :
    ∃ settings merged, ofYaml {} (.mapping defaults) = .ok settings ∧
      ofYaml {} (.mapping (merge defaults projectOverrides)) = .ok merged ∧
      (∃ v, (Setting.substitutionPage "node-api").valueIn settings = some v ∧
        (Setting.substitutionPage "node-api").valueIn merged = some v) ∧
      Setting.simple.valueIn merged = some (.texts ["Json"]) := by
  obtain ⟨settings, h, hsubstitution⟩ : ∃ settings, ofYaml {} (.mapping defaults) = .ok settings ∧
      settings.tables.substitution.isSome = true := ⟨_, by cbv, rfl⟩
  obtain ⟨merged, hmerged, hmergedSubstitution⟩ : ∃ merged,
      ofYaml {} (.mapping (merge defaults projectOverrides)) = .ok merged ∧
      merged.tables.substitution.isSome = true := ⟨_, by cbv, rfl⟩
  have hnamed : (Yaml.mapping defaults).isNamed = true := by decide +kernel
  have halone : LeavesAlone (.mapping projectOverrides)
      (Setting.substitutionPage "node-api").path := by
    refine ⟨rfl, fun start hstart found hfound => ?_⟩
    have hm : start ∈ [[], ["substitution"], ["substitution", "pages"],
      ["substitution", "pages", "node-api"]] := (List.mem_inits start _).mpr hstart
    simp only [List.mem_cons, List.not_mem_nil, or_false] at hm
    rcases hm with rfl | rfl | rfl | rfl
    · exact ⟨_, (Option.some.inj hfound).symm⟩
    · exact ⟨_, (Option.some.inj hfound).symm⟩
    · exact ⟨_, (Option.some.inj hfound).symm⟩
    · cases hfound
  have hkept := (ofYaml_merge hnamed rfl h hmerged (.substitutionPage "node-api")).1 halone
    fun _ => ⟨hsubstitution, hmergedSubstitution⟩
  obtain ⟨v, hv, -, hread⟩ := (ofYaml_merge hnamed rfl h hmerged .simple).2 (.list [.text "Json"])
    rfl
  have htexts := hread (by rintro ⟨⟨page, hpage⟩, -⟩; cases hpage)
  cases htexts
  exact ⟨settings, merged, h, hmerged, hkept, hv⟩

-- A page that is a mapping on both sides.
def pageBase : Members :=
  [(.text "substitution", .mapping
    [(.text "name", .text "M"), (.text "default", .text "ClientMeta"),
     (.text "pages", .mapping [(.text "node-api", .mapping [(.text "a", .scalar (.int 1))])])])]

def pageOverrides : Members :=
  [(.text "substitution", .mapping
    [(.text "pages", .mapping [(.text "node-api", .mapping [(.text "b", .scalar (.int 2))])])])]

theorem ofYaml_merge_pageOverrides :
    (Yaml.mapping pageBase).isNamed = true ∧ (Yaml.mapping pageOverrides).isNamed = true ∧
      ∃ settings merged value, ofYaml {} (.mapping pageBase) = .ok settings ∧
        ofYaml {} (.mapping (merge pageBase pageOverrides)) = .ok merged ∧
        follow (Setting.substitutionPage "node-api").path (.mapping pageOverrides) = some value ∧
        (Setting.substitutionPage "node-api").read {} (some value) =
          .ok (.text (some "\x7b'b': 2\x7d")) ∧
        (Setting.substitutionPage "node-api").valueIn merged =
          some (.text (some "\x7b'a': 1, 'b': 2\x7d")) :=
  ⟨rfl, rfl, _, _, _, by cbv, by cbv, rfl, by cbv, by cbv⟩

end Cases

end Settings

end ApiPages
