import ApiPages.Proofs.Settings.Reading

namespace ApiPages

open Outcome Yaml

namespace Yaml

variable {members : Members} {value : Option Yaml} {name text : String}

-- A single value stands under a name and reads as a text.
def HasText (members : Members) (name text : String) : Prop :=
  ∃ scalar, find (.text name) members = some (.scalar scalar) ∧ scalar.plain = text

-- Such a text that says something.
def IsGiven (members : Members) (name text : String) : Prop :=
  HasText members name text ∧ text ≠ ""

theorem not_isGiven_nil : ¬ IsGiven [] name text := by
  rintro ⟨⟨scalar, h, -⟩, -⟩
  cases h

-- What does not hold of nothing is asked of a mapping.
theorem exists_mapping_iff {P : Members → Prop} (hnil : ¬ P []) :
    (∃ inner, value = some (.mapping inner) ∧ P inner) ↔ P (value.getD .null).members := by
  cases value with
  | none => simpa [Yaml.members] using hnil
  | some value => cases value <;> simp [Yaml.members, hnil]

theorem exists_list_iff {P : List Yaml → Prop} (hnil : ¬ P []) :
    (∃ items, value = some (.list items) ∧ P items) ↔ P (value.getD .null).items := by
  cases value with
  | none => simpa [Yaml.items] using hnil
  | some value => cases value <;> simp [Yaml.items, hnil]

end Yaml

namespace Settings

variable {root : Path} {members : Members} {settings : Settings} {setting : Setting}
  {value : Yaml} {name text : String} {error : SettingsError} {v : SettingValue}

theorem given_get_eq_some_iff :
    given (textOf? (value.get name)) = some text ↔ IsGiven value.members name text := by
  have hget : textOf? (value.get name) = some text ↔ HasText value.members name text := by
    rw [Yaml.get, HasText]
    cases find (.text name) value.members with
    | none => simp [textOf?]
    | some found => cases found <;> simp [textOf?]
  rw [IsGiven, ← hget, given]
  simp [Option.filter_eq_some_iff]

theorem given_get_eq_none_iff :
    given (textOf? (value.get name)) = none ↔ ∀ text, ¬ IsGiven value.members name text := by
  simp only [Option.eq_none_iff_forall_ne_some, ne_eq, given_get_eq_some_iff]

-- A substitution that says something, but not for what or by what.
def LacksSubstitute (members : Members) : Prop :=
  ∃ inner, find (.text "substitution") members = some (.mapping inner) ∧ inner ≠ [] ∧
    ((∀ text, ¬ IsGiven inner "name" text) ∨ ∀ text, ¬ IsGiven inner "default" text)

def IsAliasOf (value : Yaml) (parent : ParentAlias) : Prop :=
  ∃ inner, value = .mapping inner ∧
    IsGiven inner "suffix" parent.suffix ∧ IsGiven inner "name" parent.name

def HasBareAlias (members : Members) : Prop :=
  ∃ entries, find (.text "extends_aliases") members = some (.list entries) ∧
    ∃ entry ∈ entries, ∀ parent, ¬ IsAliasOf entry parent

def HasInvalidPattern [CharacterNames] (members : Members) (pattern : String) : Prop :=
  ∃ inner, find (.text "edit_url") members = some (.mapping inner) ∧
    IsGiven inner "pattern" pattern ∧ Pattern.read? pattern = none

-- Why members are refused: the substitution comes first, and the pattern last.
inductive Refuses [CharacterNames] (members : Members) : SettingsError → Prop
  | substitution (lacks : LacksSubstitute members) : Refuses members .substitutionIncomplete
  | parents (substitution : ¬ LacksSubstitute members) (bare : HasBareAlias members) :
      Refuses members .aliasIncomplete
  | pattern {pattern : String} (substitution : ¬ LacksSubstitute members)
      (parents : ¬ HasBareAlias members) (invalid : HasInvalidPattern members pattern) :
      Refuses members (.invalidPattern pattern)

theorem refuses_iff [CharacterNames] : (∃ error, Refuses members error) ↔
    LacksSubstitute members ∨ HasBareAlias members ∨ ∃ pattern, HasInvalidPattern members pattern := by
  constructor
  · rintro ⟨error, h⟩
    cases h with
    | substitution lacks => exact .inl lacks
    | parents _ bare => exact .inr (.inl bare)
    | pattern _ _ invalid => exact .inr (.inr ⟨_, invalid⟩)
  · intro h
    by_cases hlacks : LacksSubstitute members
    · exact ⟨_, .substitution hlacks⟩
    by_cases hbare : HasBareAlias members
    · exact ⟨_, .parents hlacks hbare⟩
    obtain ⟨pattern, hinvalid⟩ := (h.resolve_left hlacks).resolve_left hbare
    exact ⟨_, .pattern hlacks hbare hinvalid⟩

theorem fault?_readSubstitution (value : Yaml) :
    fault? (readSubstitution value) = some error ↔ error = .substitutionIncomplete ∧
      value.members ≠ [] ∧ ((∀ text, ¬ IsGiven value.members "name" text) ∨
        ∀ text, ¬ IsGiven value.members "default" text) := by
  rw [← given_get_eq_none_iff, ← given_get_eq_none_iff, readSubstitution]
  cases value.members with
  | nil => simp
  | cons member rest =>
      cases given (textOf? (value.get "name")) <;> cases given (textOf? (value.get "default")) <;>
        simp [eq_comm]

-- An entry is read to the alias that it is, and there is one way to fail.
theorem readAlias_eq_ok_iff {parent : ParentAlias} :
    readAlias value = .ok parent ↔ IsAliasOf value parent := by
  have hmapping : IsAliasOf value parent ↔ IsGiven value.members "suffix" parent.suffix ∧
      IsGiven value.members "name" parent.name := by
    cases value <;> simp [IsAliasOf, Yaml.members, not_isGiven_nil]
  obtain ⟨suffix, name⟩ := parent
  rw [hmapping, ← given_get_eq_some_iff, ← given_get_eq_some_iff, readAlias]
  cases given (textOf? (value.get "suffix")) <;> cases given (textOf? (value.get "name")) <;> simp

theorem fault?_readAlias (value : Yaml) :
    fault? (readAlias value) = some error ↔
      error = .aliasIncomplete ∧ ∀ parent, ¬ IsAliasOf value parent := by
  simp only [← readAlias_eq_ok_iff, readAlias]
  cases given (textOf? (value.get "suffix")) <;> cases given (textOf? (value.get "name")) <;>
    simp [eq_comm]

theorem fault?_readAliases (items : List Yaml) :
    fault? (items.mapM readAlias) = some error ↔ error = .aliasIncomplete ∧
      ∃ entry ∈ items, ∀ parent, ¬ IsAliasOf entry parent := by
  rw [fault?_mapM]
  constructor
  · intro h
    obtain ⟨entry, hentry, hfault⟩ := List.exists_of_findSome?_eq_some h
    obtain ⟨rfl, hbare⟩ := (fault?_readAlias entry).mp hfault
    exact ⟨rfl, entry, hentry, hbare⟩
  · rintro ⟨rfl, entry, hentry, hbare⟩
    cases hfirst : items.findSome? fun entry => fault? (readAlias entry) with
    | none =>
        have hnone := List.findSome?_eq_none_iff.mp hfirst entry hentry
        rw [(fault?_readAlias entry).mpr ⟨rfl, hbare⟩] at hnone
        cases hnone
    | some error =>
        obtain ⟨found, -, hfault⟩ := List.exists_of_findSome?_eq_some hfirst
        rw [((fault?_readAlias found).mp hfault).1]

theorem fault?_bind_pure {α β : Type} (x : Except SettingsError α) (f : α → β) :
    fault? (x >>= fun a => pure (f a)) = fault? x := by
  rw [bind_pure_comp, fault?_map]

section Named

variable [CharacterNames]

theorem fault?_readPattern (text : String) : fault? (readPattern text) = some error ↔
    error = .invalidPattern text ∧ Pattern.read? text = none := by
  unfold readPattern
  cases Pattern.read? text <;> simp [eq_comm]

-- The empty text is a pattern, so an invalid one says something.
theorem fault?_readEditUrls (value : Yaml) :
    fault? (readEditUrls value) = some error ↔ ∃ pattern, error = .invalidPattern pattern ∧
      IsGiven value.members "pattern" pattern ∧ Pattern.read? pattern = none := by
  have hempty : Pattern.read? "" ≠ none := nofun
  rw [readEditUrls, fault?_bind_pure]
  simp only [← given_get_eq_some_iff]
  cases textOf? (value.get "pattern") with
  | none => simp [given, pure, Except.pure]
  | some text =>
      simp only [Option.mapM_some, fault?_map, fault?_readPattern]
      by_cases htext : text = ""
      · subst htext
        simp [given, hempty]
      · simp [given, htext]

theorem fault?_ofYaml (root : Path) (members : Members) :
    fault? (ofYaml root (.mapping members)) =
      ((fault? (readSubstitution ((Yaml.mapping members).get "substitution"))).or
        (fault? (((Yaml.mapping members).get "extends_aliases").items.mapM readAlias))).or
        (fault? (readEditUrls ((Yaml.mapping members).get "edit_url"))) := by
  rw [ofYaml, fault?_bind fun _ => fault?_bind_pure _ _, readTables,
    fault?_bind fun _ => fault?_bind_pure _ _]

-- The three readings that can fail come one after the other.
theorem ofYaml_eq_error_iff (root : Path) (members : Members) (error : SettingsError) :
    ofYaml root (.mapping members) = .error error ↔ Refuses members error := by
  have hsubstitution : ∀ error,
      fault? (readSubstitution ((Yaml.mapping members).get "substitution")) = some error ↔
        error = .substitutionIncomplete ∧ LacksSubstitute members := by
    intro error
    rw [fault?_readSubstitution, LacksSubstitute, exists_mapping_iff (by simp)]
    rfl
  have hparents : ∀ error,
      fault? (((Yaml.mapping members).get "extends_aliases").items.mapM readAlias) = some error ↔
        error = .aliasIncomplete ∧ HasBareAlias members := by
    intro error
    rw [fault?_readAliases, HasBareAlias, exists_list_iff (by simp)]
    rfl
  have hpattern : ∀ error,
      fault? (readEditUrls ((Yaml.mapping members).get "edit_url")) = some error ↔
        ∃ pattern, error = .invalidPattern pattern ∧ HasInvalidPattern members pattern := by
    intro error
    rw [fault?_readEditUrls]
    refine exists_congr fun pattern => and_congr_right fun _ => ?_
    rw [HasInvalidPattern, exists_mapping_iff fun h => not_isGiven_nil h.1]
    rfl
  rw [← fault?_eq_some_iff, fault?_ofYaml, Option.or_eq_some_iff, Option.or_eq_some_iff,
    Option.or_eq_none_iff, Option.eq_none_iff_forall_ne_some, Option.eq_none_iff_forall_ne_some]
  simp only [ne_eq, hsubstitution, hparents, hpattern]
  constructor
  · rintro ((⟨rfl, hlacks⟩ | ⟨hsub, rfl, hbare⟩) | ⟨⟨hsub, hal⟩, pattern, rfl, hinvalid⟩)
    · exact .substitution hlacks
    · exact .parents (fun hlacks => hsub _ ⟨rfl, hlacks⟩) hbare
    · exact .pattern (fun hlacks => hsub _ ⟨rfl, hlacks⟩) (fun hbare => hal _ ⟨rfl, hbare⟩) hinvalid
  · intro h
    cases h with
    | substitution hlacks => exact .inl (.inl ⟨rfl, hlacks⟩)
    | parents hsub hbare => exact .inl (.inr ⟨fun _ h => hsub h.2, rfl, hbare⟩)
    | pattern hsub hbare hinvalid =>
        exact .inr ⟨⟨fun _ h => hsub h.2, fun _ h => hbare h.2⟩, _, rfl, hinvalid⟩

end Named

end Settings

end ApiPages
