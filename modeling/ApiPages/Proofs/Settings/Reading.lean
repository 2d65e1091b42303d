import ApiPages.Proofs.Association
import ApiPages.Proofs.Outcome
import ApiPages.Proofs.Yaml.Path
import ApiPages.Settings.Loader

namespace ApiPages

open Outcome Yaml

-- The settings, each of which has one value.
inductive Setting where
  -- The address of a type that is documented elsewhere.
  | address (name : String)
  | simple
  | hideConstructor
  | templateless
  | inline
  | substitutionName
  | substitutionDefault
  -- What the placeholder stands for on a page.
  | substitutionPage (page : String)
  | parentAliases
  | excludedVariables
  | editPattern
  | editTemplate
  | highlightMark
  | extensions
  | outputDir
  | templatesDir

inductive SettingValue where
  | text (s : Option String)
  | pattern (written : Option WrittenPattern)
  | texts (texts : List String)
  | aliases (aliases : List ParentAlias)
  | directory (path : Option Path)

namespace Setting

-- The names under which a setting stands in a settings file.
def path : Setting → List String
  | address name => ["types", "external", name]
  | simple => ["types", "simple"]
  | hideConstructor => ["types", "hide_constructor"]
  | templateless => ["types", "templateless"]
  | inline => ["types", "inline"]
  | substitutionName => ["substitution", "name"]
  | substitutionDefault => ["substitution", "default"]
  | substitutionPage page => ["substitution", "pages", page]
  | parentAliases => ["extends_aliases"]
  | excludedVariables => ["excluded_variables"]
  | editPattern => ["edit_url", "pattern"]
  | editTemplate => ["edit_url", "template"]
  | highlightMark => ["markdown", "highlight_prefix"]
  | extensions => ["markdown", "extensions"]
  | outputDir => ["output_dir"]
  | templatesDir => ["templates_dir"]

-- Whether a setting has a place of its own; an address and a page stand under a key among others.
def hasPlace : Setting → Bool
  | address _ | substitutionPage _ => false
  | _ => true

-- Whether a setting is only there when there is a substitution.
def isSubstitution : Setting → Bool
  | substitutionName | substitutionDefault | substitutionPage _ => true
  | _ => false

-- The value of a setting in the settings of a project.
def valueIn (settings : Settings) : Setting → Option SettingValue
  | address name => some (.text (settings.tables.external.lookup name))
  | simple => some (.texts settings.tables.simple)
  | hideConstructor => some (.texts settings.tables.hideConstructor)
  | templateless => some (.texts settings.tables.templateless)
  | inline => some (.texts settings.tables.inline)
  | substitutionName => settings.tables.substitution.map fun found => .text (some found.name)
  | substitutionDefault => settings.tables.substitution.map fun found => .text (some found.default)
  | substitutionPage page =>
    settings.tables.substitution.map fun found => .text (found.pages.lookup page)
  | parentAliases => some (.aliases settings.tables.parentAliases)
  | excludedVariables => some (.texts settings.tables.excludedVariables)
  | editPattern => some (.pattern settings.editUrls.pattern)
  | editTemplate => some (.text settings.editUrls.template)
  | highlightMark => some (.text (some settings.highlightMark))
  | extensions => some (.texts settings.extensions)
  | outputDir => some (.directory (some settings.outputDir))
  | templatesDir => some (.directory settings.templatesDir)

def texts (value : Option Yaml) : SettingValue := .texts (Settings.textsOf (value.getD .null))

def text? (value : Option Yaml) : Option String := Settings.textOf? (value.getD .null)

-- The value of a setting that stands in a settings file as a value, or is missing there.
def read [CharacterNames] (root : Path) (value : Option Yaml) :
    Setting → Except SettingsError SettingValue
  | address _ => .ok (.text (value.bind Settings.addressOf?))
  | simple | hideConstructor | templateless | inline | excludedVariables | extensions =>
    .ok (texts value)
  | substitutionName | substitutionDefault => .ok (.text (given (text? value)))
  | substitutionPage _ => .ok (.text (value.map Yaml.plain))
  | parentAliases => .aliases <$> (value.getD .null).items.mapM Settings.readAlias
  | editPattern => .pattern <$> (text? value).mapM Settings.readPattern
  | editTemplate => .ok (.text (text? value))
  | highlightMark => .ok (.text (some ((given (text? value)).getD Settings.defaultMark)))
  | outputDir =>
    .ok (.directory (some (root.child ((given (text? value)).getD Settings.defaultOutput))))
  | templatesDir => .ok (.directory ((given (text? value)).map root.child))

end Setting

namespace Settings

variable {root : Path} {value : Yaml} {name other text : String} {texts : List (String × String)}
  {members base overrides : Members} {settings merged : Settings}

theorem lookup_setText (name text other : String) (texts : List (String × String)) :
    (setText name text texts).lookup other =
      if other = name then some text else texts.lookup other := by
  have hassign : setText name text texts = Association.assign name text texts := by
    induction texts with
    | nil => rfl
    | cons member rest ih => rw [setText, Association.assign, ih]
  rw [hassign, Association.lookup_assign]

def addText (textOf : Yaml → Option String) (found : List (String × String))
    (member : Key × Yaml) : List (String × String) :=
  match textOf member.2 with
  | some text => setText member.1.plain text found
  | none => found

theorem lookup_addText (textOf : Yaml → Option String) (found : List (String × String))
    (key : Key) (value : Yaml) (other : String) :
    (addText textOf found (key, value)).lookup other =
      ((if other = key.plain then some value else none).bind textOf).or (found.lookup other) := by
  unfold addText
  cases htext : textOf value with
  | none => by_cases h : other = key.plain <;> simp [h, htext]
  | some text => by_cases h : other = key.plain <;> simp [h, htext, lookup_setText]

theorem lookup_foldl_addText (textOf : Yaml → Option String) (name : String)
    (h : areNamed members = true) (found : List (String × String)) :
    (members.foldl (addText textOf) found).lookup name =
      ((find (.text name) members).bind textOf).or (found.lookup name) := by
  induction members generalizing found with
  | nil => rfl
  | cons member rest ih =>
      obtain ⟨key, value⟩ := member
      obtain ⟨⟨other, rfl⟩, hfresh, -, hrest⟩ := areNamed_cons.mp h
      have hplain : (Key.text other).plain = other := rfl
      rw [List.foldl_cons, ih hrest, lookup_addText, hplain, find]
      by_cases hname : name = other
      · subst hname
        simp [hfresh]
      · have hidentity : (Key.text other).identity ≠ (Key.text name).identity := by
          simpa [Key.identity] using Ne.symm hname
        simp [hname, hidentity]

-- As every name stands there once, the text of a name is that of its one value.
theorem lookup_textMembers (textOf : Yaml → Option String) (h : areNamed value.members = true)
    (name : String) :
    (textMembers textOf value).lookup name = (find (.text name) value.members).bind textOf := by
  have hfold : textMembers textOf value = value.members.foldl (addText textOf) [] := rfl
  rw [hfold, lookup_foldl_addText textOf name h]
  simp

theorem readSubstitution_parts {found : Substitution}
    (h : readSubstitution value = .ok (some found)) :
    given (textOf? (value.get "name")) = some found.name ∧
      given (textOf? (value.get "default")) = some found.default ∧
      found.pages = textMembers (some ∘ Yaml.plain) (value.get "pages") := by
  unfold readSubstitution at h
  split at h
  · cases h
  · split at h
    · rename_i hname hdefault
      cases h
      exact ⟨hname, hdefault, rfl⟩
    · cases h

theorem valueIn_isSome (setting : Setting) (settings : Settings) :
    (setting.valueIn settings).isSome = true ↔
      setting.isSubstitution = true → settings.tables.substitution.isSome = true := by
  cases setting <;> simp [Setting.valueIn, Setting.isSubstitution]

section Named

variable [CharacterNames]

theorem ofYaml_parts (h : ofYaml root (.mapping members) = .ok settings) :
    ∃ substitution parentAliases,
      readSubstitution ((Yaml.mapping members).get "substitution") = .ok substitution ∧
      ((Yaml.mapping members).get "extends_aliases").items.mapM readAlias = .ok parentAliases ∧
      settings.tables =
        { external := textMembers addressOf? (((Yaml.mapping members).get "types").get "external"),
          simple := textsOf (((Yaml.mapping members).get "types").get "simple"),
          hideConstructor := textsOf (((Yaml.mapping members).get "types").get "hide_constructor"),
          templateless := textsOf (((Yaml.mapping members).get "types").get "templateless"),
          inline := textsOf (((Yaml.mapping members).get "types").get "inline"),
          substitution, parentAliases,
          excludedVariables := textsOf ((Yaml.mapping members).get "excluded_variables") } ∧
      (textOf? (((Yaml.mapping members).get "edit_url").get "pattern")).mapM readPattern =
        .ok settings.editUrls.pattern ∧
      settings.editUrls.template =
        textOf? (((Yaml.mapping members).get "edit_url").get "template") ∧
      settings.highlightMark =
        (given (textOf? (((Yaml.mapping members).get "markdown").get "highlight_prefix"))).getD
          defaultMark ∧
      settings.extensions = textsOf (((Yaml.mapping members).get "markdown").get "extensions") ∧
      settings.outputDir =
        root.child ((given (textOf? ((Yaml.mapping members).get "output_dir"))).getD defaultOutput) ∧
      settings.templatesDir =
        (given (textOf? ((Yaml.mapping members).get "templates_dir"))).map root.child := by
  simp only [ofYaml, readTables, readEditUrls, bind_eq_ok_iff, pure_eq_ok_iff] at h
  obtain ⟨tables, ⟨substitution, hsubstitution, aliases, haliases, rfl⟩, urls,
    ⟨pattern, hpattern, rfl⟩, rfl⟩ := h
  exact ⟨substitution, aliases, hsubstitution, haliases, rfl, hpattern, rfl, rfl, rfl, rfl, rfl⟩

-- Every setting but an address and a page has its own place in a settings file, whatever the keys
-- there are.
theorem read_follow_place (h : ofYaml root (.mapping members) = .ok settings) {setting : Setting}
    {v : SettingValue} (hplace : setting.hasPlace = true) (hv : setting.valueIn settings = some v) :
    setting.read root (follow setting.path (.mapping members)) = .ok v := by
  obtain ⟨substitution, aliases, hsubstitution, haliases, htables, hpattern, htemplate, hmark,
    hextensions, houtput, htemplates⟩ := ofYaml_parts h
  cases setting with
  | address name => cases hplace
  | substitutionPage page => cases hplace
  | parentAliases =>
      simp only [Setting.valueIn, htables, Option.some.injEq] at hv
      subst hv
      simp only [Setting.read, Setting.path, getD_follow, List.foldl_cons, List.foldl_nil, haliases]
      rfl
  | editPattern =>
      simp only [Setting.valueIn, Option.some.injEq] at hv
      subst hv
      simp only [Setting.read, Setting.path, Setting.text?, getD_follow, List.foldl_cons,
        List.foldl_nil, hpattern]
      rfl
  | substitutionName =>
      simp only [Setting.valueIn, htables, Option.map_eq_some_iff] at hv
      obtain ⟨found, rfl, rfl⟩ := hv
      rw [← (readSubstitution_parts hsubstitution).1]
      simp only [Setting.read, Setting.path, Setting.text?, getD_follow, List.foldl_cons,
        List.foldl_nil]
  | substitutionDefault =>
      simp only [Setting.valueIn, htables, Option.map_eq_some_iff] at hv
      obtain ⟨found, rfl, rfl⟩ := hv
      rw [← (readSubstitution_parts hsubstitution).2.1]
      simp only [Setting.read, Setting.path, Setting.text?, getD_follow, List.foldl_cons,
        List.foldl_nil]
  | _ =>
      simp only [Setting.valueIn, htables, htemplate, hmark, hextensions, houtput, htemplates,
        Option.some.injEq] at hv
      subst hv
      simp only [Setting.read, Setting.path, Setting.texts, Setting.text?, getD_follow,
        List.foldl_cons, List.foldl_nil]

-- Where all keys are names, so have the addresses and the pages.
theorem read_follow (hnamed : (Yaml.mapping members).isNamed = true)
    (h : ofYaml root (.mapping members) = .ok settings) {setting : Setting} {v : SettingValue}
    (hv : setting.valueIn settings = some v) :
    setting.read root (follow setting.path (.mapping members)) = .ok v := by
  obtain ⟨substitution, _, hsubstitution, -, htables, -⟩ := ofYaml_parts h
  cases setting with
  | address name =>
      have hexternal := lookup_textMembers addressOf?
        (areNamed_members (isNamed_get (isNamed_get hnamed "types") "external")) name
      have hfollow := follow_concat ["types", "external"] name (.mapping members)
      simp only [Setting.valueIn, htables, hexternal, Option.some.injEq] at hv
      subst hv
      exact congrArg (fun found => Except.ok (SettingValue.text (found.bind addressOf?))) hfollow
  | substitutionPage page =>
      simp only [Setting.valueIn, htables, Option.map_eq_some_iff] at hv
      obtain ⟨found, rfl, rfl⟩ := hv
      have hpages := lookup_textMembers (some ∘ Yaml.plain)
        (areNamed_members (isNamed_get (isNamed_get hnamed "substitution") "pages")) page
      have hfollow := follow_concat ["substitution", "pages"] page (.mapping members)
      rw [(readSubstitution_parts hsubstitution).2.2, hpages, ← Option.map_eq_bind]
      exact congrArg (fun found => Except.ok (SettingValue.text (found.map Yaml.plain))) hfollow
  | _ => exact read_follow_place h rfl hv

-- A substitution that names something is there.
theorem isSome_substitution {path : List String} {found : Yaml}
    (h : ofYaml root (.mapping members) = .ok settings)
    (hfollow : follow ("substitution" :: path) (.mapping members) = some found) (hpath : path ≠ []) :
    settings.tables.substitution.isSome = true := by
  obtain ⟨substitution, aliases, hsubstitution, -, htables, -⟩ := ofYaml_parts h
  rw [htables]
  cases path with
  | nil => exact absurd rfl hpath
  | cons name path =>
      obtain ⟨inner, hinner, hfound⟩ := Option.bind_eq_some_iff.mp hfollow
      have hget : (Yaml.mapping members).get "substitution" = inner := by
        rw [Yaml.get, hinner, Option.getD_some]
      obtain ⟨value, hvalue, -⟩ := Option.bind_eq_some_iff.mp hfound
      rw [hget] at hsubstitution
      unfold readSubstitution at hsubstitution
      split at hsubstitution
      · rename_i hempty
        rw [List.isEmpty_iff.mp hempty] at hvalue
        cases hvalue
      · split at hsubstitution
        · cases hsubstitution
          rfl
        · cases hsubstitution

end Named

end Settings

end ApiPages
