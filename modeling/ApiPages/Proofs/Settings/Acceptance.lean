import ApiPages.Proofs.Settings.Refusal

namespace ApiPages

open Outcome Yaml

-- The shapes in which a settings file tells something. Those of an address and of a page are not
-- among them, as these stand under a key among others.
inductive Settings.Shape where
  | names
  | parents
  | text
  -- A text that is a pattern.
  | pattern
  -- A text that says something.
  | given
  | directory

namespace Setting

def shape? : Setting → Option Settings.Shape
  | address _ | substitutionPage _ => none
  | simple | hideConstructor | templateless | inline | excludedVariables | extensions => some .names
  | parentAliases => some .parents
  | editPattern => some .pattern
  | editTemplate => some .text
  | substitutionName | substitutionDefault | highlightMark => some .given
  | outputDir | templatesDir => some .directory

-- What a setting is when it is missing.
def missing (root : Path) : Setting → Option SettingValue
  | simple | hideConstructor | templateless | inline | excludedVariables | extensions =>
    some (.texts [])
  | parentAliases => some (.aliases [])
  | editPattern => some (.pattern none)
  | address _ | editTemplate => some (.text none)
  | substitutionName | substitutionDefault | substitutionPage _ => none
  | highlightMark => some (.text (some Settings.defaultMark))
  | outputDir => some (.directory (some (root.child Settings.defaultOutput)))
  | templatesDir => some (.directory none)

end Setting

namespace Settings

variable {root : Path} {members : Members} {settings : Settings} {setting : Setting} {shape : Shape}
  {value : Yaml} {items : List Yaml} {texts : List String} {name text : String} {v : SettingValue}

-- The texts of the single values of a list, in order.
inductive AreTextsOf : List Yaml → List String → Prop
  | nil : AreTextsOf [] []
  | single (scalar : Scalar) {items : List Yaml} {texts : List String}
      (rest : AreTextsOf items texts) : AreTextsOf (.scalar scalar :: items) (scalar.plain :: texts)
  | other {item : Yaml} {items : List Yaml} {texts : List String}
      (h : ∀ scalar, item ≠ .scalar scalar) (rest : AreTextsOf items texts) :
      AreTextsOf (item :: items) texts

-- What a value tells in a shape; a value of another shape tells nothing.
inductive Tells [CharacterNames] (root : Path) : Shape → Yaml → SettingValue → Prop
  | name (text : String) : Tells root .names (.text text) (.texts [text])
  | names {items : List Yaml} {texts : List String} (h : AreTextsOf items texts) :
      Tells root .names (.list items) (.texts texts)
  | parents {entries : List Yaml} {parents : List ParentAlias}
      (h : List.Forall₂ IsAliasOf entries parents) :
      Tells root .parents (.list entries) (.aliases parents)
  | text (scalar : Scalar) : Tells root .text (.scalar scalar) (.text (some scalar.plain))
  | pattern (scalar : Scalar) {pattern : Pattern} {groups : Nat}
      (h : Pattern.read? scalar.plain = some (pattern, groups)) :
      Tells root .pattern (.scalar scalar)
        (.pattern (some { text := scalar.plain, pattern, groups }))
  | given (scalar : Scalar) (h : scalar.plain ≠ "") :
      Tells root .given (.scalar scalar) (.text (some scalar.plain))
  | directory (scalar : Scalar) (h : scalar.plain ≠ "") :
      Tells root .directory (.scalar scalar) (.directory (some (root.child scalar.plain)))

-- A text that a value names: it is the text, or has a single item of that text.
def Names (value : Yaml) (text : String) : Prop :=
  value = .text text ∨
    ∃ items, value = .list items ∧ ∃ scalar, .scalar scalar ∈ items ∧ scalar.plain = text

-- What the last member for a name tells that tells something.
def IsLastOf (tells : Yaml → String → Prop) (members : Members) (name text : String) : Prop :=
  ∃ before key value after, members = before ++ (key, value) :: after ∧ key.plain = name ∧
    tells value text ∧ ∀ member ∈ after, member.1.plain = name → ∀ other, ¬ tells member.2 other

-- The settings are those that the members tell.
structure Describes [CharacterNames] (root : Path) (members : Members) (settings : Settings) :
    Prop where
  place : settings.root = root
  names : ∀ (setting : Setting) texts, setting.valueIn settings = some (.texts texts) →
    ∀ text, text ∈ texts ↔
      ∃ value, follow setting.path (.mapping members) = some value ∧ Names value text
  external : ∀ name url, settings.tables.external.lookup name = some url ↔
    ∃ inner, follow ["types", "external"] (.mapping members) = some (.mapping inner) ∧
      IsLastOf (fun value url => value = .text url) inner name url
  substitution : settings.tables.substitution.isSome = true ↔
    ∃ inner, find (.text "substitution") members = some (.mapping inner) ∧ inner ≠ []
  pages : ∀ substitution, settings.tables.substitution = some substitution → ∀ page target,
    substitution.pages.lookup page = some target ↔
      ∃ inner, follow ["substitution", "pages"] (.mapping members) = some (.mapping inner) ∧
        IsLastOf (fun value target => value.plain = target) inner page target
  told : ∀ (setting : Setting) shape, setting.shape? = some shape → ∀ value v,
    follow setting.path (.mapping members) = some value → Tells root shape value v →
      setting.valueIn settings = some v
  untold : ∀ (setting : Setting) shape, setting.shape? = some shape →
    (∀ value v, follow setting.path (.mapping members) = some value → ¬ Tells root shape value v) →
      setting.valueIn settings = setting.missing root

theorem areTextsOf_filterMap (items : List Yaml) : AreTextsOf items (items.filterMap textOf?) := by
  induction items with
  | nil => exact .nil
  | cons item items ih =>
      cases item with
      | scalar scalar => exact .single scalar ih
      | _ => exact .other (fun _ h => by cases h) ih

theorem AreTextsOf.filterMap_eq (h : AreTextsOf items texts) : items.filterMap textOf? = texts := by
  induction h with
  | nil => rfl
  | single scalar _ ih => rw [List.filterMap_cons, textOf?, ih]
  | @other item items texts hother _ ih =>
      have hnone : textOf? item = none := by
        cases item with
        | scalar scalar => exact absurd rfl (hother scalar)
        | _ => rfl
      rw [List.filterMap_cons, hnone, ih]

theorem mem_textsOf_iff : text ∈ textsOf value ↔ Names value text := by
  have hitem : ∀ item, textOf? item = some text ↔
      ∃ scalar, item = .scalar scalar ∧ scalar.plain = text := by
    intro item
    cases item <;> simp [textOf?]
  cases value with
  | scalar scalar =>
      cases scalar with
      | text s => simp [textsOf, Names, eq_comm]
      | _ => simp [textsOf, Names]
  | list items =>
      simp only [textsOf, Names, List.mem_filterMap, hitem, reduceCtorEq, false_or, Yaml.list.injEq,
        exists_eq_left']
      constructor
      · rintro ⟨_, hmem, scalar, rfl, hplain⟩
        exact ⟨scalar, hmem, hplain⟩
      · rintro ⟨scalar, hmem, hplain⟩
        exact ⟨_, hmem, scalar, rfl, hplain⟩
  | _ => simp [textsOf, Names]

theorem not_isLastOf_nil {tells : Yaml → String → Prop} : ¬ IsLastOf tells [] name text := by
  rintro ⟨before, key, value, after, h, -⟩
  cases before <;> cases h

-- One more member holds for its name if it tells something.
theorem isLastOf_concat {tells : Yaml → String → Prop} {key : Key} :
    IsLastOf tells (members ++ [(key, value)]) name text ↔
      (key.plain = name ∧ tells value text) ∨
        ((key.plain = name → ∀ other, ¬ tells value other) ∧ IsLastOf tells members name text) := by
  constructor
  · rintro ⟨before, found, inner, after, hmembers, hplain, htells, hafter⟩
    rcases List.eq_nil_or_concat after with rfl | ⟨after, last, rfl⟩
    · obtain ⟨rfl, hlast⟩ := List.append_inj' hmembers rfl
      cases hlast
      exact .inl ⟨hplain, htells⟩
    · have hsplit : members ++ [(key, value)] = (before ++ (found, inner) :: after) ++ [last] := by
        simpa using hmembers
      obtain ⟨rfl, hlast⟩ := List.append_inj' hsplit rfl
      cases hlast
      have hbefore : ∀ member ∈ after, member.1.plain = name → ∀ other, ¬ tells member.2 other :=
        fun member hmember => hafter member (by simp [hmember])
      exact .inr ⟨hafter (key, value) (by simp), before, found, inner, after, rfl, hplain, htells,
        hbefore⟩
  · rintro (⟨hplain, htells⟩ | ⟨hnone, before, found, inner, after, rfl, hplain, htells, hafter⟩)
    · exact ⟨members, key, value, [], rfl, hplain, htells, fun _ h => absurd h List.not_mem_nil⟩
    · refine ⟨before, found, inner, after ++ [(key, value)], by simp, hplain, htells, ?_⟩
      intro member hmember
      rcases List.mem_append.mp hmember with h | h
      · exact hafter member h
      · rw [List.mem_singleton] at h
        subst h
        exact hnone

-- A text is given in place or at the end, and so it is the last one that is looked up.
theorem lookup_foldl_addText_iff {textOf : Yaml → Option String} {tells : Yaml → String → Prop}
    (htells : ∀ value text, textOf value = some text ↔ tells value text) (members : Members)
    (name text : String) :
    (members.foldl (addText textOf) []).lookup name = some text ↔
      IsLastOf tells members name text := by
  induction members using List.reverseRecOn generalizing text with
  | nil => simp [not_isLastOf_nil]
  | append_singleton members member ih =>
      obtain ⟨key, value⟩ := member
      rw [List.foldl_append, List.foldl_cons, List.foldl_nil, lookup_addText, isLastOf_concat,
        Option.or_eq_some_iff, ih]
      by_cases hname : name = key.plain
      · simp [hname, htells, Option.eq_none_iff_forall_ne_some]
      · simp [hname, Ne.symm hname]

theorem lookup_textMembers_iff {textOf : Yaml → Option String} {tells : Yaml → String → Prop}
    (htells : ∀ value text, textOf value = some text ↔ tells value text) (path : List String) :
    (textMembers textOf (path.foldl Yaml.get value)).lookup name = some text ↔
      ∃ inner, follow path value = some (.mapping inner) ∧ IsLastOf tells inner name text := by
  rw [exists_mapping_iff not_isLastOf_nil, getD_follow]
  exact lookup_foldl_addText_iff htells _ name text

theorem given_scalar {scalar : Scalar} (htext : scalar.plain ≠ "") :
    given (textOf? (.scalar scalar)) = some scalar.plain := by
  simp [given, textOf?, htext]

theorem given_textOf?_cases (value : Yaml) :
    given (textOf? value) = none ∨ ∃ scalar, value = .scalar scalar ∧ scalar.plain ≠ "" := by
  cases value with
  | scalar scalar =>
      by_cases htext : scalar.plain = ""
      · exact .inl (by simp [given, textOf?, htext])
      · exact .inr ⟨scalar, rfl, htext⟩
  | _ => exact .inl rfl

theorem hasPlace_of_shape? (h : setting.shape? = some shape) : setting.hasPlace = true := by
  cases setting <;> first | rfl | cases h

theorem missing_of_isSubstitution (h : setting.isSubstitution = true) :
    setting.missing root = none := by
  cases setting <;> first | rfl | cases h

theorem isSome_readSubstitution {found : Option Substitution}
    (h : readSubstitution value = .ok found) : found.isSome = true ↔ value.members ≠ [] := by
  unfold readSubstitution at h
  split at h
  · rename_i hempty
    cases h
    simp [List.isEmpty_iff.mp hempty]
  · rename_i hmembers
    split at h
    · cases h
      simpa using hmembers
    · cases h

section Named

variable [CharacterNames]

theorem read_names (h : setting.shape? = some .names) (found : Option Yaml) :
    setting.read root found = .ok (.texts (textsOf (found.getD .null))) := by
  cases setting <;> first | rfl | cases h

theorem read_parents (h : setting.shape? = some .parents) (found : Option Yaml) :
    setting.read root found = .aliases <$> (found.getD .null).items.mapM readAlias := by
  cases setting <;> first | rfl | cases h

theorem read_text (h : setting.shape? = some .text) (found : Option Yaml) :
    setting.read root found = .ok (.text (textOf? (found.getD .null))) := by
  cases setting <;> first | rfl | cases h

theorem read_pattern (h : setting.shape? = some .pattern) (found : Option Yaml) :
    setting.read root found = .pattern <$> (textOf? (found.getD .null)).mapM readPattern := by
  cases setting <;> first | rfl | cases h

theorem readPattern_eq_ok_iff {written : WrittenPattern} : readPattern text = .ok written ↔
    ∃ pattern groups, Pattern.read? text = some (pattern, groups) ∧
      written = { text, pattern, groups } := by
  unfold readPattern
  cases Pattern.read? text with
  | none => simp
  | some found => simp [Prod.ext_iff, eq_comm, and_assoc]

-- The other settings ask for a text that says something, and say themselves what else they are.
theorem read_of_given (h : setting.shape? = some .given ∨ setting.shape? = some .directory)
    (hnone : given (textOf? value) = none) :
    setting.read root (some value) = setting.read root none := by
  cases setting with
  | substitutionName | substitutionDefault | highlightMark | outputDir | templatesDir =>
      simp only [Setting.read, Setting.text?, Option.getD_some, hnone]
      rfl
  | _ => rcases h with h | h <;> cases h

-- What a value tells is what is read.
theorem read_eq_of_tells (h : setting.shape? = some shape) (htells : Tells root shape value v) :
    setting.read root (some value) = .ok v := by
  cases htells with
  | name text => exact read_names h _
  | names htexts => rw [read_names h, Option.getD_some, textsOf, htexts.filterMap_eq]
  | @parents entries parents hparents =>
      have hread : entries.mapM readAlias = .ok parents :=
        mapM_eq_ok_iff.mpr (hparents.imp fun _ _ => readAlias_eq_ok_iff.mpr)
      rw [read_parents h, Option.getD_some, Yaml.items, hread]
      rfl
  | text scalar => exact read_text h _
  | pattern scalar hpattern =>
      have hread := readPattern_eq_ok_iff.mpr ⟨_, _, hpattern, rfl⟩
      rw [read_pattern h, Option.getD_some, textOf?, Option.mapM_some, hread]
      rfl
  | given scalar htext =>
      have hgiven := given_scalar htext
      cases setting <;> cases h
      all_goals simp only [Setting.read, Setting.text?, Option.getD_some, hgiven]
  | directory scalar htext =>
      have hgiven := given_scalar htext
      cases setting <;> cases h
      all_goals simp only [Setting.read, Setting.text?, Option.getD_some, hgiven, Option.map_some]

-- What is read is told by the value, or else is what is read of nothing.
theorem tells_or_read_none (h : setting.shape? = some shape)
    (hread : setting.read root (some value) = .ok v) :
    Tells root shape value v ∨ setting.read root none = .ok v := by
  have htold : ∀ {w}, Tells root shape value w → Tells root shape value v := by
    intro w hw
    rwa [Except.ok.inj (hread.symm.trans (read_eq_of_tells h hw))]
  cases shape with
  | names =>
      rw [read_names h] at hread ⊢
      cases value with
      | scalar scalar =>
          cases scalar with
          | text s => exact .inl (htold (.name s))
          | _ => exact .inr hread
      | list items => exact .inl (htold (.names (areTextsOf_filterMap items)))
      | _ => exact .inr hread
  | parents =>
      rw [read_parents h] at hread ⊢
      cases value with
      | list entries =>
          obtain ⟨parents, hparents, -⟩ := map_eq_ok_iff.mp hread
          have hentries := (mapM_eq_ok_iff.mp hparents).imp fun _ _ => readAlias_eq_ok_iff.mp
          exact .inl (htold (.parents hentries))
      | _ => exact .inr hread
  | text =>
      rw [read_text h] at hread ⊢
      cases value with
      | scalar scalar => exact .inl (htold (.text scalar))
      | _ => exact .inr hread
  | pattern =>
      rw [read_pattern h] at hread ⊢
      cases value with
      | scalar scalar =>
          obtain ⟨_, hwritten, -⟩ := map_eq_ok_iff.mp hread
          rw [Option.getD_some, textOf?, Option.mapM_some, map_eq_ok_iff] at hwritten
          obtain ⟨_, hpattern, -⟩ := hwritten
          obtain ⟨pattern, groups, hpattern, -⟩ := readPattern_eq_ok_iff.mp hpattern
          exact .inl (htold (.pattern scalar hpattern))
      | _ => exact .inr hread
  | given =>
      rcases given_textOf?_cases value with hnone | ⟨scalar, rfl, htext⟩
      · exact .inr (read_of_given (.inl h) hnone ▸ hread)
      · exact .inl (htold (.given scalar htext))
  | directory =>
      rcases given_textOf?_cases value with hnone | ⟨scalar, rfl, htext⟩
      · exact .inr (read_of_given (.inr h) hnone ▸ hread)
      · exact .inl (htold (.directory scalar htext))

theorem read_none (root : Path) (h : setting.shape? = some shape)
    (hsubstitution : setting.isSubstitution = false) :
    ∃ v, setting.missing root = some v ∧ setting.read root none = .ok v := by
  cases setting with
  | address name | substitutionPage page => cases h
  | substitutionName | substitutionDefault => cases hsubstitution
  | _ => exact ⟨_, rfl, rfl⟩

-- The parts of a substitution are there with it, and nothing is read as none of them.
theorem valueIn_of_read_none (hshape : setting.shape? = some shape)
    (h : setting.isSubstitution = true)
    (hread : ∀ v, setting.valueIn settings = some v → setting.read root none = .ok v) :
    setting.valueIn settings = none := by
  by_cases hfound : ∃ found, settings.tables.substitution = some found
  · obtain ⟨found, hfound⟩ := hfound
    cases setting with
    | substitutionName | substitutionDefault =>
        cases hread _ (by rw [Setting.valueIn, hfound, Option.map_some])
    | substitutionPage page => cases hshape
    | _ => cases h
  · have hnone : settings.tables.substitution = none :=
      Option.eq_none_iff_forall_ne_some.mpr (not_exists.mp hfound)
    cases setting with
    | substitutionName | substitutionDefault => rw [Setting.valueIn, hnone, Option.map_none]
    | substitutionPage page => cases hshape
    | _ => cases h

theorem texts_of_read {found : Option Yaml} (h : setting.read root found = .ok (.texts texts)) :
    textsOf (found.getD .null) = texts := by
  cases setting with
  | parentAliases | editPattern =>
      obtain ⟨_, -, hfound⟩ := map_eq_ok_iff.mp h
      cases hfound
  | _ => first | exact SettingValue.texts.inj (Except.ok.inj h) | cases h

section Contents

variable (h : ofYaml root (.mapping members) = .ok settings)

include h

theorem mem_texts_iff (hv : setting.valueIn settings = some (.texts texts)) (text : String) :
    text ∈ texts ↔
      ∃ value, follow setting.path (.mapping members) = some value ∧ Names value text := by
  have hplace : setting.hasPlace = true := by
    cases setting with
    | address => cases hv
    | substitutionPage page =>
        obtain ⟨_, -, hfound⟩ := Option.map_eq_some_iff.mp hv
        cases hfound
    | _ => rfl
  rw [← texts_of_read (read_follow_place h hplace hv), mem_textsOf_iff]
  cases follow setting.path (.mapping members) with
  | none => simp [Names]
  | some value => simp

theorem isSome_substitution_iff : settings.tables.substitution.isSome = true ↔
    ∃ inner, find (.text "substitution") members = some (.mapping inner) ∧ inner ≠ [] := by
  obtain ⟨substitution, _, hsubstitution, -, htables, -⟩ := ofYaml_parts h
  rw [htables, isSome_readSubstitution hsubstitution, exists_mapping_iff (by simp)]
  rfl

-- A setting that is only there with the substitution is not told unless the substitution is there.
theorem valueIn_eq_some {found : Yaml} (hshape : setting.shape? = some shape)
    (hfollow : follow setting.path (.mapping members) = some found) :
    ∃ v, setting.valueIn settings = some v := by
  rw [← Option.isSome_iff_exists, valueIn_isSome]
  intro hsubstitution
  cases setting with
  | substitutionName | substitutionDefault =>
      exact isSome_substitution h hfollow (List.cons_ne_nil _ _)
  | substitutionPage page => cases hshape
  | _ => cases hsubstitution

theorem valueIn_of_tells (hshape : setting.shape? = some shape)
    (hfollow : follow setting.path (.mapping members) = some value)
    (htells : Tells root shape value v) : setting.valueIn settings = some v := by
  obtain ⟨w, hw⟩ := valueIn_eq_some h hshape hfollow
  have hread := read_follow_place h (hasPlace_of_shape? hshape) hw
  rw [hfollow, read_eq_of_tells hshape htells] at hread
  rw [hw, Except.ok.inj hread]

theorem valueIn_of_untold (hshape : setting.shape? = some shape)
    (huntold : ∀ value v, follow setting.path (.mapping members) = some value →
      ¬ Tells root shape value v) : setting.valueIn settings = setting.missing root := by
  have hread : ∀ v, setting.valueIn settings = some v → setting.read root none = .ok v := by
    intro v hv
    have hread := read_follow_place h (hasPlace_of_shape? hshape) hv
    cases hfollow : follow setting.path (.mapping members) with
    | none => rwa [hfollow] at hread
    | some value =>
        rw [hfollow] at hread
        exact (tells_or_read_none hshape hread).resolve_left (huntold value v hfollow)
  by_cases hsubstitution : setting.isSubstitution = true
  · rw [valueIn_of_read_none hshape hsubstitution hread, missing_of_isSubstitution hsubstitution]
  · rw [Bool.not_eq_true] at hsubstitution
    obtain ⟨v, hmissing, hnone⟩ := read_none root hshape hsubstitution
    obtain ⟨w, hw⟩ := Option.isSome_iff_exists.mp
      ((valueIn_isSome setting settings).mpr fun h => by rw [hsubstitution] at h; cases h)
    rw [hmissing, hw, Except.ok.inj (hnone.symm.trans (hread w hw))]

theorem describes_of_ofYaml : Describes root members settings := by
  have hplace : settings.root = root := by
    simp only [ofYaml, bind_eq_ok_iff, pure_eq_ok_iff] at h
    obtain ⟨_, -, _, -, rfl⟩ := h
    rfl
  obtain ⟨substitution, _, hsubstitution, -, htables, -⟩ := ofYaml_parts h
  refine ⟨hplace, fun _ _ => mem_texts_iff h, fun name url => ?_, isSome_substitution_iff h,
    fun found hfound page target => ?_, fun _ _ hshape _ _ => valueIn_of_tells h hshape,
    fun _ _ => valueIn_of_untold h⟩
  · rw [htables]
    refine lookup_textMembers_iff (fun value text => ?_) ["types", "external"]
    cases value with
    | scalar scalar => cases scalar <;> simp [addressOf?]
    | _ => simp [addressOf?]
  · rw [htables] at hfound
    change substitution = some found at hfound
    rw [hfound] at hsubstitution
    rw [(readSubstitution_parts hsubstitution).2.2]
    exact lookup_textMembers_iff (fun value text => by simp) ["substitution", "pages"]

end Contents

-- Settings are refused for a substitution, an alias or a pattern, and else they are what they tell.
theorem ofYaml_refuses_or_describes (root : Path) (members : Members) :
    ((∃ error, ofYaml root (.mapping members) = .error error) ↔
      LacksSubstitute members ∨ HasBareAlias members ∨
        ∃ pattern, HasInvalidPattern members pattern) ∧
    (∀ error, ofYaml root (.mapping members) = .error error ↔ Refuses members error) ∧
    (¬ (LacksSubstitute members ∨ HasBareAlias members ∨
        ∃ pattern, HasInvalidPattern members pattern) →
      ∃ settings, ofYaml root (.mapping members) = .ok settings ∧
        Describes root members settings) := by
  have hrefused : (∃ error, ofYaml root (.mapping members) = .error error) ↔
      LacksSubstitute members ∨ HasBareAlias members ∨
        ∃ pattern, HasInvalidPattern members pattern := by
    simp only [ofYaml_eq_error_iff, refuses_iff]
  refine ⟨hrefused, ofYaml_eq_error_iff root members, fun haccepted => ?_⟩
  rw [← hrefused, not_exists] at haccepted
  cases hsettings : ofYaml root (.mapping members) with
  | error error => exact absurd hsettings (haccepted error)
  | ok settings => exact ⟨settings, rfl, describes_of_ofYaml hsettings⟩

end Named

section Cases

attribute [local instance] noCharacterNames

-- A truth value and a number are texts in a list of names, null is none; a mapping names nothing.
example : (ofYaml {} (.mapping [(.text "types", .mapping
      [(.text "simple", .list [.scalar (.bool true), .null, .scalar (.int 3)]),
       (.text "inline", .mapping [(.text "a", .text "b")])])])).map
    (fun settings => (settings.tables.simple, settings.tables.inline)) = .ok (["True", "3"], []) := rfl

-- Two flags exclude each other.
example : HasInvalidPattern
    [(.text "edit_url", .mapping [(.text "pattern", .text "(?au)x")])] "(?au)x" :=
  ⟨_, rfl, ⟨⟨.text "(?au)x", rfl, rfl⟩, by decide⟩, Option.isNone_iff_eq_none.mp (by decide +kernel)⟩

end Cases

end Settings

end ApiPages
