import ApiPages.Proofs.Model.Writing

namespace ApiPages

open Json Outcome

-- What a mapping is read as.
inductive Role where
  | type
  | declaration
  | signature
  | flags
  | comment
  | source

-- How a member is gone into: it is taken as it is, it is a mapping, a list of mappings, or a
-- mapping that stands alone or first in a list.
inductive Access where
  | value
  | mapping (role : Role)
  | sequence (role : Role)
  | leading (role : Role)

namespace Role

-- The type parameters have two names. The second is only looked at where the first says nothing.
def parameters (json : Json) : List (String × Access) :=
  if (json.get "typeParameters").isVoid then
    [("typeParameters", .value), ("typeParameter", .sequence .declaration)]
  else [("typeParameters", .sequence .declaration)]

def ofTag : Json → List (String × Access)
  | .text "reference" =>
    [("name", .value), ("typeArguments", .sequence .type), ("symbolFullyQualifiedName", .value),
     ("reflection", .mapping .declaration), ("id", .value)]
  | .text "stringLiteral" => [("value", .value)]
  | .text "intrinsic" => [("name", .value)]
  | .text "typeParameter" => [("name", .value)]
  | .text "indexedAccess" => [("objectType", .mapping .type), ("indexType", .mapping .type)]
  | .text "union" => [("types", .sequence .type)]
  | .text "intersection" => [("types", .sequence .type)]
  | .text "array" => [("elementType", .mapping .type)]
  | .text "tuple" => [("elements", .sequence .type)]
  | .text "reflection" => [("declaration", .mapping .declaration)]
  | .text "conditional" =>
    [("checkType", .mapping .type), ("extendsType", .mapping .type),
     ("trueType", .mapping .type), ("falseType", .mapping .type)]
  | .text "typeOperator" => [("operator", .value), ("target", .mapping .type)]
  | .text "query" => [("queryType", .mapping .type)]
  | _ => []

-- The members that are read in a mapping, which depend on its tag and its type parameters.
def reads (json : Json) : Role → List (String × Access)
  | type => ("type", .value) :: ofTag (json.get "type")
  | declaration =>
    [("name", .value), ("kindString", .value), ("type", .mapping .type),
     ("signatures", .sequence .signature), ("children", .sequence .declaration),
     ("extendedTypes", .sequence .type), ("indexSignature", .leading .signature),
     ("sources", .sequence .source), ("id", .value), ("flags", .mapping .flags),
     ("comment", .mapping .comment)] ++ parameters json
  | signature =>
    [("name", .value), ("kindString", .value), ("parameters", .sequence .declaration),
     ("type", .mapping .type), ("comment", .mapping .comment)] ++ parameters json
  | flags => [("isOptional", .value), ("isStatic", .value)]
  | comment => [("shortText", .value), ("text", .value), ("returns", .value)]
  | source => [("fileName", .value)]

theorem parameters_lookup {json : Json} {name : String} {access : Access}
    (h : (parameters json).lookup name = some access) :
    (reads json .declaration).lookup name = some access ∧
      (reads json .signature).lookup name = some access := by
  have hname : name = "typeParameters" ∨ name = "typeParameter" := by
    unfold parameters at h
    split at h
    all_goals
      simp only [List.lookup_cons] at h
      grind
  rcases hname with rfl | rfl
  · exact ⟨h, h⟩
  · exact ⟨h, h⟩

def access (role : Role) (json : Json) (name : String) : Access :=
  ((role.reads json).lookup name).getD .value

end Role

-- The second value is the first one with the members of its mappings in any order and with members
-- added that are not read where they stand, at any depth.
inductive Varied : Access → Json → Json → Prop
  | same {access : Access} {json : Json} : Varied access json json
  | mapping {role : Role} {members members' : List (String × Json)} (revised : String → Json)
      (added : List (String × Json))
      (inside : ∀ member ∈ members,
        Varied (role.access (.object members) member.1) member.2 (revised member.1))
      (unread : ∀ member ∈ added, (role.reads (.object members)).lookup member.1 = none)
      (distinct : (members'.map Prod.fst).Nodup)
      (order : members'.Perm
        (members.map (fun member => (member.1, revised member.1)) ++ added)) :
      Varied (.mapping role) (.object members) (.object members')
  | sequence {role : Role} {items items' : List Json} (length : items.length = items'.length)
      (inside : ∀ pair ∈ items.zip items', Varied (.mapping role) pair.1 pair.2) :
      Varied (.sequence role) (.list items) (.list items')
  -- A mapping without members stands for nothing here, so that nothing may be added to it.
  | leading {role : Role} {json json' : Json} (given : json.isVoid = false)
      (inside : Varied (.mapping role) json json') : Varied (.leading role) json json'
  | first {role : Role} {item item' : Json} (rest : List Json) (given : item.isVoid = false)
      (inside : Varied (.mapping role) item item') :
      Varied (.leading role) (.list (item :: rest)) (.list (item' :: rest))

namespace Json

variable {name : String} {value : Json} {members : List (String × Json)}

theorem mem_of_lookup (h : lookup name members = some value) : (name, value) ∈ members := by
  induction members with
  | nil => cases h
  | cons member rest ih =>
      obtain ⟨key, other⟩ := member
      rw [lookup_cons] at h
      split at h
      · rename_i hkey
        cases h
        rw [hkey]
        exact List.mem_cons_self
      · exact List.mem_cons_of_mem _ (ih h)

theorem lookup_eq_none_iff : lookup name members = none ↔ name ∉ members.map Prod.fst := by
  induction members with
  | nil => simp
  | cons member rest ih =>
      obtain ⟨key, other⟩ := member
      rw [lookup_cons, List.map_cons, List.mem_cons, not_or, ← ih]
      split
      · rename_i hkey
        simp [hkey]
      · rename_i hkey
        simp [Ne.symm hkey]

theorem lookup_of_mem (hdistinct : (members.map Prod.fst).Nodup) (h : (name, value) ∈ members) :
    lookup name members = some value := by
  induction members with
  | nil => cases h
  | cons member rest ih =>
      obtain ⟨key, other⟩ := member
      rw [List.map_cons, List.nodup_cons] at hdistinct
      rw [lookup_cons]
      rcases List.mem_cons.mp h with heq | hrest
      · cases heq
        exact if_pos rfl
      · have hkey : key ≠ name := by
          intro hkey
          exact hdistinct.1 (List.mem_map.mpr ⟨(name, value), hrest, hkey.symm⟩)
        rw [if_neg hkey]
        exact ih hdistinct.2 hrest

end Json

namespace Varied

variable {role : Role} {access : Access} {json json' : Json} {name : String}

theorem eq_of_value (h : Varied .value json json') : json' = json := by
  cases h
  rfl

-- A member that is read is in both values or in neither.
theorem member (h : Varied (.mapping role) json json')
    (hname : (role.reads json).lookup name = some access) :
    (json.get? name = none ∧ json'.get? name = none) ∨
      ∃ value value', json.get? name = some value ∧ json'.get? name = some value' ∧
        Varied access value value' := by
  cases h with
  | same =>
      cases hget : json.get? name with
      | none => exact .inl ⟨rfl, rfl⟩
      | some value => exact .inr ⟨value, value, rfl, rfl, .same⟩
  | @mapping _ members members' revised added inside unread distinct order =>
      simp only [get?_object]
      cases hlookup : lookup name members with
      | some value =>
          have hmem := mem_of_lookup hlookup
          have hinside := inside _ hmem
          rw [Role.access, hname, Option.getD_some] at hinside
          have hrevised : (name, revised name) ∈ members' :=
            order.mem_iff.mpr (List.mem_append_left _ (List.mem_map_of_mem
              (f := fun member : String × Json => (member.1, revised member.1)) hmem))
          exact .inr ⟨value, revised name, rfl, lookup_of_mem distinct hrevised, hinside⟩
      | none =>
          have hold : name ∉ members.map Prod.fst := lookup_eq_none_iff.mp hlookup
          have hnew : name ∉ added.map Prod.fst := by
            intro hmem
            obtain ⟨member, hadded, rfl⟩ := List.mem_map.mp hmem
            rw [unread member hadded] at hname
            cases hname
          have hall : name ∉ members'.map Prod.fst := by
            rw [(order.map Prod.fst).mem_iff, List.map_append, List.map_map, List.mem_append]
            exact not_or.mpr ⟨hold, hnew⟩
          exact .inl ⟨rfl, lookup_eq_none_iff.mpr hall⟩

theorem get (h : Varied (.mapping role) json json') (name : String)
    (hname : (role.reads json).lookup name = some access) :
    Varied access (json.get name) (json'.get name) := by
  unfold Json.get
  rcases h.member hname with ⟨hnone, hnone'⟩ | ⟨value, value', hvalue, hvalue', hvaried⟩
  · rw [hnone, hnone']
    exact .same
  · rw [hvalue, hvalue']
    exact hvaried

theorem get?_eq (h : Varied (.mapping role) json json') (name : String)
    (hname : (role.reads json).lookup name = some .value) :
    json'.get? name = json.get? name := by
  rcases h.member hname with ⟨hnone, hnone'⟩ | ⟨value, value', hvalue, hvalue', hvaried⟩
  · rw [hnone, hnone']
  · rw [hvalue, hvalue', eq_of_value hvaried]

theorem get_eq (h : Varied (.mapping role) json json') (name : String)
    (hname : (role.reads json).lookup name = some .value) : json'.get name = json.get name :=
  eq_of_value (h.get name hname)

-- What is read of a type depends on its tag.
theorem get_of_tag (h : Varied (.mapping .type) json json') {tag : Json}
    (htag : json.get "type" = tag) (name : String)
    (hname : (("type", .value) :: Role.ofTag tag).lookup name = some access) :
    Varied access (json.get name) (json'.get name) := by
  cases htag
  exact h.get name hname

theorem get?_of_tag (h : Varied (.mapping .type) json json') {tag : Json}
    (htag : json.get "type" = tag) (name : String)
    (hname : (("type", .value) :: Role.ofTag tag).lookup name = some .value) :
    json'.get? name = json.get? name := by
  cases htag
  exact h.get?_eq name hname

theorem isObject_eq (h : Varied (.mapping role) json json') : json'.isObject = json.isObject := by
  cases h <;> rfl

theorem isVoid_of_mapping (h : Varied (.mapping role) json json') (given : json.isVoid = false) :
    json'.isVoid = false := by
  cases h with
  | same => exact given
  | @mapping _ members members' revised added inside unread distinct order =>
      cases members with
      | nil => cases given
      | cons member rest =>
          cases members' with
          | nil => cases order.length_eq
          | cons member' rest' => rfl

-- A varied list is the same value, or it has an item for each old one.
theorem sequence_cases (h : Varied (.sequence role) json json') :
    json' = json ∨ ∃ items items', json = .list items ∧ json' = .list items' ∧
      List.Forall₂ (Varied (.mapping role)) items items' := by
  cases h with
  | same => exact .inl rfl
  | @sequence _ items items' length inside =>
      have hitems : List.Forall₂ (Varied (.mapping role)) items items' :=
        List.forall₂_iff_zip.mpr ⟨length, fun hpair => inside _ hpair⟩
      exact .inr ⟨items, items', rfl, rfl, hitems⟩

theorem isVoid_of_sequence (h : Varied (.sequence role) json json') :
    json'.isVoid = json.isVoid := by
  rcases h.sequence_cases with heq | ⟨items, items', rfl, rfl, hitems⟩
  · rw [heq]
  · cases hitems <;> rfl

theorem rel_same (value : Option Json) : Option.Rel (Varied (.mapping role)) value value := by
  cases value with
  | none => exact .none
  | some part => exact .some .same

-- A varied value is there, is an object or leads a list as before.
theorem present?_rel (h : Varied (.mapping role) json json') :
    Option.Rel (Varied (.mapping role)) json.present? json'.present? := by
  cases h with
  | same => exact rel_same _
  | mapping revised added inside unread distinct order =>
      exact .some (.mapping revised added inside unread distinct order)

theorem object?_rel (h : Varied (.mapping role) json json') :
    Option.Rel (Varied (.mapping role)) json.object? json'.object? := by
  cases h with
  | same => exact rel_same _
  | mapping revised added inside unread distinct order =>
      exact .some (.mapping revised added inside unread distinct order)

theorem given?_rel (h : Varied (.mapping role) json json') (given : json.isVoid = false) :
    Option.Rel (Varied (.mapping role)) json.given? json'.given? := by
  have given' := h.isVoid_of_mapping given
  simp only [given?, given, given', Bool.false_eq_true, ite_false]
  exact .some h

theorem leading_rel (h : Varied (.leading role) json json') :
    Option.Rel (Varied (.mapping role)) json.leading.given? json'.leading.given? := by
  cases h with
  | same => exact rel_same _
  | leading given inside =>
      cases inside with
      | same => exact rel_same _
      | mapping revised added inside unread distinct order =>
          exact given?_rel (.mapping revised added inside unread distinct order) given
  | first rest given inside => exact given?_rel inside given

theorem textOf_eq (h : json'.get name = json.get name) : json'.textOf name = json.textOf name := by
  rw [textOf, textOf, h]

theorem spelled_eq (h : json'.get? name = json.get? name) :
    json'.spelled name = json.spelled name := by
  rw [spelled, spelled, h]

theorem readFlags_eq (h : Varied (.mapping .flags) json json') :
    Flags.read json' = Flags.read json := by
  rw [Flags.read, Flags.read, h.get_eq "isOptional" rfl, h.get_eq "isStatic" rfl]

theorem readComment_eq (h : Varied (.mapping .comment) json json') :
    Comment.read json' = Comment.read json := by
  unfold Comment.read
  rw [h.isObject_eq, textOf_eq (h.get_eq "shortText" rfl), textOf_eq (h.get_eq "text" rfl),
    textOf_eq (h.get_eq "returns" rfl)]

-- Only the names of the source files are read.
theorem readSources_eq (h : Varied (.sequence .source) json json') :
    readSources json' = readSources json := by
  rcases h.sequence_cases with heq | ⟨items, items', rfl, rfl, hitems⟩
  · rw [heq]
  · have hnames : items.map (·.get "fileName") = items'.map (·.get "fileName") := by
      rw [← List.forall₂_eq_eq_eq, List.forall₂_map_left_iff, List.forall₂_map_right_iff]
      exact hitems.imp fun _ _ hitem => (hitem.get_eq "fileName" rfl).symm
    have hread : ∀ items : List Json, readSources (.list items) =
        .ok (((items.map (·.get "fileName")).filter fun file => !file.isVoid).map plain) := by
      intro items
      rw [List.filter_map, List.map_map]
      rfl
    rw [hread, hread, hnames]

end Varied

-- What a value is read as, its variations are read as too.
def Keeps {α : Type} (json : Json) (read : Json → Except Fault α) (role : Role) : Prop :=
  ∀ json' a, Varied (.mapping role) json json' → read json = .ok a → read json' = .ok a

def KeepsBelow {α : Type} (json : Json) (read : Json → Except Fault α) (role : Role) : Prop :=
  ∀ part, sizeOf part < sizeOf json → Keeps part read role

section Parts

variable {α : Type} {json value' : Json} {read : Json → Except Fault α} {role : Role}
  {name : String}

theorem KeepsBelow.mapM (keeps : KeepsBelow json read role) {items items' : List Json}
    (hsize : ∀ item ∈ items, sizeOf item < sizeOf json)
    (h : List.Forall₂ (Varied (.mapping role)) items items') {results : List α}
    (hread : items.mapM read = .ok results) : items'.mapM read = .ok results := by
  rw [mapM_eq_ok_iff] at hread ⊢
  induction h generalizing results with
  | nil => exact hread
  | cons hitem _ ih =>
      cases hread with
      | cons hfirst hrest =>
          rw [List.forall_mem_cons] at hsize
          exact .cons (keeps _ hsize.1 _ _ hitem hfirst) (ih hsize.2 hrest)

theorem KeepsBelow.optional (keeps : KeepsBelow json read role) {value value' : Option Json}
    (hsize : ∀ part ∈ value, sizeOf part < sizeOf json)
    (h : Option.Rel (Varied (.mapping role)) value value') {result : Option α}
    (hread : readOptional read value = .ok result) : readOptional read value' = .ok result := by
  cases h with
  | none => exact hread
  | @some part part' h =>
      simp only [readOptional, map_eq_ok_iff] at hread ⊢
      obtain ⟨a, hpart, ha⟩ := hread
      exact ⟨a, keeps part (hsize part rfl) _ _ h hpart, ha⟩

theorem KeepsBelow.each (keeps : KeepsBelow json read role) {refuse : Json → InputError}
    (h : Varied (.sequence role) (json.get name) value') {results : List α}
    (hread : readEach read refuse (json.get name) = .ok results) :
    readEach read refuse value' = .ok results := by
  rcases h.sequence_cases with heq | ⟨items, items', hlist, rfl, hitems⟩
  · rw [heq]
    exact hread
  · have hsequence : (json.get name).sequence? = some items := by rw [hlist, sequence?]
    rw [hlist] at hread
    simp only [readEach, bind_eq_ok_iff, sequence_eq_ok_iff, sequence?, Option.some.injEq,
      exists_eq_left'] at hread ⊢
    exact keeps.mapM (fun _ => size_of_sequence? hsequence) hitems hread

theorem KeepsBelow.required (keeps : KeepsBelow json read role) {json' : Json}
    (h : Varied (.mapping role) (json.get name) (json'.get name)) {result : α}
    (hread : readRequired read json name = .ok result) :
    readRequired read json' name = .ok result := by
  have hsize : ∀ part ∈ (json.get name).present?, sizeOf part < sizeOf json :=
    fun _ => size_of_present?
  have hparts := h.present?_rel
  unfold readRequired at hread ⊢
  generalize (json.get name).present? = value, (json'.get name).present? = value' at *
  cases hparts with
  | none => cases hread
  | @some part part' hpart => exact keeps part (hsize part rfl) _ _ hpart hread

theorem KeepsBelow.listed (keeps : KeepsBelow json read role) {json' : Json}
    (h : Varied (.sequence role) (json.get name) (json'.get name)) {results : List α}
    (hread : readListed read json name = .ok results) :
    readListed read json' name = .ok results := by
  unfold readListed at hread ⊢
  rcases h.sequence_cases with heq | ⟨items, items', hlist, hlist', hitems⟩
  · rw [heq]
    split at hread
    · exact hread
    · cases hread
  · have hsequence : (json.get name).sequence? = some items := by rw [hlist, sequence?]
    rw [hlist] at hread
    rw [hlist']
    exact keeps.mapM (fun _ => size_of_sequence? hsequence) hitems hread

-- Both values hold their type parameters under the same name.
theorem KeepsBelow.parameters (keeps : KeepsBelow json Declaration.read .declaration)
    {json' : Json} (h : ∀ {name access}, (Role.parameters json).lookup name = some access →
      Varied access (json.get name) (json'.get name)) {results : List Declaration}
    (hread : readEach Declaration.read .declarationNotObject (json.get (typeParametersName json)) =
      .ok results) :
    readEach Declaration.read .declarationNotObject (json'.get (typeParametersName json')) =
      .ok results := by
  cases hvoid : (json.get "typeParameters").isVoid with
  | true =>
      have hreads : Role.parameters json =
          [("typeParameters", .value), ("typeParameter", .sequence .declaration)] := if_pos hvoid
      have hplural : json'.get "typeParameters" = json.get "typeParameters" :=
        (h (by rw [hreads]; rfl)).eq_of_value
      have hname : typeParametersName json = "typeParameter" := if_pos hvoid
      have hname' : typeParametersName json' = "typeParameter" := by
        rw [typeParametersName, hplural]
        exact hname
      rw [hname] at hread
      rw [hname']
      exact keeps.each (h (by rw [hreads]; rfl)) hread
  | false =>
      have hplural : Varied (.sequence .declaration) (json.get "typeParameters")
          (json'.get "typeParameters") := h (by simp [Role.parameters, hvoid])
      have hname : typeParametersName json = "typeParameters" := by simp [typeParametersName, hvoid]
      have hname' : typeParametersName json' = "typeParameters" := by
        simp [typeParametersName, hplural.isVoid_of_sequence, hvoid]
      rw [hname] at hread
      rw [hname']
      exact keeps.each hplural hread

end Parts

section Readers

variable {json : Json} (htype : KeepsBelow json TypeExpr.read .type)
  (hdeclaration : KeepsBelow json Declaration.read .declaration)
  (hsignature : KeepsBelow json Signature.read .signature)

include htype hdeclaration hsignature in
theorem Declaration.keeps : Keeps json Declaration.read .declaration := by
  intro json' d h hread
  rw [Declaration.read_eq] at hread ⊢
  rw [h.isObject_eq, h.get_eq "name" rfl, h.get_eq "kindString" rfl, h.get_eq "id" rfl,
    (h.get "flags" rfl).readFlags_eq, (h.get "comment" rfl).readComment_eq,
    (h.get "sources" rfl).readSources_eq]
  cases hobject : json.isObject with
  | false =>
      rw [hobject] at hread
      cases hread
  | true =>
      simp only [hobject, Bool.not_true, Bool.false_eq_true, ite_false] at hread ⊢
      split at hread
      · simp only [bind_eq_ok_iff, pure_eq_ok_iff] at hread ⊢
        obtain ⟨kind, hkind, type, htypes, signatures, hsignatures, children, hchildren,
          extendedTypes, hextended, index, hindex, parameters, hparameters, sources, hsources,
          hd⟩ := hread
        have htypes := htype.optional (fun _ => size_of_present?)
          (h.get "type" rfl).present?_rel htypes
        have hsignatures := hsignature.each (h.get "signatures" rfl) hsignatures
        have hchildren := hdeclaration.each (h.get "children" rfl) hchildren
        have hextended := htype.each (h.get "extendedTypes" rfl) hextended
        have hindex := hsignature.optional (fun _ => size_of_leading)
          (h.get "indexSignature" rfl).leading_rel hindex
        have hparameters := hdeclaration.parameters
          (fun hname => h.get _ (Role.parameters_lookup hname).1) hparameters
        exact ⟨kind, hkind, type, htypes, signatures, hsignatures, children, hchildren,
          extendedTypes, hextended, index, hindex, parameters, hparameters, sources, hsources, hd⟩
      · cases hread

include htype hdeclaration in
theorem Signature.keeps : Keeps json Signature.read .signature := by
  intro json' s h hread
  rw [Signature.read_eq] at hread ⊢
  rw [h.isObject_eq, Varied.textOf_eq (h.get_eq "name" rfl), h.get_eq "kindString" rfl,
    (h.get "comment" rfl).readComment_eq]
  cases hobject : json.isObject with
  | false =>
      rw [hobject] at hread
      cases hread
  | true =>
      simp only [hobject, Bool.not_true, Bool.false_eq_true, ite_false, bind_eq_ok_iff,
        pure_eq_ok_iff] at hread ⊢
      obtain ⟨kind, hkind, parameters, hparameters, typeParameters, htypeParameters, type, htypes,
        hs⟩ := hread
      have hparameters := hdeclaration.each (h.get "parameters" rfl) hparameters
      have htypeParameters := hdeclaration.parameters
        (fun hname => h.get _ (Role.parameters_lookup hname).2) htypeParameters
      have htypes := htype.optional (fun _ => size_of_present?)
        (h.get "type" rfl).present?_rel htypes
      exact ⟨kind, hkind, parameters, hparameters, typeParameters, htypeParameters, type, htypes,
        hs⟩

include htype hdeclaration in
theorem TypeExpr.keeps : Keeps json TypeExpr.read .type := by
  intro json' t h hread
  rw [TypeExpr.read_eq] at hread ⊢
  rw [h.isObject_eq, h.get_eq "type" rfl]
  cases hobject : json.isObject with
  | false =>
      rw [hobject] at hread
      cases hread
  | true =>
      simp only [hobject, Bool.not_true, Bool.false_eq_true, ite_false] at hread ⊢
      -- One case for each tag, in the order of the reader, and one for all others.
      split at hread
      · rename_i tag
        simp only [bind_eq_ok_iff, pure_eq_ok_iff] at hread ⊢
        obtain ⟨arguments, harguments, target, htarget, ht⟩ := hread
        have hname := Varied.textOf_eq (h.get_of_tag tag "name" rfl).eq_of_value
        have hsymbol := (h.get_of_tag tag "symbolFullyQualifiedName" rfl).eq_of_value
        have hid := (h.get_of_tag tag "id" rfl).eq_of_value
        have harguments := htype.each (h.get_of_tag tag "typeArguments" rfl) harguments
        have htarget := hdeclaration.optional (fun _ => size_of_object?)
          (h.get_of_tag tag "reflection" rfl).object?_rel htarget
        rw [hname, hsymbol, hid]
        exact ⟨arguments, harguments, target, htarget, ht⟩
      · rename_i tag
        rw [Varied.spelled_eq (h.get?_of_tag tag "value" rfl)]
        exact hread
      · rename_i tag
        rw [Varied.spelled_eq (h.get?_of_tag tag "name" rfl)]
        exact hread
      · rename_i tag
        rw [Varied.spelled_eq (h.get?_of_tag tag "name" rfl)]
        exact hread
      · rename_i tag
        simp only [bind_eq_ok_iff, pure_eq_ok_iff] at hread ⊢
        obtain ⟨object, hobject, index, hindex, ht⟩ := hread
        have hobject := htype.required (h.get_of_tag tag "objectType" rfl) hobject
        have hindex := htype.required (h.get_of_tag tag "indexType" rfl) hindex
        exact ⟨object, hobject, index, hindex, ht⟩
      · rename_i tag
        simp only [bind_eq_ok_iff, pure_eq_ok_iff] at hread ⊢
        obtain ⟨members, hmembers, ht⟩ := hread
        exact ⟨members, htype.listed (h.get_of_tag tag "types" rfl) hmembers, ht⟩
      · rename_i tag
        simp only [bind_eq_ok_iff, pure_eq_ok_iff] at hread ⊢
        obtain ⟨members, hmembers, ht⟩ := hread
        exact ⟨members, htype.listed (h.get_of_tag tag "types" rfl) hmembers, ht⟩
      · rename_i tag
        simp only [bind_eq_ok_iff, pure_eq_ok_iff] at hread ⊢
        obtain ⟨element, helement, ht⟩ := hread
        exact ⟨element, htype.required (h.get_of_tag tag "elementType" rfl) helement, ht⟩
      · rename_i tag
        simp only [bind_eq_ok_iff, pure_eq_ok_iff] at hread ⊢
        obtain ⟨elements, helements, ht⟩ := hread
        exact ⟨elements, htype.listed (h.get_of_tag tag "elements" rfl) helements, ht⟩
      · rename_i tag
        have hsize : ∀ part ∈ (json.get "declaration").object?, sizeOf part < sizeOf json :=
          fun _ => size_of_object?
        have hdeclared := (h.get_of_tag tag "declaration" rfl).object?_rel
        generalize (json.get "declaration").object? = value,
          (json'.get "declaration").object? = value' at *
        cases hdeclared with
        | none => cases hread
        | @some part part' hpart =>
            simp only [bind_eq_ok_iff, pure_eq_ok_iff] at hread ⊢
            obtain ⟨d, hd, ht⟩ := hread
            exact ⟨d, hdeclaration part (hsize part rfl) _ _ hpart hd, ht⟩
      · rename_i tag
        simp only [bind_eq_ok_iff, pure_eq_ok_iff] at hread ⊢
        obtain ⟨check, hcheck, extends_, hextends, ifTrue, htrue, ifFalse, hfalse, ht⟩ := hread
        have hcheck := htype.required (h.get_of_tag tag "checkType" rfl) hcheck
        have hextends := htype.optional (fun _ => size_of_present?)
          (h.get_of_tag tag "extendsType" rfl).present?_rel hextends
        have htrue := htype.required (h.get_of_tag tag "trueType" rfl) htrue
        have hfalse := htype.required (h.get_of_tag tag "falseType" rfl) hfalse
        exact ⟨check, hcheck, extends_, hextends, ifTrue, htrue, ifFalse, hfalse, ht⟩
      · rename_i tag
        simp only [bind_eq_ok_iff, pure_eq_ok_iff] at hread ⊢
        obtain ⟨target, htarget, ht⟩ := hread
        rw [Varied.spelled_eq (h.get?_of_tag tag "operator" rfl)]
        exact ⟨target, htype.required (h.get_of_tag tag "target" rfl) htarget, ht⟩
      · rename_i tag
        simp only [bind_eq_ok_iff, pure_eq_ok_iff] at hread ⊢
        obtain ⟨target, htarget, ht⟩ := hread
        exact ⟨target, htype.required (h.get_of_tag tag "queryType" rfl) htarget, ht⟩
      · cases hread

end Readers

-- By induction on the size, as each reader goes on to values inside the one that it reads.
theorem keeps (json : Json) :
    Keeps json TypeExpr.read .type ∧ Keeps json Declaration.read .declaration ∧
      Keeps json Signature.read .signature := by
  have htype : KeepsBelow json TypeExpr.read .type := fun part hpart => (keeps part).1
  have hdeclaration : KeepsBelow json Declaration.read .declaration :=
    fun part hpart => (keeps part).2.1
  have hsignature : KeepsBelow json Signature.read .signature :=
    fun part hpart => (keeps part).2.2
  exact ⟨TypeExpr.keeps htype hdeclaration, Declaration.keeps htype hdeclaration hsignature,
    Signature.keeps htype hdeclaration⟩
termination_by sizeOf json

-- What is written reads back, and so does every variation of it.
theorem read_written (key : ParameterKey) :
    (∀ t, (ModelPart.type t).NamesSources →
      TypeExpr.read (Written.type key t) = .ok t ∧
        ∀ json, Varied (.mapping .type) (Written.type key t) json →
          TypeExpr.read json = .ok t) ∧
    (∀ d, (ModelPart.declaration d).NamesSources →
      Declaration.read (Written.declaration key d) = .ok d ∧
        ∀ json, Varied (.mapping .declaration) (Written.declaration key d) json →
          Declaration.read json = .ok d) ∧
    ∀ s, (ModelPart.signature s).NamesSources →
      Signature.read (Written.signature key s) = .ok s ∧
        ∀ json, Varied (.mapping .signature) (Written.signature key s) json →
          Signature.read json = .ok s := by
  have hread := Written.read_hereditary key
  refine ⟨?_, ?_, ?_⟩
  · intro t h
    have ht := hread.forType t h
    exact ⟨ht, fun json hvaried => (keeps _).1 json t hvaried ht⟩
  · intro d h
    have hd := hread.forDeclaration d h
    exact ⟨hd, fun json hvaried => (keeps _).2.1 json d hvaried hd⟩
  · intro s h
    have hs := hread.forSignature s h
    exact ⟨hs, fun json hvaried => (keeps _).2.2 json s hvaried hs⟩

-- A declaration whose index signature says nothing at all.
def indexed : Declaration :=
  { name := "Store", indexSignature := some {}, typeParameters := [{ name := "T" }],
    sources := ["store.ts"] }

-- What is written for it, backwards, with members added to three of its mappings.
def indexedVariation : Json :=
  .object [("typeParameter", .text "unread"),
    ("sources", .list [.object [("line", .int 3), ("fileName", .text "store.ts")]]),
    ("typeParameters", .list [Written.declaration .plural { name := "T" }]),
    ("indexSignature", .object [("id", .int 7), ("comment", .null), ("type", .null),
      ("typeParameters", .list []), ("parameters", .list []), ("kindString", .null),
      ("name", .text "")]),
    ("extendedTypes", .list []), ("children", .list []), ("signatures", .list []),
    ("type", .null), ("comment", .null),
    ("flags", .object [("isStatic", .bool false), ("isOptional", .bool false)]),
    ("id", .null), ("kindString", .null), ("name", .text "Store")]

theorem namesSources_indexed : (ModelPart.declaration indexed).NamesSources := by
  have hsignature : (ModelPart.signature {}).NamesSources := .of_inner (by rintro _ ⟨⟩) (by simp)
  have hparameter : (ModelPart.declaration { name := "T" }).NamesSources :=
    .of_inner (by rintro _ ⟨⟩; simp) (by simp)
  refine .of_inner ?_ (by simp [indexed, hsignature, hparameter])
  rintro _ ⟨⟩
  decide

theorem varied_indexed :
    Varied (.mapping .declaration) (Written.declaration .plural indexed) indexedVariation := by
  have backwards : ∀ {members members' : List (String × Json)}, members = members'.reverse →
      members.Perm members' := by
    rintro _ members' rfl
    exact List.reverse_perm members'
  have hflags : Varied (.mapping .flags) (Written.flags {}) (indexedVariation.get "flags") := by
    refine .mapping (indexedVariation.get "flags").get [] ?_ (List.forall_mem_nil _) (by decide)
      (backwards rfl)
    exact List.forall_mem_cons.mpr ⟨.same, List.forall_mem_singleton.mpr .same⟩
  have hindex : Varied (.leading .signature) (Written.signature .plural {})
      (indexedVariation.get "indexSignature") := by
    refine .leading rfl (.mapping (indexedVariation.get "indexSignature").get
      [("id", .int 7)] ?_ (List.forall_mem_singleton.mpr rfl) (by decide)
      (backwards rfl))
    simp only [List.forall_mem_cons]
    exact ⟨.same, .same, .same, .same, .same, .same, List.forall_mem_nil _⟩
  have hsource : Varied (.mapping .source) (Written.source "store.ts")
      (.object [("line", .int 3), ("fileName", .text "store.ts")]) :=
    .mapping (fun _ => .text "store.ts") [("line", .int 3)] (List.forall_mem_singleton.mpr .same)
      (List.forall_mem_singleton.mpr rfl) (by decide) (backwards rfl)
  have hsources : Varied (.sequence .source) (.list [Written.source "store.ts"])
      (indexedVariation.get "sources") := .sequence rfl (List.forall_mem_singleton.mpr hsource)
  refine .mapping indexedVariation.get [("typeParameter", .text "unread")] ?_
    (List.forall_mem_singleton.mpr rfl) (by decide) (backwards rfl)
  simp only [List.forall_mem_cons]
  exact ⟨.same, .same, .same, hflags, .same, .same, .same, .same, .same, hindex, .same, hsources,
    List.forall_mem_nil _⟩

theorem read_written_indexed :
    (ModelPart.declaration indexed).NamesSources ∧
      Varied (.mapping .declaration) (Written.declaration .plural indexed) indexedVariation ∧
      Declaration.read indexedVariation = .ok indexed :=
  ⟨namesSources_indexed, varied_indexed,
    ((read_written .plural).2.1 indexed namesSources_indexed).2 _ varied_indexed⟩

end ApiPages
