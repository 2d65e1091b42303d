import ApiPages.Proofs.Model.Reading

namespace ApiPages

open Json Outcome

namespace Json

-- The items of a list. A value that says nothing counts as the empty list, any other value is none.
def sequence? : Json → Option (List Json)
  | .list items => some items
  | value => if value.isVoid then some [] else none

-- The value, or another one where it says nothing.
def or (value other : Json) : Json := if value.isVoid then other else value

-- Everything but a number or a truth value can be walked through, and so can zero and false.
def isWalkable : Json → Bool
  | .scalar (.text _) => true
  | .scalar s => s.isVoid
  | _ => true

-- A kind is named by its text or left open.
def IsKind (value : Json) : Prop := value = .null ∨ ∃ kind : Kind, value = .text kind.text

end Json

mutual

inductive IsType : Json → Prop
  | reference {json : Json} {arguments : List Json}
      (tag : json.get "type" = .text "reference")
      (sequence : (json.get "typeArguments").sequence? = some arguments)
      (items : ∀ item ∈ arguments, IsType item)
      (target : ∀ value ∈ (json.get "reflection").object?, IsDeclaration value) : IsType json
  | literal {json : Json} (tag : json.get "type" = .text "stringLiteral") : IsType json
  | intrinsic {json : Json} (tag : json.get "type" = .text "intrinsic") : IsType json
  | parameter {json : Json} (tag : json.get "type" = .text "typeParameter") : IsType json
  | indexed {json : Json} (tag : json.get "type" = .text "indexedAccess")
      (object : IsType (json.get "objectType")) (index : IsType (json.get "indexType")) :
      IsType json
  | union {json : Json} {members : List Json} (tag : json.get "type" = .text "union")
      (list : json.get "types" = .list members) (items : ∀ item ∈ members, IsType item) :
      IsType json
  | intersection {json : Json} {members : List Json}
      (tag : json.get "type" = .text "intersection") (list : json.get "types" = .list members)
      (items : ∀ item ∈ members, IsType item) : IsType json
  | array {json : Json} (tag : json.get "type" = .text "array")
      (element : IsType (json.get "elementType")) : IsType json
  | tuple {json : Json} {elements : List Json} (tag : json.get "type" = .text "tuple")
      (list : json.get "elements" = .list elements) (items : ∀ item ∈ elements, IsType item) :
      IsType json
  | shape {json : Json} (tag : json.get "type" = .text "reflection")
      (isObject : (json.get "declaration").isObject)
      (declaration : IsDeclaration (json.get "declaration")) : IsType json
  | conditional {json : Json} (tag : json.get "type" = .text "conditional")
      (check : IsType (json.get "checkType"))
      (extends_ : ∀ value ∈ (json.get "extendsType").present?, IsType value)
      (ifTrue : IsType (json.get "trueType")) (ifFalse : IsType (json.get "falseType")) :
      IsType json
  | operator {json : Json} (tag : json.get "type" = .text "typeOperator")
      (target : IsType (json.get "target")) : IsType json
  | query {json : Json} (tag : json.get "type" = .text "query")
      (target : IsType (json.get "queryType")) : IsType json

inductive IsDeclaration : Json → Prop
  | mk {json : Json} {name : String}
      {signatures children extendedTypes typeParameters : List Json}
      (hname : json.get "name" = .text name)
      (hkind : (json.get "kindString").IsKind)
      (htype : ∀ value ∈ (json.get "type").present?, IsType value)
      (hsignatures : (json.get "signatures").sequence? = some signatures)
      (isSignature : ∀ item ∈ signatures, IsSignature item)
      (hchildren : (json.get "children").sequence? = some children)
      (isChild : ∀ item ∈ children, IsDeclaration item)
      (hextendedTypes : (json.get "extendedTypes").sequence? = some extendedTypes)
      (isParent : ∀ item ∈ extendedTypes, IsType item)
      (hindex : ∀ value ∈ (json.get "indexSignature").leading.given?, IsSignature value)
      (htypeParameters :
        ((json.get "typeParameters").or (json.get "typeParameter")).sequence? =
          some typeParameters)
      (isTypeParameter : ∀ item ∈ typeParameters, IsDeclaration item)
      (hsources : (json.get "sources").isWalkable) : IsDeclaration json

inductive IsSignature : Json → Prop
  | mk {json : Json} {parameters typeParameters : List Json}
      (isObject : json.isObject)
      (hkind : (json.get "kindString").IsKind)
      (hparameters : (json.get "parameters").sequence? = some parameters)
      (isParameter : ∀ item ∈ parameters, IsDeclaration item)
      (htypeParameters :
        ((json.get "typeParameters").or (json.get "typeParameter")).sequence? =
          some typeParameters)
      (isTypeParameter : ∀ item ∈ typeParameters, IsDeclaration item)
      (htype : ∀ value ∈ (json.get "type").present?, IsType value) : IsSignature json

end

namespace Json

variable {json value part item : Json} {name : String} {items : List Json}

-- Only an object has members.
theorem isObject_of_get {value : Json} (h : json.get name = value) (hnull : value ≠ .null) :
    json.isObject = true := by
  cases json with
  | object members => rfl
  | null => exact absurd h.symm hnull
  | scalar s => exact absurd h.symm hnull
  | list items => exact absurd h.symm hnull

theorem get_size (h : json.get name ≠ .null) : sizeOf (json.get name) < sizeOf json := by
  unfold get at h ⊢
  cases hget : json.get? name with
  | none => simp [hget] at h
  | some value => exact get?_size hget

theorem size_of_present? (h : part ∈ (json.get name).present?) : sizeOf part < sizeOf json := by
  have hnull : json.get name ≠ .null := fun hnull => by simp [hnull, present?] at h
  rw [← present?_eq_some h]
  exact get_size hnull

theorem size_of_object? (h : part ∈ (json.get name).object?) : sizeOf part < sizeOf json := by
  unfold object? at h
  split at h
  · rename_i hobject
    have hnull : json.get name ≠ .null := fun hnull => by simp [hnull, isObject] at hobject
    cases h
    exact get_size hnull
  · cases h

theorem size_leading (value : Json) : sizeOf value.leading ≤ sizeOf value := by
  unfold leading
  split
  · simp
  · simp only [Json.list.sizeOf_spec, List.cons.sizeOf_spec]
    omega
  · exact Nat.le_refl _

theorem size_of_leading (h : part ∈ (json.get name).leading.given?) :
    sizeOf part < sizeOf json := by
  unfold given? at h
  split at h
  · cases h
  · rename_i hvoid
    cases h
    have hnull : json.get name ≠ .null := fun hnull => by simp [hnull, leading, isVoid] at hvoid
    exact Nat.lt_of_le_of_lt (size_leading _) (get_size hnull)

theorem size_of_sequence? (h : (json.get name).sequence? = some items) (hi : item ∈ items) :
    sizeOf item < sizeOf json := by
  unfold sequence? at h
  split at h
  · rename_i listed hlist
    cases h
    have hnull : json.get name ≠ .null := fun hnull => by simp [hnull] at hlist
    have hget := get_size hnull
    rw [hlist] at hget
    exact size_of_listed hget hi
  · split at h
    · cases h
      cases hi
    · cases h

-- The values that are read as a sequence, and the items they have then.
theorem sequence_eq_ok_iff {refuse : Json → InputError} :
    value.sequence refuse = .ok items ↔ value.sequence? = some items := by
  cases value with
  | null => simp [sequence, sequence?, isVoid]
  | scalar s =>
      simp only [sequence, sequence?]
      cases hvoid : (scalar s).isVoid with
      | true => simp
      | false =>
          cases s with
          | text s =>
              cases hs : s.toList with
              | nil =>
                  rw [String.toList_eq_nil_iff] at hs
                  rw [hs] at hvoid
                  cases hvoid
              | cons c cs => simp [walked, hs]
          | bool b => simp [walked]
          | int n => simp [walked]
          | float x => simp [walked]
  | list items => cases items <;> simp [sequence, sequence?, walked, isVoid]
  | object members => cases members <;> simp [sequence, sequence?, walked, isVoid]

end Json

-- A reader and a grammar agree on what is smaller than a value.
def AgreeBelow {α : Type} (json : Json) (read : Json → Except Fault α) (grammar : Json → Prop) :
    Prop :=
  ∀ part, sizeOf part < sizeOf json → ((∃ a, read part = .ok a) ↔ grammar part)

section Parts

variable {α : Type} {json : Json} {read : Json → Except Fault α} {grammar : Json → Prop}

theorem AgreeBelow.optional (h : AgreeBelow json read grammar) (value : Option Json)
    (hsize : ∀ part ∈ value, sizeOf part < sizeOf json) :
    (∃ a, readOptional read value = .ok a) ↔ ∀ part ∈ value, grammar part := by
  cases value with
  | none => simp [readOptional]
  | some part =>
      have hpart := h part (hsize part rfl)
      simp [readOptional, ← hpart]

theorem AgreeBelow.each (h : AgreeBelow json read grammar) (name : String)
    (refuse : Json → InputError) :
    (∃ results, readEach read refuse (json.get name) = .ok results) ↔
      ∃ items, (json.get name).sequence? = some items ∧ ∀ item ∈ items, grammar item := by
  simp only [readEach, bind_eq_ok_iff, sequence_eq_ok_iff]
  constructor
  · rintro ⟨results, items, hitems, hresults⟩
    refine ⟨items, hitems, ?_⟩
    intro item hm
    have hread := exists_mapM_eq_ok_iff.mp ⟨results, hresults⟩ item hm
    exact (h item (size_of_sequence? hitems hm)).mp hread
  · rintro ⟨items, hitems, hall⟩
    have hread : ∀ item ∈ items, ∃ a, read item = .ok a :=
      fun item hm => (h item (size_of_sequence? hitems hm)).mpr (hall item hm)
    obtain ⟨results, hresults⟩ := exists_mapM_eq_ok_iff.mpr hread
    exact ⟨results, items, hitems, hresults⟩

theorem AgreeBelow.required (h : AgreeBelow json read grammar) (hnull : ¬ grammar .null)
    (name : String) :
    (∃ a, readRequired read json name = .ok a) ↔ grammar (json.get name) := by
  unfold readRequired
  cases hpart : (json.get name).present? with
  | none => simp [present?_eq_none hpart, hnull]
  | some part =>
      rw [present?_eq_some hpart]
      exact h part (size_of_present? hpart)

theorem AgreeBelow.listed (h : AgreeBelow json read grammar) (name : String) :
    (∃ results, readListed read json name = .ok results) ↔
      ∃ items, json.get name = .list items ∧ ∀ item ∈ items, grammar item := by
  unfold readListed
  split
  · rename_i items hlist
    have hsize : ∀ item ∈ items, sizeOf item < sizeOf json := by
      intro item hm
      have hsequence : (json.get name).sequence? = some items := by rw [hlist, sequence?]
      exact size_of_sequence? hsequence hm
    rw [exists_mapM_eq_ok_iff]
    constructor
    · intro hread
      exact ⟨items, hlist, fun item hm => (h item (hsize item hm)).mp (hread item hm)⟩
    · rintro ⟨others, hothers, hall⟩
      cases hlist.symm.trans hothers
      exact fun item hm => (h item (hsize item hm)).mpr (hall item hm)
  · rename_i hlist
    constructor
    · rintro ⟨results, hresults⟩
      cases hresults
    · rintro ⟨items, hitems, -⟩
      exact absurd hitems (hlist items)

end Parts

theorem Kind.ofText?_eq_some_iff (s : String) :
    (∃ kind, Kind.ofText? s = some kind) ↔ ∃ kind : Kind, s = kind.text := by
  have hall : ∀ kind : Kind, kind ∈ Kind.all := by
    intro kind
    cases kind <;> decide
  rw [← Option.isSome_iff_exists, Kind.ofText?, List.find?_isSome]
  constructor
  · rintro ⟨kind, -, hkind⟩
    exact ⟨kind, (of_decide_eq_true hkind).symm⟩
  · rintro ⟨kind, rfl⟩
    exact ⟨kind, hall kind, decide_eq_true rfl⟩

theorem Kind.read_ok_iff (value : Json) :
    (∃ kind, Kind.read value = .ok kind) ↔ value.IsKind := by
  unfold Kind.read IsKind
  split
  · simp
  · rename_i s
    have hkind := Kind.ofText?_eq_some_iff s
    cases htext : Kind.ofText? s with
    | none => simpa [htext] using hkind
    | some kind => simpa [htext] using hkind
  · rename_i hnull htext
    constructor
    · rintro ⟨kind, hkind⟩
      cases hkind
    · rintro (hvalue | ⟨kind, hvalue⟩)
      · exact absurd hvalue hnull
      · exact absurd hvalue (htext kind.text)

theorem readSources_ok_iff (value : Json) :
    (∃ sources, readSources value = .ok sources) ↔ value.isWalkable = true := by
  cases value with
  | scalar s =>
      cases s with
      | text s => simp [readSources, isWalkable]
      | bool b => cases b <;> simp [readSources, isWalkable, Scalar.isVoid]
      | int n =>
          cases hvoid : (Scalar.int n).isVoid <;> simp [readSources, isWalkable, hvoid]
      | float x =>
          cases hvoid : (Scalar.float x).isVoid <;> simp [readSources, isWalkable, hvoid]
  | null => simp [readSources, isWalkable]
  | list items => simp [readSources, isWalkable]
  | object members => simp [readSources, isWalkable]

theorem get_typeParametersName (json : Json) :
    json.get (typeParametersName json) =
      (json.get "typeParameters").or (json.get "typeParameter") := by
  unfold typeParametersName Json.or
  split <;> rfl

theorem not_isType_null : ¬ IsType .null := by
  intro h
  cases h <;> contradiction

section Agreement

variable {json : Json}

theorem Declaration.read_ok_iff (htype : AgreeBelow json TypeExpr.read IsType)
    (hdeclaration : AgreeBelow json Declaration.read IsDeclaration)
    (hsignature : AgreeBelow json Signature.read IsSignature) :
    (∃ d, Declaration.read json = .ok d) ↔ IsDeclaration json := by
  have htypes := htype.optional (json.get "type").present? fun _ => size_of_present?
  have hsignatures := hsignature.each "signatures" .signatureNotObject
  have hchildren := hdeclaration.each "children" .declarationNotObject
  have hextended := htype.each "extendedTypes" .typeNotObject
  have hindex := hsignature.optional (json.get "indexSignature").leading.given?
    fun _ => size_of_leading
  have hparameters := hdeclaration.each (typeParametersName json) .declarationNotObject
  rw [get_typeParametersName] at hparameters
  rw [Declaration.read_eq, get_typeParametersName]
  cases hobject : json.isObject with
  | false =>
      refine iff_of_false (by rintro ⟨d, h⟩; cases h) ?_
      rintro ⟨hname⟩
      rw [isObject_of_get hname (by simp)] at hobject
      cases hobject
  | true =>
      simp only [Bool.not_true, Bool.false_eq_true, ite_false]
      split
      · rename_i name hname
        simp only [exists_bind_eq_ok_iff, exists_pure_eq_ok, and_true, exists_and_right, htypes,
          hsignatures, hchildren, hextended, hindex, hparameters, Kind.read_ok_iff,
          readSources_ok_iff]
        constructor
        · rintro ⟨hkind, htype, ⟨_, hsignatures, isSignature⟩, ⟨_, hchildren, isChild⟩,
            ⟨_, hextended, isParent⟩, hindex, ⟨_, hparameters, isParameter⟩, hsources⟩
          exact .mk hname hkind htype hsignatures isSignature hchildren isChild hextended isParent
            hindex hparameters isParameter hsources
        · rintro ⟨-, hkind, htype, hsignatures, isSignature, hchildren, isChild, hextended,
            isParent, hindex, hparameters, isParameter, hsources⟩
          exact ⟨hkind, htype, ⟨_, hsignatures, isSignature⟩, ⟨_, hchildren, isChild⟩,
            ⟨_, hextended, isParent⟩, hindex, ⟨_, hparameters, isParameter⟩, hsources⟩
      · rename_i hunnamed
        refine iff_of_false (by rintro ⟨d, h⟩; cases h) ?_
        rintro ⟨hname⟩
        exact hunnamed _ hname

theorem Signature.read_ok_iff (htype : AgreeBelow json TypeExpr.read IsType)
    (hdeclaration : AgreeBelow json Declaration.read IsDeclaration) :
    (∃ s, Signature.read json = .ok s) ↔ IsSignature json := by
  have htypes := htype.optional (json.get "type").present? fun _ => size_of_present?
  have hparameters := hdeclaration.each "parameters" .declarationNotObject
  have htypeParameters := hdeclaration.each (typeParametersName json) .declarationNotObject
  rw [get_typeParametersName] at htypeParameters
  rw [Signature.read_eq, get_typeParametersName]
  cases hobject : json.isObject with
  | false =>
      refine iff_of_false (by rintro ⟨s, h⟩; cases h) ?_
      rintro ⟨isObject⟩
      rw [isObject] at hobject
      cases hobject
  | true =>
      simp only [Bool.not_true, Bool.false_eq_true, ite_false, exists_bind_eq_ok_iff,
        exists_pure_eq_ok, and_true, exists_and_right, htypes, hparameters, htypeParameters,
        Kind.read_ok_iff]
      constructor
      · rintro ⟨hkind, ⟨_, hparameters, isParameter⟩, ⟨_, htypeParameters, isTypeParameter⟩, htype⟩
        exact .mk hobject hkind hparameters isParameter htypeParameters isTypeParameter htype
      · rintro ⟨-, hkind, hparameters, isParameter, htypeParameters, isTypeParameter, htype⟩
        exact ⟨hkind, ⟨_, hparameters, isParameter⟩, ⟨_, htypeParameters, isTypeParameter⟩, htype⟩

theorem TypeExpr.exists_read (htype : AgreeBelow json TypeExpr.read IsType)
    (hdeclaration : AgreeBelow json Declaration.read IsDeclaration) (h : IsType json) :
    ∃ type, TypeExpr.read json = .ok type := by
  have hrequired := htype.required not_isType_null
  have hobject : json.isObject = true := by
    cases h <;> exact isObject_of_get ‹_› (by simp)
  rw [TypeExpr.read_eq, hobject]
  simp only [Bool.not_true, Bool.false_eq_true, ite_false]
  cases h with
  | reference tag sequence items target =>
      have harguments := htype.each "typeArguments" .typeNotObject
      have htarget := hdeclaration.optional (json.get "reflection").object? fun _ => size_of_object?
      simp only [tag, exists_bind_eq_ok_iff, exists_pure_eq_ok, and_true, exists_and_right,
        harguments, htarget]
      exact ⟨⟨_, sequence, items⟩, target⟩
  | literal tag =>
      simp only [tag]
      exact exists_pure_eq_ok _
  | intrinsic tag =>
      simp only [tag]
      exact exists_pure_eq_ok _
  | parameter tag =>
      simp only [tag]
      exact exists_pure_eq_ok _
  | indexed tag object index =>
      simp only [tag, exists_bind_eq_ok_iff, exists_pure_eq_ok, and_true, exists_and_right,
        hrequired]
      exact ⟨object, index⟩
  | union tag list items =>
      simp only [tag, exists_bind_eq_ok_iff, exists_pure_eq_ok, and_true, htype.listed]
      exact ⟨_, list, items⟩
  | intersection tag list items =>
      simp only [tag, exists_bind_eq_ok_iff, exists_pure_eq_ok, and_true, htype.listed]
      exact ⟨_, list, items⟩
  | array tag element =>
      simp only [tag, exists_bind_eq_ok_iff, exists_pure_eq_ok, and_true, hrequired]
      exact element
  | tuple tag list items =>
      simp only [tag, exists_bind_eq_ok_iff, exists_pure_eq_ok, and_true, htype.listed]
      exact ⟨_, list, items⟩
  | shape tag isObject declaration =>
      have hobject : (json.get "declaration").object? = some (json.get "declaration") := by
        rw [object?, if_pos isObject]
      have hread := (hdeclaration _ (size_of_object? hobject)).mpr declaration
      simp only [tag, hobject, exists_bind_eq_ok_iff, exists_pure_eq_ok, and_true]
      exact hread
  | conditional tag check extends_ ifTrue ifFalse =>
      have hextends := htype.optional (json.get "extendsType").present? fun _ => size_of_present?
      simp only [tag, exists_bind_eq_ok_iff, exists_pure_eq_ok, and_true, exists_and_right,
        hrequired, hextends]
      exact ⟨check, extends_, ifTrue, ifFalse⟩
  | operator tag target =>
      simp only [tag, exists_bind_eq_ok_iff, exists_pure_eq_ok, and_true, hrequired]
      exact target
  | query tag target =>
      simp only [tag, exists_bind_eq_ok_iff, exists_pure_eq_ok, and_true, hrequired]
      exact target

theorem TypeExpr.isType_of_read (htype : AgreeBelow json TypeExpr.read IsType)
    (hdeclaration : AgreeBelow json Declaration.read IsDeclaration)
    (h : ∃ type, TypeExpr.read json = .ok type) : IsType json := by
  have hrequired := htype.required not_isType_null
  rw [TypeExpr.read_eq] at h
  cases hobject : json.isObject with
  | false =>
      rw [hobject] at h
      obtain ⟨type, h⟩ := h
      cases h
  | true =>
      rw [hobject] at h
      simp only [Bool.not_true, Bool.false_eq_true, ite_false] at h
      split at h
      · rename_i tag
        have harguments := htype.each "typeArguments" .typeNotObject
        have htarget :=
          hdeclaration.optional (json.get "reflection").object? fun _ => size_of_object?
        simp only [exists_bind_eq_ok_iff, exists_pure_eq_ok, and_true, exists_and_right,
          harguments, htarget] at h
        obtain ⟨⟨_, sequence, items⟩, target⟩ := h
        exact .reference tag sequence items target
      · exact .literal ‹_›
      · exact .intrinsic ‹_›
      · exact .parameter ‹_›
      · rename_i tag
        simp only [exists_bind_eq_ok_iff, exists_pure_eq_ok, and_true, exists_and_right,
          hrequired] at h
        exact .indexed tag h.1 h.2
      · rename_i tag
        simp only [exists_bind_eq_ok_iff, exists_pure_eq_ok, and_true, htype.listed] at h
        obtain ⟨_, list, items⟩ := h
        exact .union tag list items
      · rename_i tag
        simp only [exists_bind_eq_ok_iff, exists_pure_eq_ok, and_true, htype.listed] at h
        obtain ⟨_, list, items⟩ := h
        exact .intersection tag list items
      · rename_i tag
        simp only [exists_bind_eq_ok_iff, exists_pure_eq_ok, and_true, hrequired] at h
        exact .array tag h
      · rename_i tag
        simp only [exists_bind_eq_ok_iff, exists_pure_eq_ok, and_true, htype.listed] at h
        obtain ⟨_, list, items⟩ := h
        exact .tuple tag list items
      · rename_i tag
        split at h
        · obtain ⟨type, h⟩ := h
          cases h
        · rename_i value hvalue
          simp only [exists_bind_eq_ok_iff, exists_pure_eq_ok, and_true] at h
          have hdeclared := (hdeclaration value (size_of_object? hvalue)).mp h
          unfold object? at hvalue
          split at hvalue
          · rename_i isObject
            cases hvalue
            exact .shape tag isObject hdeclared
          · cases hvalue
      · rename_i tag
        have hextends := htype.optional (json.get "extendsType").present? fun _ => size_of_present?
        simp only [exists_bind_eq_ok_iff, exists_pure_eq_ok, and_true, exists_and_right,
          hrequired, hextends] at h
        obtain ⟨check, extends_, ifTrue, ifFalse⟩ := h
        exact .conditional tag check extends_ ifTrue ifFalse
      · rename_i tag
        simp only [exists_bind_eq_ok_iff, exists_pure_eq_ok, and_true, hrequired] at h
        exact .operator tag h
      · rename_i tag
        simp only [exists_bind_eq_ok_iff, exists_pure_eq_ok, and_true, hrequired] at h
        exact .query tag h
      · obtain ⟨type, h⟩ := h
        cases h

end Agreement

-- By induction on the size, as each reader goes on to values inside the one that it reads.
theorem agreeBelow (json : Json) :
    AgreeBelow json TypeExpr.read IsType ∧ AgreeBelow json Declaration.read IsDeclaration ∧
      AgreeBelow json Signature.read IsSignature := by
  refine ⟨?_, ?_, ?_⟩
  · intro part hpart
    obtain ⟨htype, hdeclaration, -⟩ := agreeBelow part
    exact ⟨TypeExpr.isType_of_read htype hdeclaration, TypeExpr.exists_read htype hdeclaration⟩
  · intro part hpart
    obtain ⟨htype, hdeclaration, hsignature⟩ := agreeBelow part
    exact Declaration.read_ok_iff htype hdeclaration hsignature
  · intro part hpart
    obtain ⟨htype, hdeclaration, -⟩ := agreeBelow part
    exact Signature.read_ok_iff htype hdeclaration
termination_by sizeOf json

theorem read_ok_iff_grammar (json : Json) :
    ((∃ type, TypeExpr.read json = .ok type) ↔ IsType json) ∧
      ((∃ d, Declaration.read json = .ok d) ↔ IsDeclaration json) ∧
      ((∃ s, Signature.read json = .ok s) ↔ IsSignature json) := by
  obtain ⟨htype, hdeclaration, hsignature⟩ := agreeBelow json
  refine ⟨⟨?_, ?_⟩, ?_, ?_⟩
  · exact TypeExpr.isType_of_read htype hdeclaration
  · exact TypeExpr.exists_read htype hdeclaration
  · exact Declaration.read_ok_iff htype hdeclaration hsignature
  · exact Signature.read_ok_iff htype hdeclaration

end ApiPages
