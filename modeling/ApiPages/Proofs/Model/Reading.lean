import ApiPages.Model.Reader
import ApiPages.Proofs.Outcome

namespace ApiPages

open Outcome

namespace Json

-- The value unless it is null, unless it is no object, and unless it says nothing.
def present? : Json → Option Json
  | .null => none
  | value => some value

def object? (value : Json) : Option Json := if value.isObject then some value else none

def given? (value : Json) : Option Json := if value.isVoid then none else some value

-- The first item of a list; any other value stands for itself.
def leading : Json → Json
  | .list [] => .null
  | .list (item :: _) => item
  | value => value

-- The items of a value, as far as they can be read as objects.
def walked (refuse : Json → InputError) : Json → Except Fault (List Json)
  | .null => .ok []
  | .list items => .ok items
  | .object [] => .ok []
  | .object ((name, _) :: _) => .error (.input (refuse (.text name)))
  | .text s =>
    match s.toList with
    | [] => .ok []
    | c :: _ => .error (.input (refuse (.text (String.singleton c))))
  | .scalar _ => .error .notSequence

-- A value that says nothing has no items.
def sequence (refuse : Json → InputError) (value : Json) : Except Fault (List Json) :=
  if value.isVoid then .ok [] else value.walked refuse

theorem present?_eq_none {value : Json} (h : value.present? = none) : value = .null := by
  cases value <;> first | rfl | cases h

theorem present?_eq_some {value part : Json} (h : value.present? = some part) : value = part := by
  cases value <;> first | exact Option.some.inj h | cases h

-- A member is a part of the value unless it is null.
theorem part?_cases (json : Json) (name : String) :
    (json.part? name = none ∧ json.get name = .null) ∨
      ∃ value h, json.part? name = some ⟨value, h⟩ ∧ json.get name = value ∧ value ≠ .null := by
  have hget : ∀ value, json.get? name = some value → json.get name = value := by
    intro value h
    rw [get, h, Option.getD_some]
  unfold part?
  split
  · rename_i h
    exact .inl ⟨rfl, by rw [get, h, Option.getD_none]⟩
  · rename_i h
    exact .inl ⟨rfl, hget _ h⟩
  · rename_i value hnull h
    exact .inr ⟨value, get?_size h, rfl, hget value h, hnull⟩

theorem part?_eq (json : Json) (name : String) :
    (json.part? name).map Subtype.val = (json.get name).present? := by
  rcases part?_cases json name with ⟨hpart, hget⟩ | ⟨value, hsize, hpart, hget, hnull⟩
  · rw [hpart, hget]
    rfl
  · rw [hpart, hget]
    cases value <;> first | rfl | exact absurd rfl hnull

theorem objectPart?_eq (json : Json) (name : String) :
    (json.objectPart? name).map Subtype.val = (json.get name).object? := by
  unfold objectPart?
  rcases part?_cases json name with ⟨hpart, hget⟩ | ⟨value, hsize, hpart, hget, -⟩
  · rw [hpart, hget]
    rfl
  · rw [hpart, hget, object?]
    cases hobject : value.isObject <;> simp [hobject]

theorem firstPart?_eq (json : Json) (name : String) :
    (json.firstPart? name).map Subtype.val = (json.get name).leading.given? := by
  unfold firstPart?
  rcases part?_cases json name with ⟨hpart, hget⟩ | ⟨value, hsize, hpart, hget, -⟩
  · rw [hpart, hget]
    rfl
  · rw [hpart, hget]
    cases value with
    | list items =>
        cases items with
        | nil => rfl
        | cons item rest => cases hvoid : item.isVoid <;> simp [leading, given?, hvoid]
    | null => rfl
    | scalar s => cases hvoid : (scalar s).isVoid <;> simp [leading, given?, hvoid]
    | object members => cases hvoid : (object members).isVoid <;> simp [leading, given?, hvoid]

theorem size_of_listed {json item : Json} {items : List Json}
    (h : sizeOf (list items) < sizeOf json) (hi : item ∈ items) : sizeOf item < sizeOf json := by
  have hitem := List.sizeOf_lt_of_mem hi
  rw [Json.list.sizeOf_spec] at h
  omega

-- The items of a member that has to be a list.
def listParts (json : Json) (name : String) : Except Fault (List (Part json)) :=
  match json.part? name with
  | some ⟨.list items, h⟩ =>
    .ok (items.attach.map fun ⟨item, hi⟩ => ⟨item, size_of_listed h hi⟩)
  | _ => .error (.input (.typeWithoutList name json))

theorem listParts_eq (json : Json) (name : String) :
    List.map Subtype.val <$> json.listParts name =
      match json.get name with
      | .list items => .ok items
      | _ => .error (.input (.typeWithoutList name json)) := by
  unfold listParts
  rcases part?_cases json name with ⟨hpart, hget⟩ | ⟨value, hsize, hpart, hget, -⟩
  · rw [hpart, hget]
    rfl
  · rw [hpart, hget]
    cases value with
    | list items => simp [Functor.map, Except.map]
    | null => rfl
    | scalar s => rfl
    | object members => rfl

theorem items_eq (json : Json) (refuse : Json → InputError) :
    List.map Subtype.val <$> json.items refuse = json.walked refuse := by
  cases json with
  | null => rfl
  | scalar s =>
      cases s with
      | text s =>
          simp only [items, walked]
          cases s.toList <;> rfl
      | bool b => rfl
      | int n => rfl
      | float x => rfl
  | list items => simp [Json.items, walked, Functor.map, Except.map]
  | object members => cases members <;> rfl

theorem itemsOf_eq (json : Json) (name : String) (refuse : Json → InputError) :
    List.map Subtype.val <$> json.itemsOf name refuse = (json.get name).sequence refuse := by
  unfold itemsOf
  rcases part?_cases json name with ⟨hpart, hget⟩ | ⟨value, hsize, hpart, hget, -⟩
  · rw [hpart, hget]
    rfl
  · rw [hpart, hget, sequence, ← items_eq]
    cases hvoid : value.isVoid with
    | true =>
        simp only [hvoid, ite_true]
        rfl
    | false =>
        simp only [hvoid, Bool.false_eq_true, ite_false]
        cases value.items refuse with
        | error e => rfl
        | ok parts =>
            apply congrArg Except.ok
            rw [List.map_map]
            rfl

section Members

variable {α : Type} (read : Json → Except Fault α)

-- A value that need not be there.
def readOptional (value : Option Json) : Except Fault (Option α) :=
  match value with
  | none => pure none
  | some value => some <$> read value

-- A value whose items are read one by one.
def readEach (refuse : Json → InputError) (value : Json) : Except Fault (List α) := do
  (← value.sequence refuse).mapM read

-- A member that has to be there.
def readRequired (json : Json) (name : String) : Except Fault α :=
  match (json.get name).present? with
  | some value => read value
  | none => .error (.input (.typeWithout name json))

-- A member that has to be a list.
def readListed (json : Json) (name : String) : Except Fault (List α) :=
  match json.get name with
  | .list items => items.mapM read
  | _ => .error (.input (.typeWithoutList name json))

theorem mapM_parts {json : Json} (parts : Except Fault (List (Part json))) :
    (parts >>= fun parts => parts.mapM fun part => read part.1) =
      (List.map Subtype.val <$> parts >>= fun values => values.mapM read) := by
  cases parts with
  | error e => rfl
  | ok parts => exact (List.mapM_map).symm

theorem itemsOf_mapM (json : Json) (name : String) (refuse : Json → InputError) :
    (json.itemsOf name refuse >>= fun parts => parts.mapM fun part => read part.1) =
      readEach read refuse (json.get name) := by
  rw [mapM_parts, itemsOf_eq, readEach]

theorem listParts_mapM (json : Json) (name : String) :
    (json.listParts name >>= fun parts => parts.mapM fun part => read part.1) =
      readListed read json name := by
  rw [mapM_parts, listParts_eq, readListed]
  split <;> rfl

end Members

end Json

open Json

theorem Declaration.read_eq (json : Json) :
    Declaration.read json = do
      if !json.isObject then throw (.input (.declarationNotObject json))
      let .text name := json.get "name" | throw (.input (.declarationUnnamed json))
      let kind ← Kind.read (json.get "kindString")
      let type ← readOptional TypeExpr.read (json.get "type").present?
      let signatures ← readEach Signature.read .signatureNotObject (json.get "signatures")
      let children ← readEach Declaration.read .declarationNotObject (json.get "children")
      let extendedTypes ← readEach TypeExpr.read .typeNotObject (json.get "extendedTypes")
      let indexSignature ← readOptional Signature.read (json.get "indexSignature").leading.given?
      let typeParameters ←
        readEach Declaration.read .declarationNotObject (json.get (typeParametersName json))
      let sources ← readSources (json.get "sources")
      return { name, kind, id := SymbolId.ofJson? (json.get "id"),
               flags := Flags.read (json.get "flags"), comment := Comment.read (json.get "comment"),
               type, signatures, children, extendedTypes, indexSignature, typeParameters,
               sources } := by
  rw [Declaration.read]
  simp only [← itemsOf_mapM, ← part?_eq, ← firstPart?_eq, bind_assoc]
  cases json.part? "type" <;> cases json.firstPart? "indexSignature" <;> rfl

theorem Signature.read_eq (json : Json) :
    Signature.read json = do
      if !json.isObject then throw (.input (.signatureNotObject json))
      let kind ← Kind.read (json.get "kindString")
      let parameters ← readEach Declaration.read .declarationNotObject (json.get "parameters")
      let typeParameters ←
        readEach Declaration.read .declarationNotObject (json.get (typeParametersName json))
      let type ← readOptional TypeExpr.read (json.get "type").present?
      return { name := json.textOf "name", kind, parameters, typeParameters, type,
               comment := Comment.read (json.get "comment") } := by
  rw [Signature.read]
  simp only [← itemsOf_mapM, ← part?_eq, bind_assoc]
  cases json.part? "type" <;> rfl

theorem TypeExpr.read_eq (json : Json) :
    TypeExpr.read json = (do
      if !json.isObject then throw (.input (.typeNotObject json))
      match json.get "type" with
      | .text "reference" =>
        let arguments ← readEach TypeExpr.read .typeNotObject (json.get "typeArguments")
        let target ← readOptional Declaration.read (json.get "reflection").object?
        return .reference
          { name := json.textOf "name", arguments, symbol := json.get "symbolFullyQualifiedName",
            target, targetId := SymbolId.ofJson? (json.get "id") }
      | .text "stringLiteral" => return .literal (json.spelled "value")
      | .text "intrinsic" => return .intrinsic (json.spelled "name")
      | .text "typeParameter" => return .parameter (json.spelled "name")
      | .text "indexedAccess" =>
        let object ← readRequired TypeExpr.read json "objectType"
        return .indexed object (← readRequired TypeExpr.read json "indexType")
      | .text "union" => return .union (← readListed TypeExpr.read json "types")
      | .text "intersection" => return .intersection (← readListed TypeExpr.read json "types")
      | .text "array" => return .array (← readRequired TypeExpr.read json "elementType")
      | .text "tuple" => return .tuple (← readListed TypeExpr.read json "elements")
      | .text "reflection" =>
        match (json.get "declaration").object? with
        | none => throw (.input (.shapeWithoutDeclaration json))
        | some value => return .shape (← Declaration.read value)
      | .text "conditional" =>
        let check ← readRequired TypeExpr.read json "checkType"
        let extends_ ← readOptional TypeExpr.read (json.get "extendsType").present?
        let ifTrue ← readRequired TypeExpr.read json "trueType"
        return .conditional check extends_ ifTrue (← readRequired TypeExpr.read json "falseType")
      | .text "typeOperator" =>
        return .operator (json.spelled "operator") (← readRequired TypeExpr.read json "target")
      | .text "query" => return .query (← readRequired TypeExpr.read json "queryType")
      | _ => throw (.input (.unknownType json))) := by
  rw [TypeExpr.read]
  simp only [← itemsOf_mapM, ← part?_eq, ← objectPart?_eq, ← listParts_mapM, readRequired,
    bind_assoc]
  cases json.isObject with
  | false => rfl
  | true =>
      simp only [Bool.not_true, Bool.false_eq_true, ite_false]
      generalize json.get "type" = tag
      -- One case for each tag, in the order of the reader, and one for all others.
      split
      · cases json.objectPart? "reflection" <;> rfl
      · rfl
      · rfl
      · rfl
      · cases json.part? "objectType" <;> cases json.part? "indexType" <;> rfl
      · rfl
      · rfl
      · cases json.part? "elementType" <;> rfl
      · rfl
      · cases json.objectPart? "declaration" <;> rfl
      · cases json.part? "checkType" <;> cases json.part? "extendsType" <;>
          cases json.part? "trueType" <;> cases json.part? "falseType" <;> rfl
      · cases json.part? "target" <;> rfl
      · cases json.part? "queryType" <;> rfl
      · simp only [*]

end ApiPages
