import ApiPages.Fault

namespace ApiPages

namespace Json

-- A value inside another one.
abbrev Part (json : Json) := { part : Json // sizeOf part < sizeOf json }

theorem lookup_size {name : String} {members : List (String × Json)} {value : Json}
    (h : lookup name members = some value) : sizeOf value < sizeOf members := by
  induction members with
  | nil => simp [lookup] at h
  | cons member rest ih =>
    obtain ⟨key, v⟩ := member
    simp only [lookup] at h
    split at h
    · cases h
      simp
      omega
    · have := ih h
      simp
      omega

theorem get?_size {json : Json} {name : String} {value : Json}
    (h : json.get? name = some value) : sizeOf value < sizeOf json := by
  cases json with
  | object members =>
    have := lookup_size h
    simp
    omega
  | _ => simp [get?] at h

-- The value of a member that is there and not null.
def part? (json : Json) (name : String) : Option (Part json) :=
  match h : json.get? name with
  | none => none
  | some .null => none
  | some value => some ⟨value, get?_size h⟩

-- The value of a member when it is an object.
def objectPart? (json : Json) (name : String) : Option (Part json) :=
  (json.part? name).bind fun part => if part.1.isObject then some part else none

-- The value of a member, or its first item when it is a list, unless that says nothing.
def firstPart? (json : Json) (name : String) : Option (Part json) :=
  match json.part? name with
  | none => none
  | some ⟨.list [], _⟩ => none
  | some ⟨.list (item :: rest), h⟩ =>
    if item.isVoid then none else some ⟨item, by simp at h; omega⟩
  | some ⟨value, h⟩ => if value.isVoid then none else some ⟨value, h⟩

-- The items of a value that is read as a sequence of objects. Text and objects have items too, their
-- characters and names, but none of these is an object: the first one is refused.
def items (json : Json) (refuse : Json → InputError) : Except Fault (List (Part json)) :=
  match json with
  | .null => .ok []
  | .list items => .ok (items.attach.map fun ⟨item, h⟩ =>
      ⟨item, by have := List.sizeOf_lt_of_mem h; simp; omega⟩)
  | .object [] => .ok []
  | .object ((name, _) :: _) => .error (.input (refuse (.text name)))
  | .text s =>
    match s.toList with
    | [] => .ok []
    | c :: _ => .error (.input (refuse (.text (String.singleton c))))
  | .scalar _ => .error .notSequence

-- The items of a member; a member that says nothing has none.
def itemsOf (json : Json) (name : String) (refuse : Json → InputError) :
    Except Fault (List (Part json)) :=
  match json.part? name with
  | none => .ok []
  | some ⟨value, h⟩ =>
    if value.isVoid then .ok []
    else do
      let parts ← value.items refuse
      return parts.map fun ⟨part, hp⟩ => ⟨part, by omega⟩

-- A member's value as running text; a member that says nothing gives none.
def textOf (json : Json) (name : String) : String :=
  let value := json.get name
  if value.isVoid then "" else value.plain

-- A member's value as running text, null included; only a missing member gives none.
def spelled (json : Json) (name : String) : String := ((json.get? name).map plain).getD ""

end Json

def Kind.read (json : Json) : Except Fault (Option Kind) :=
  match json with
  | .null => .ok none
  | .text s =>
    match Kind.ofText? s with
    | some kind => .ok (some kind)
    | none => .error (.input (.unknownKind json))
  | _ => .error (.input (.unknownKind json))

def Flags.read (json : Json) : Flags :=
  { isOptional := !(json.get "isOptional").isVoid, isStatic := !(json.get "isStatic").isVoid }

def Comment.read (json : Json) : Option Comment :=
  if json.isObject then
    some { shortText := json.textOf "shortText", text := json.textOf "text",
           returns := json.textOf "returns" }
  else none

-- The file names among the sources of a declaration.
def readSources (json : Json) : Except Fault (List String) :=
  match json with
  | .list items => .ok ((items.filter fun item => !(item.get "fileName").isVoid).map fun item =>
      (item.get "fileName").plain)
  | .scalar (.text _) => .ok []
  | .scalar s => if s.isVoid then .ok [] else .error .notSequence
  | _ => .ok []

-- Both spellings of the type parameters' name occur.
def typeParametersName (json : Json) : String :=
  if (json.get "typeParameters").isVoid then "typeParameter" else "typeParameters"

mutual

def Declaration.read (json : Json) : Except Fault Declaration := do
  if !json.isObject then throw (.input (.declarationNotObject json))
  let .text name := json.get "name" | throw (.input (.declarationUnnamed json))
  let kind ← Kind.read (json.get "kindString")
  let type ← match json.part? "type" with
    | none => pure none
    | some ⟨part, _⟩ => some <$> TypeExpr.read part
  let signatures ← (← json.itemsOf "signatures" .signatureNotObject).mapM
    fun ⟨part, _⟩ => Signature.read part
  let children ← (← json.itemsOf "children" .declarationNotObject).mapM
    fun ⟨part, _⟩ => Declaration.read part
  let extendedTypes ← (← json.itemsOf "extendedTypes" .typeNotObject).mapM
    fun ⟨part, _⟩ => TypeExpr.read part
  let indexSignature ← match json.firstPart? "indexSignature" with
    | none => pure none
    | some ⟨part, _⟩ => some <$> Signature.read part
  let typeParameters ← (← json.itemsOf (typeParametersName json) .declarationNotObject).mapM
    fun ⟨part, _⟩ => Declaration.read part
  let sources ← readSources (json.get "sources")
  return { name, kind, id := SymbolId.ofJson? (json.get "id"),
           flags := Flags.read (json.get "flags"), comment := Comment.read (json.get "comment"),
           type, signatures, children, extendedTypes, indexSignature, typeParameters, sources }
termination_by sizeOf json

def Signature.read (json : Json) : Except Fault Signature := do
  if !json.isObject then throw (.input (.signatureNotObject json))
  let kind ← Kind.read (json.get "kindString")
  let parameters ← (← json.itemsOf "parameters" .declarationNotObject).mapM
    fun ⟨part, _⟩ => Declaration.read part
  let typeParameters ← (← json.itemsOf (typeParametersName json) .declarationNotObject).mapM
    fun ⟨part, _⟩ => Declaration.read part
  let type ← match json.part? "type" with
    | none => pure none
    | some ⟨part, _⟩ => some <$> TypeExpr.read part
  return { name := json.textOf "name", kind, parameters, typeParameters, type,
           comment := Comment.read (json.get "comment") }
termination_by sizeOf json

def TypeExpr.read (json : Json) : Except Fault TypeExpr := do
  if !json.isObject then throw (.input (.typeNotObject json))
  -- The type that a member has to hold.
  let required (name : String) : Except Fault (Json.Part json) :=
    match json.part? name with
    | some part => .ok part
    | none => .error (.input (.typeWithout name json))
  -- The types that a member has to list.
  let listed (name : String) : Except Fault (List (Json.Part json)) :=
    match json.part? name with
    | some ⟨.list items, h⟩ => .ok (items.attach.map fun ⟨item, hi⟩ =>
        ⟨item, by have := List.sizeOf_lt_of_mem hi; simp at h; omega⟩)
    | _ => .error (.input (.typeWithoutList name json))
  match json.get "type" with
  | .text "reference" =>
    let arguments ← (← json.itemsOf "typeArguments" .typeNotObject).mapM
      fun ⟨part, _⟩ => TypeExpr.read part
    let target ← match json.objectPart? "reflection" with
      | none => pure none
      | some ⟨part, _⟩ => some <$> Declaration.read part
    return .reference
      { name := json.textOf "name", arguments, symbol := json.get "symbolFullyQualifiedName",
        target, targetId := SymbolId.ofJson? (json.get "id") }
  | .text "stringLiteral" => return .literal (json.spelled "value")
  | .text "intrinsic" => return .intrinsic (json.spelled "name")
  | .text "typeParameter" => return .parameter (json.spelled "name")
  | .text "indexedAccess" =>
    let ⟨object, _⟩ ← required "objectType"
    let object ← TypeExpr.read object
    let ⟨index, _⟩ ← required "indexType"
    return .indexed object (← TypeExpr.read index)
  | .text "union" =>
    return .union (← (← listed "types").mapM fun ⟨part, _⟩ => TypeExpr.read part)
  | .text "intersection" =>
    return .intersection (← (← listed "types").mapM fun ⟨part, _⟩ => TypeExpr.read part)
  | .text "array" =>
    let ⟨element, _⟩ ← required "elementType"
    return .array (← TypeExpr.read element)
  | .text "tuple" =>
    return .tuple (← (← listed "elements").mapM fun ⟨part, _⟩ => TypeExpr.read part)
  | .text "reflection" =>
    match json.objectPart? "declaration" with
    | none => throw (.input (.shapeWithoutDeclaration json))
    | some ⟨part, _⟩ => return .shape (← Declaration.read part)
  | .text "conditional" =>
    let ⟨check, _⟩ ← required "checkType"
    let check ← TypeExpr.read check
    let extends_ ← match json.part? "extendsType" with
      | none => pure none
      | some ⟨part, _⟩ => some <$> TypeExpr.read part
    let ⟨ifTrue, _⟩ ← required "trueType"
    let ifTrue ← TypeExpr.read ifTrue
    let ⟨ifFalse, _⟩ ← required "falseType"
    return .conditional check extends_ ifTrue (← TypeExpr.read ifFalse)
  | .text "typeOperator" =>
    let ⟨target, _⟩ ← required "target"
    return .operator (json.spelled "operator") (← TypeExpr.read target)
  | .text "query" =>
    let ⟨target, _⟩ ← required "queryType"
    return .query (← TypeExpr.read target)
  | _ => throw (.input (.unknownType json))
termination_by sizeOf json

end

-- The declarations of a sequence.
def readDeclarations (json : Json) : Except Fault (List Declaration) := do
  (← json.items .declarationNotObject).mapM fun part => Declaration.read part.1

-- The declarations of a bare list or of a project with children.
-- A member that is read and has the wrong shape is refused, every other member is ignored; null and
-- missing are the same.
def readProject (json : Json) : Except Fault (List Declaration) :=
  match json with
  | .list _ => readDeclarations json
  | .object _ =>
    match json.get "children" with
    | .null => .error (.input .projectWithoutChildren)
    | children => readDeclarations children
  | _ => .error (.input (.notAProject json))

end ApiPages
