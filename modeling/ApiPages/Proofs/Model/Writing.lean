import ApiPages.Proofs.Model.Grammar
import ApiPages.Proofs.Model.Inside

namespace ApiPages

namespace Json

@[simp] theorem isObject_object (members : List (String × Json)) :
    (Json.object members).isObject = true := rfl

@[simp] theorem get?_object (members : List (String × Json)) (name : String) :
    (Json.object members).get? name = lookup name members := rfl

@[simp] theorem get_object (members : List (String × Json)) (name : String) :
    (Json.object members).get name = (lookup name members).getD .null := rfl

@[simp] theorem lookup_nil (name : String) : lookup name [] = none := rfl

@[simp] theorem lookup_cons (name key : String) (value : Json) (rest : List (String × Json)) :
    lookup name ((key, value) :: rest) = if key = name then some value else lookup name rest :=
  rfl

@[simp] theorem null_or (value : Json) : Json.null.or value = value := rfl

end Json

-- The two names of the type parameters.
inductive ParameterKey where
  | plural
  | singular
  deriving DecidableEq, Repr

def ParameterKey.name : ParameterKey → String
  | plural => "typeParameters"
  | singular => "typeParameter"

-- Every source file in a type, a declaration or a signature has a name, however deep it stands.
def ModelPart.NamesSources (whole : ModelPart) : Prop :=
  ∀ d, (ModelPart.declaration d).Occurs whole → ∀ file ∈ d.sources, file ≠ ""

theorem ModelPart.NamesSources.inner {part whole : ModelPart} (h : whole.NamesSources)
    (hpart : part ∈ whole.inner) : part.NamesSources :=
  fun d hd => h d (Occurs.of_inner hpart hd)

theorem ModelPart.NamesSources.of_inner {whole : ModelPart}
    (own : ∀ d, whole = .declaration d → ∀ file ∈ d.sources, file ≠ "")
    (h : ∀ part ∈ whole.inner, part.NamesSources) : whole.NamesSources := by
  intro d hd
  rcases ModelPart.occurs_iff.mp hd with heq | ⟨part, hpart, hd⟩
  · exact own d heq
  · exact h part hpart d hd

namespace Written

def kind : Option Kind → Json
  | none => .null
  | some k => .text k.text

def id : Option SymbolId → Json
  | none => .null
  | some (.number n) => .int n
  | some (.truth b) => .bool b

def flags (f : Flags) : Json :=
  .object [("isOptional", .bool f.isOptional), ("isStatic", .bool f.isStatic)]

def comment : Option Comment → Json
  | none => .null
  | some c => .object [("shortText", .text c.shortText), ("text", .text c.text),
      ("returns", .text c.returns)]

def source (file : String) : Json := .object [("fileName", .text file)]

mutual

def declaration (key : ParameterKey) : Declaration → Json
  | ⟨name, k, i, f, c, t, ss, children, parents, index, parameters, sources⟩ =>
    .object [("name", .text name), ("kindString", kind k), ("id", id i), ("flags", flags f),
      ("comment", comment c), ("type", type? key t), ("signatures", .list (signatures key ss)),
      ("children", .list (declarations key children)),
      ("extendedTypes", .list (types key parents)), ("indexSignature", signature? key index),
      (key.name, .list (declarations key parameters)), ("sources", .list (sources.map source))]

def declarations (key : ParameterKey) : List Declaration → List Json
  | [] => []
  | d :: rest => declaration key d :: declarations key rest

def declaration? (key : ParameterKey) : Option Declaration → Json
  | none => .null
  | some d => declaration key d

def signature (key : ParameterKey) : Signature → Json
  | ⟨name, k, parameters, typeParameters, t, c⟩ =>
    .object [("name", .text name), ("kindString", kind k),
      ("parameters", .list (declarations key parameters)),
      (key.name, .list (declarations key typeParameters)), ("type", type? key t),
      ("comment", comment c)]

def signatures (key : ParameterKey) : List Signature → List Json
  | [] => []
  | s :: rest => signature key s :: signatures key rest

def signature? (key : ParameterKey) : Option Signature → Json
  | none => .null
  | some s => signature key s

def type (key : ParameterKey) : TypeExpr → Json
  | .reference ⟨name, arguments, symbol, target, targetId⟩ =>
    .object [("type", .text "reference"), ("name", .text name),
      ("typeArguments", .list (types key arguments)), ("symbolFullyQualifiedName", symbol),
      ("reflection", declaration? key target), ("id", id targetId)]
  | .literal value => .object [("type", .text "stringLiteral"), ("value", .text value)]
  | .intrinsic name => .object [("type", .text "intrinsic"), ("name", .text name)]
  | .parameter name => .object [("type", .text "typeParameter"), ("name", .text name)]
  | .indexed object index =>
    .object [("type", .text "indexedAccess"), ("objectType", type key object),
      ("indexType", type key index)]
  | .union members => .object [("type", .text "union"), ("types", .list (types key members))]
  | .intersection members =>
    .object [("type", .text "intersection"), ("types", .list (types key members))]
  | .array element => .object [("type", .text "array"), ("elementType", type key element)]
  | .tuple elements => .object [("type", .text "tuple"), ("elements", .list (types key elements))]
  | .shape d => .object [("type", .text "reflection"), ("declaration", declaration key d)]
  | .conditional check extends_ ifTrue ifFalse =>
    .object [("type", .text "conditional"), ("checkType", type key check),
      ("extendsType", type? key extends_), ("trueType", type key ifTrue),
      ("falseType", type key ifFalse)]
  | .operator name target =>
    .object [("type", .text "typeOperator"), ("operator", .text name),
      ("target", type key target)]
  | .query target => .object [("type", .text "query"), ("queryType", type key target)]

def types (key : ParameterKey) : List TypeExpr → List Json
  | [] => []
  | t :: rest => type key t :: types key rest

def type? (key : ParameterKey) : Option TypeExpr → Json
  | none => .null
  | some t => type key t

end

open Json Outcome

section Fields

variable (key : ParameterKey)

theorem declarations_eq (items : List Declaration) :
    declarations key items = items.map (declaration key) := by
  induction items with
  | nil => rfl
  | cons d rest ih => rw [declarations, ih, List.map_cons]

theorem signatures_eq (items : List Signature) :
    signatures key items = items.map (signature key) := by
  induction items with
  | nil => rfl
  | cons s rest ih => rw [signatures, ih, List.map_cons]

theorem types_eq (items : List TypeExpr) : types key items = items.map (type key) := by
  induction items with
  | nil => rfl
  | cons t rest ih => rw [types, ih, List.map_cons]

-- A part that is written counts as there, and one that is not there is left open.
theorem present?_type (t : TypeExpr) : (type key t).present? = some (type key t) := by
  cases t with
  | reference r =>
      cases r
      rfl
  | _ => rfl

theorem object?_declaration (d : Declaration) :
    (declaration key d).object? = some (declaration key d) := by
  cases d
  rfl

theorem present?_type? (t : Option TypeExpr) : (type? key t).present? = t.map (type key) := by
  cases t with
  | none => rfl
  | some t => exact present?_type key t

theorem object?_declaration? (d : Option Declaration) :
    (declaration? key d).object? = d.map (declaration key) := by
  cases d with
  | none => rfl
  | some d => exact object?_declaration key d

-- A signature has members even if all of them are left open, so that it is not taken for none.
theorem given?_signature? (s : Option Signature) :
    (signature? key s).leading.given? = s.map (signature key) := by
  cases s with
  | none => rfl
  | some s =>
      cases s
      rfl

end Fields

section Laws

variable {α : Type} {read : Json → Except Fault α} {write : α → Json}

theorem read_items {items : List α} (h : ∀ a ∈ items, read (write a) = .ok a) :
    (items.map write).mapM read = .ok items := by
  rw [mapM_eq_ok_iff, List.forall₂_map_left_iff, List.forall₂_same]
  exact h

theorem read_list {items : List α} (h : ∀ a ∈ items, read (write a) = .ok a)
    (refuse : Json → InputError) :
    readEach read refuse (.list (items.map write)) = .ok items := by
  have hsequence : (Json.list (items.map write)).sequence refuse = .ok (items.map write) :=
    sequence_eq_ok_iff.mpr rfl
  rw [readEach, hsequence]
  exact read_items h

theorem read_option {o : Option α} (h : ∀ a ∈ o, read (write a) = .ok a) :
    readOptional read (o.map write) = .ok o := by
  cases o with
  | none => rfl
  | some a => rw [Option.map_some, readOptional, h a rfl]; rfl

-- An empty list says nothing, so that the other name of the type parameters is looked up too.
theorem read_list_or {items : List α} (h : ∀ a ∈ items, read (write a) = .ok a)
    (refuse : Json → InputError) :
    readEach read refuse ((Json.list (items.map write)).or .null) = .ok items := by
  cases items with
  | nil => rfl
  | cons a rest => exact read_list h refuse

end Laws

theorem read_kind (k : Option Kind) : Kind.read (kind k) = .ok k := by
  cases k with
  | none => rfl
  | some k => cases k <;> rfl

theorem read_id (i : Option SymbolId) : SymbolId.ofJson? (id i) = i := by
  rcases i with _ | ⟨n⟩ | ⟨b⟩ <;> rfl

theorem read_flags (f : Flags) : Flags.read (flags f) = f := by
  obtain ⟨isOptional, isStatic⟩ := f
  cases isOptional <;> cases isStatic <;> rfl

-- The empty text says nothing, and what says nothing reads as the empty text.
theorem read_text (s : String) :
    (if (Json.text s).isVoid then "" else (Json.text s).plain) = s := by
  split
  · rename_i h
    exact (String.isEmpty_iff.mp h).symm
  · rfl

theorem read_comment (c : Option Comment) : Comment.read (comment c) = c := by
  cases c with
  | none => rfl
  | some c =>
      simp [comment, Comment.read, textOf, read_text]

theorem read_sources {files : List String} (h : ∀ file ∈ files, file ≠ "") :
    readSources (.list (files.map source)) = .ok files := by
  have hname : ∀ file, (source file).get "fileName" = .text file := fun _ => rfl
  have hgiven : ∀ file ∈ files, (!(Json.text file).isVoid) = true := by
    intro file hfile
    simpa [isVoid, Scalar.isVoid] using h file hfile
  simp only [readSources, List.filter_map, List.map_map, Function.comp_def, hname]
  rw [List.filter_eq_self.mpr hgiven]
  simp [plain, Scalar.plain]

-- A type, a declaration or a signature reads back when its parts do.
theorem read_hereditary (key : ParameterKey) : Hereditary
    (fun t => (ModelPart.type t).NamesSources → TypeExpr.read (type key t) = .ok t)
    (fun d => (ModelPart.declaration d).NamesSources →
      Declaration.read (declaration key d) = .ok d)
    (fun s => (ModelPart.signature s).NamesSources →
      Signature.read (signature key s) = .ok s) where
  reference r harguments htarget h := by
    have harguments := read_list (fun t ht => harguments t ht (h.inner (by simp [ht])))
      .typeNotObject
    have htarget := read_option fun d hd => htarget d hd (h.inner (by simp_all))
    obtain ⟨name, arguments, symbol, target, targetId⟩ := r
    rw [TypeExpr.read_eq]
    simp [type, types_eq, harguments, object?_declaration?,
      htarget, textOf, read_text, read_id]
  literal value _ := by
    rw [TypeExpr.read_eq]
    simp [type, spelled, plain, Scalar.plain]
  intrinsic name _ := by
    rw [TypeExpr.read_eq]
    simp [type, spelled, plain, Scalar.plain]
  parameter name _ := by
    rw [TypeExpr.read_eq]
    simp [type, spelled, plain, Scalar.plain]
  indexed object index hobject hindex h := by
    have hobject := hobject (h.inner (by simp))
    have hindex := hindex (h.inner (by simp))
    rw [TypeExpr.read_eq]
    simp [type, readRequired, present?_type, hobject, hindex]
  union members hmembers h := by
    have hmembers := read_items fun t ht => hmembers t ht (h.inner (by simp [ht]))
    rw [TypeExpr.read_eq]
    simp [type, readListed, types_eq, hmembers]
  intersection members hmembers h := by
    have hmembers := read_items fun t ht => hmembers t ht (h.inner (by simp [ht]))
    rw [TypeExpr.read_eq]
    simp [type, readListed, types_eq, hmembers]
  array element helement h := by
    have helement := helement (h.inner (by simp))
    rw [TypeExpr.read_eq]
    simp [type, readRequired, present?_type, helement]
  tuple elements helements h := by
    have helements := read_items fun t ht => helements t ht (h.inner (by simp [ht]))
    rw [TypeExpr.read_eq]
    simp [type, readListed, types_eq, helements]
  shape d hd h := by
    have hd := hd (h.inner (by simp))
    rw [TypeExpr.read_eq]
    simp [type, object?_declaration, hd]
  conditional check extends_ ifTrue ifFalse hcheck hextends htrue hfalse h := by
    have hcheck := hcheck (h.inner (by simp))
    have hextends := read_option fun t ht => hextends t ht (h.inner (by simp_all))
    have htrue := htrue (h.inner (by simp))
    have hfalse := hfalse (h.inner (by simp))
    rw [TypeExpr.read_eq]
    simp [type, readRequired, present?_type, present?_type?,
      hcheck, hextends, htrue, hfalse]
  operator name target htarget h := by
    have htarget := htarget (h.inner (by simp))
    rw [TypeExpr.read_eq]
    simp [type, readRequired, present?_type, htarget, spelled,
      plain, Scalar.plain]
  query target htarget h := by
    have htarget := htarget (h.inner (by simp))
    rw [TypeExpr.read_eq]
    simp [type, readRequired, present?_type, htarget]
  declaration d htype hsignatures hchildren hextended hindex hparameters h := by
    have htype := read_option fun t ht => htype t ht (h.inner (by simp_all))
    have hsignatures := read_list (fun s hs => hsignatures s hs (h.inner (by simp [hs])))
      .signatureNotObject
    have hchildren := read_list (fun c hc => hchildren c hc (h.inner (by simp [hc])))
      .declarationNotObject
    have hextended := read_list (fun t ht => hextended t ht (h.inner (by simp [ht])))
      .typeNotObject
    have hindex := read_option fun s hs => hindex s hs (h.inner (by simp_all))
    have hparameters := fun p hp => hparameters p hp (h.inner (by simp [hp]))
    have hplural := read_list_or hparameters .declarationNotObject
    have hsingular := read_list hparameters .declarationNotObject
    have hsources := read_sources (h d (.refl _))
    obtain ⟨name, k, i, f, c, t, ss, children, parents, index, parameters, sources⟩ := d
    rw [Declaration.read_eq, get_typeParametersName]
    cases key <;>
      simp [declaration, ParameterKey.name, read_kind, present?_type?, htype, signatures_eq,
        hsignatures, declarations_eq, hchildren, types_eq, hextended, given?_signature?, hindex,
        hplural, hsingular, hsources, read_id, read_flags, read_comment]
  signature s hparameters htypeParameters htype h := by
    have hparameters := read_list (fun p hp => hparameters p hp (h.inner (by simp [hp])))
      .declarationNotObject
    have htypeParameters := fun p hp => htypeParameters p hp (h.inner (by simp [hp]))
    have hplural := read_list_or htypeParameters .declarationNotObject
    have hsingular := read_list htypeParameters .declarationNotObject
    have htype := read_option fun t ht => htype t ht (h.inner (by simp_all))
    obtain ⟨name, k, parameters, typeParameters, t, c⟩ := s
    rw [Signature.read_eq, get_typeParametersName]
    cases key <;>
      simp [signature, ParameterKey.name, read_kind, declarations_eq, hparameters, hplural,
        hsingular, present?_type?, htype, textOf, read_text, read_comment]

end Written

end ApiPages
