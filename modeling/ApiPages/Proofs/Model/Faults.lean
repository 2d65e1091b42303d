import ApiPages.Proofs.Model.Variation

namespace ApiPages

open Json Outcome

-- Reading a value in one way reads another value in some way.
inductive ReadsInto : Access × Json → Access × Json → Prop
  | member {role : Role} {json : Json} {name : String} {access : Access}
      (h : (role.reads json).lookup name = some access) :
      ReadsInto (.mapping role, json) (access, json.get name)
  | item {role : Role} {items : List Json} {item : Json} (h : item ∈ items) :
      ReadsInto (.sequence role, .list items) (.mapping role, item)
  | leading {role : Role} {value : Json} :
      ReadsInto (.leading role, value) (.mapping role, value.leading)

-- A number or a truth value, other than zero and false, stands where a sequence is read.
def MisplacesCount (whole : Access × Json) : Prop :=
  ∃ role value, Relation.ReflTransGen ReadsInto whole (.sequence role, value) ∧
    value.isWalkable = false

inductive ReadFault (misplaced : Prop) : Fault → Prop
  | input (error : InputError) : ReadFault misplaced (.input error)
  | notSequence (h : misplaced) : ReadFault misplaced .notSequence

def ReadsSafely {α : Type} (whole : Access × Json) (x : Except Fault α) : Prop :=
  FailsOnly (ReadFault (MisplacesCount whole)) x

namespace Json

def isCount : Json → Bool
  | .scalar (.text _) => false
  | .scalar _ => true
  | _ => false

theorem isWalkable_of_isCount {value : Json} (hcount : value.isCount = true)
    (hvoid : value.isVoid = false) : value.isWalkable = false := by
  cases value with
  | scalar s =>
      cases s with
      | text t => cases hcount
      | _ => exact hvoid
  | _ => cases hcount

theorem walked_failsOnly {misplaced : Prop} {value : Json} (refuse : Json → InputError)
    (h : value.isCount = true → misplaced) :
    FailsOnly (ReadFault misplaced) (value.walked refuse) := by
  cases value with
  | null => exact .pure []
  | list items => exact .pure items
  | object members =>
      cases members with
      | nil => exact .pure []
      | cons member rest => exact .error (.input _)
  | scalar s =>
      cases s with
      | text t =>
          simp only [walked]
          split
          · exact .pure []
          · exact .error (.input _)
      | _ => exact .error (.notSequence (h rfl))

theorem readsInto_of_walked {role : Role} {refuse : Json → InputError} {value item : Json}
    {items : List Json} (h : value.walked refuse = .ok items) (hi : item ∈ items) :
    ReadsInto (.sequence role, value) (.mapping role, item) := by
  unfold walked at h
  split at h
  all_goals try cases h
  · cases hi
  · exact .item hi
  · cases hi
  · split at h
    · cases h
      cases hi
    · cases h

end Json

section Members

variable {α : Type} {whole : Access × Json} {json value : Json} {read : Json → Except Fault α}
  {role owner : Role} {name : String}

theorem readsSafely_input (error : InputError) :
    ReadsSafely whole (.error (.input error) : Except Fault α) := .error (.input error)

theorem readsSafely_sequence (refuse : Json → InputError)
    (h : Relation.ReflTransGen ReadsInto whole (.sequence role, value)) :
    ReadsSafely whole (value.sequence refuse) := by
  unfold Json.sequence
  split
  · exact .pure []
  · rename_i hvoid
    rw [Bool.not_eq_true] at hvoid
    exact walked_failsOnly refuse fun hcount => ⟨role, value, h, isWalkable_of_isCount hcount hvoid⟩

theorem readsInto_of_sequence {refuse : Json → InputError} {items : List Json} {item : Json}
    (h : value.sequence refuse = .ok items) (hi : item ∈ items) :
    ReadsInto (.sequence role, value) (.mapping role, item) := by
  unfold Json.sequence at h
  split at h
  · cases h
    cases hi
  · exact readsInto_of_walked h hi

-- What is smaller than a value, and read inside the whole, is read safely.
def SafeBelow {α : Type} (whole : Access × Json) (json : Json) (read : Json → Except Fault α)
    (role : Role) : Prop :=
  ∀ part, sizeOf part < sizeOf json →
    Relation.ReflTransGen ReadsInto whole (.mapping role, part) → ReadsSafely whole (read part)

variable (hbelow : SafeBelow whole json read role)
  (howner : Relation.ReflTransGen ReadsInto whole (.mapping owner, json))

include hbelow howner

theorem SafeBelow.of_present? (hname : (owner.reads json).lookup name = some (.mapping role))
    {part : Json} (hvalue : (json.get name).present? = some part) :
    ReadsSafely whole (read part) := by
  have hpart := howner.tail (.member hname)
  rw [present?_eq_some hvalue] at hpart
  exact hbelow part (size_of_present? hvalue) hpart

theorem SafeBelow.of_object? (hname : (owner.reads json).lookup name = some (.mapping role))
    {part : Json} (hvalue : (json.get name).object? = some part) :
    ReadsSafely whole (read part) := by
  have hpart := howner.tail (.member hname)
  have heq : json.get name = part := by
    unfold object? at hvalue
    split at hvalue
    · exact Option.some.inj hvalue
    · cases hvalue
  rw [heq] at hpart
  exact hbelow part (size_of_object? hvalue) hpart

theorem SafeBelow.present (hname : (owner.reads json).lookup name = some (.mapping role)) :
    ReadsSafely whole (readOptional read (json.get name).present?) := by
  cases hvalue : (json.get name).present? with
  | none => exact .pure none
  | some part => exact (hbelow.of_present? howner hname hvalue).map

theorem SafeBelow.object (hname : (owner.reads json).lookup name = some (.mapping role)) :
    ReadsSafely whole (readOptional read (json.get name).object?) := by
  cases hvalue : (json.get name).object? with
  | none => exact .pure none
  | some part => exact (hbelow.of_object? howner hname hvalue).map

theorem SafeBelow.leading (hname : (owner.reads json).lookup name = some (.leading role)) :
    ReadsSafely whole (readOptional read (json.get name).leading.given?) := by
  cases hvalue : (json.get name).leading.given? with
  | none => exact .pure none
  | some part =>
      have hpart := (howner.tail (.member hname)).tail .leading
      have heq : (json.get name).leading = part := by
        unfold given? at hvalue
        split at hvalue
        · cases hvalue
        · exact Option.some.inj hvalue
      rw [heq] at hpart
      exact (hbelow part (size_of_leading hvalue) hpart).map

theorem SafeBelow.required (hname : (owner.reads json).lookup name = some (.mapping role)) :
    ReadsSafely whole (readRequired read json name) := by
  unfold readRequired
  cases hvalue : (json.get name).present? with
  | none => exact readsSafely_input _
  | some part => exact hbelow.of_present? howner hname hvalue

theorem SafeBelow.each (refuse : Json → InputError)
    (hname : (owner.reads json).lookup name = some (.sequence role)) :
    ReadsSafely whole (readEach read refuse (json.get name)) := by
  have hvalue := howner.tail (.member hname)
  refine (readsSafely_sequence refuse hvalue).bind fun items hitems => .mapM fun item hi => ?_
  have hsize := size_of_sequence? (sequence_eq_ok_iff.mp hitems) hi
  exact hbelow item hsize (hvalue.tail (readsInto_of_sequence hitems hi))

theorem SafeBelow.listed (hname : (owner.reads json).lookup name = some (.sequence role)) :
    ReadsSafely whole (readListed read json name) := by
  unfold readListed
  split
  · rename_i items hlist
    have hsequence : (json.get name).sequence? = some items := by rw [hlist, sequence?]
    have hvalue := howner.tail (.member hname)
    rw [hlist] at hvalue
    refine .mapM fun item hi => ?_
    exact hbelow item (size_of_sequence? hsequence hi) (hvalue.tail (.item hi))
  · exact readsSafely_input _

end Members

section Readers

variable {whole : Access × Json} {json value : Json}

theorem readsSafely_kind (value : Json) : ReadsSafely whole (Kind.read value) := by
  unfold Kind.read
  split
  · exact .pure none
  · split
    · exact .pure _
    · exact readsSafely_input _
  · exact readsSafely_input _

theorem readsSafely_sources
    (h : Relation.ReflTransGen ReadsInto whole (.sequence .source, value)) :
    ReadsSafely whole (readSources value) := by
  cases hwalkable : value.isWalkable with
  | true =>
      obtain ⟨sources, hsources⟩ := (readSources_ok_iff value).mpr hwalkable
      rw [hsources]
      exact .pure sources
  | false =>
      have hfault : ReadFault (MisplacesCount whole) .notSequence :=
        .notSequence ⟨.source, value, h, hwalkable⟩
      unfold readSources
      split
      · exact .pure _
      · exact .pure []
      · split
        · exact .pure []
        · exact .error hfault
      · exact .pure []

theorem lookup_typeParametersName (json : Json) :
    (Role.parameters json).lookup (typeParametersName json) = some (.sequence .declaration) := by
  unfold Role.parameters typeParametersName
  split <;> rfl

theorem lookup_of_tag {json tag : Json} {name : String} {access : Access}
    (htag : json.get "type" = tag)
    (h : (("type", Access.value) :: Role.ofTag tag).lookup name = some access) :
    (Role.type.reads json).lookup name = some access := by
  subst htag
  exact h

variable (htype : SafeBelow whole json TypeExpr.read .type)
  (hdeclaration : SafeBelow whole json Declaration.read .declaration)
  (hsignature : SafeBelow whole json Signature.read .signature)

include htype hdeclaration hsignature in
theorem Declaration.reads_safely
    (h : Relation.ReflTransGen ReadsInto whole (.mapping .declaration, json)) :
    ReadsSafely whole (Declaration.read json) := by
  have hparameters := Role.parameters_lookup (lookup_typeParametersName json)
  rw [Declaration.read_eq]
  cases json.isObject with
  | false => exact readsSafely_input _
  | true =>
      simp only [Bool.not_true, Bool.false_eq_true, ite_false]
      split
      · refine (readsSafely_kind _).bind fun kind _ => ?_
        refine (htype.present h rfl).bind fun type _ => ?_
        refine (hsignature.each h _ rfl).bind fun signatures _ => ?_
        refine (hdeclaration.each h _ rfl).bind fun children _ => ?_
        refine (htype.each h _ rfl).bind fun extendedTypes _ => ?_
        refine (hsignature.leading h rfl).bind fun indexSignature _ => ?_
        refine (hdeclaration.each h _ hparameters.1).bind fun typeParameters _ => ?_
        exact (readsSafely_sources (h.tail (.member rfl))).bind fun sources _ => .pure _
      · exact readsSafely_input _

include htype hdeclaration in
theorem Signature.reads_safely
    (h : Relation.ReflTransGen ReadsInto whole (.mapping .signature, json)) :
    ReadsSafely whole (Signature.read json) := by
  have hparameters := Role.parameters_lookup (lookup_typeParametersName json)
  rw [Signature.read_eq]
  cases json.isObject with
  | false => exact readsSafely_input _
  | true =>
      simp only [Bool.not_true, Bool.false_eq_true, ite_false]
      refine (readsSafely_kind _).bind fun kind _ => ?_
      refine (hdeclaration.each h _ rfl).bind fun parameters _ => ?_
      refine (hdeclaration.each h _ hparameters.2).bind fun typeParameters _ => ?_
      exact (htype.present h rfl).bind fun type _ => .pure _

include htype hdeclaration in
theorem TypeExpr.reads_safely
    (h : Relation.ReflTransGen ReadsInto whole (.mapping .type, json)) :
    ReadsSafely whole (TypeExpr.read json) := by
  rw [TypeExpr.read_eq]
  cases json.isObject with
  | false => exact readsSafely_input _
  | true =>
      simp only [Bool.not_true, Bool.false_eq_true, ite_false]
      -- One case for each tag, in the order of the reader, and one for all others.
      split
      · rename_i tag
        refine (htype.each h _ (lookup_of_tag tag rfl)).bind fun arguments _ => ?_
        exact (hdeclaration.object h (lookup_of_tag tag rfl)).bind fun target _ => .pure _
      · exact .pure _
      · exact .pure _
      · exact .pure _
      · rename_i tag
        refine (htype.required h (lookup_of_tag tag rfl)).bind fun object _ => ?_
        exact (htype.required h (lookup_of_tag tag rfl)).bind fun index _ => .pure _
      · rename_i tag
        exact (htype.listed h (lookup_of_tag tag rfl)).bind fun members _ => .pure _
      · rename_i tag
        exact (htype.listed h (lookup_of_tag tag rfl)).bind fun members _ => .pure _
      · rename_i tag
        exact (htype.required h (lookup_of_tag tag rfl)).bind fun element _ => .pure _
      · rename_i tag
        exact (htype.listed h (lookup_of_tag tag rfl)).bind fun elements _ => .pure _
      · rename_i tag
        cases hvalue : (json.get "declaration").object? with
        | none => exact readsSafely_input _
        | some value =>
            exact (hdeclaration.of_object? h (lookup_of_tag tag rfl) hvalue).bind fun d _ => .pure _
      · rename_i tag
        refine (htype.required h (lookup_of_tag tag rfl)).bind fun check _ => ?_
        refine (htype.present h (lookup_of_tag tag rfl)).bind fun extends_ _ => ?_
        refine (htype.required h (lookup_of_tag tag rfl)).bind fun ifTrue _ => ?_
        exact (htype.required h (lookup_of_tag tag rfl)).bind fun ifFalse _ => .pure _
      · rename_i tag
        exact (htype.required h (lookup_of_tag tag rfl)).bind fun target _ => .pure _
      · rename_i tag
        exact (htype.required h (lookup_of_tag tag rfl)).bind fun target _ => .pure _
      · exact readsSafely_input _

end Readers

-- By induction on the size, as each reader goes on to values inside the one that it reads.
theorem reads_safely (whole : Access × Json) (json : Json) :
    (Relation.ReflTransGen ReadsInto whole (.mapping .type, json) →
      ReadsSafely whole (TypeExpr.read json)) ∧
    (Relation.ReflTransGen ReadsInto whole (.mapping .declaration, json) →
      ReadsSafely whole (Declaration.read json)) ∧
    (Relation.ReflTransGen ReadsInto whole (.mapping .signature, json) →
      ReadsSafely whole (Signature.read json)) := by
  have htype : SafeBelow whole json TypeExpr.read .type :=
    fun part hpart => (reads_safely whole part).1
  have hdeclaration : SafeBelow whole json Declaration.read .declaration :=
    fun part hpart => (reads_safely whole part).2.1
  have hsignature : SafeBelow whole json Signature.read .signature :=
    fun part hpart => (reads_safely whole part).2.2
  exact ⟨TypeExpr.reads_safely htype hdeclaration,
    Declaration.reads_safely htype hdeclaration hsignature,
    Signature.reads_safely htype hdeclaration⟩
termination_by sizeOf json

-- What is read as the declarations of a page: a list itself, or the children of a project.
def Json.projectItems : Json → Json
  | .object members => (object members).get "children"
  | json => json

-- A number or a truth value stands where a sequence is read. In most places zero and false say
-- nothing, but not as the children of a project.
def Json.HoldsCount (json : Json) : Prop :=
  (json.get "children").isCount = true ∨ MisplacesCount (.sequence .declaration, json.projectItems)

theorem readDeclarations_eq (items : Json) :
    readDeclarations items =
      items.walked .declarationNotObject >>= fun values => values.mapM Declaration.read := by
  rw [readDeclarations, mapM_parts, items_eq]

theorem readDeclarations_failsOnly {misplaced : Prop} {items : Json}
    (hcount : items.isCount = true → misplaced)
    (hitems : MisplacesCount (.sequence .declaration, items) → misplaced) :
    FailsOnly (ReadFault misplaced) (readDeclarations items) := by
  have himp : ∀ fault, ReadFault (MisplacesCount (.sequence .declaration, items)) fault →
      ReadFault misplaced fault := by
    rintro fault (error | h)
    · exact .input error
    · exact .notSequence (hitems h)
  rw [readDeclarations_eq]
  refine (walked_failsOnly _ hcount).bind fun values hvalues => .mapM fun item hi => ?_
  exact ((reads_safely _ item).2.1 (.single (readsInto_of_walked hvalues hi))).imp himp

theorem readProject_failsOnly (json : Json) :
    FailsOnly (ReadFault json.HoldsCount) (readProject json) := by
  unfold readProject
  split
  · rename_i items
    exact readDeclarations_failsOnly (fun h => by cases h) .inr
  · split
    · exact .error (.input _)
    · exact readDeclarations_failsOnly .inl .inr
  · exact .error (.input _)

end ApiPages
