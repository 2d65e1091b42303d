import ApiPages.Proofs.Document.Texts
import ApiPages.Proofs.Page.TypeNodes

namespace ApiPages

-- What a type reads as. A shape that holds nothing is not written like one that holds a type whose
-- text is empty.
inductive Wording where
  | nothing
  | words (text : String)
  deriving DecidableEq, Repr

namespace Wording

def text : Wording → String
  | nothing => ""
  | words text => text

-- One wording stays as it is; several ones are separated.
def join (separator : String) : List Wording → Wording
  | [] => nothing
  | [wording] => wording
  | wordings => words (separator.intercalate (wordings.map text))

end Wording

open Wording

-- The placeholder reads as the name that the page has for it.
def nameWording (ctx : Context) (name : String) : Wording :=
  match ctx.tables.substitution with
  | some substitution =>
    if name = substitution.name then words (substitution.resolve ctx.page) else words name
  | none => words name

-- Generic arguments of more than 25 characters have a space in front of them.
def genericWording (name arguments : String) : Wording :=
  words (name ++ (if arguments.length > 25 then " <" else "<") ++ arguments ++ ">")

-- A shape is in braces unless it can be called; a member has its name in front of it.
def frameWording (d : Declaration) (body : Wording) : Wording :=
  if d.isAnonymous then
    if d.signatures.isEmpty then
      match body with
      | nothing => words "\x7b \x7d"
      | words text => words ("\x7b " ++ text ++ " \x7d")
    else body
  else words (d.name ++ (if d.flags.isOptional then "?: " else ": ") ++ body.text)

mutual

inductive TypeReads (ctx : Context) : TypeExpr → Wording → Prop
  -- An inline name is replaced by the type of what it means.
  | inline {r : Reference} {d : Declaration} {type : TypeExpr} {wording : Wording}
      (name : ctx.isInline r.name = true) (target : ctx.resolve r = some d)
      (declared : d.type = some type) (reads : TypeReads ctx type wording) :
      TypeReads ctx (.reference r) wording
  | bare {r : Reference} (name : ctx.isInline r.name = false)
      (plain : r.arguments = [] ∨ ctx.tables.templateless.contains r.name = true) :
      TypeReads ctx (.reference r) (words r.name)
  | generic {r : Reference} {arguments : List Wording} (name : ctx.isInline r.name = false)
      (applied : r.arguments ≠ []) (templates : ctx.tables.templateless.contains r.name = false)
      (reads : List.Forall₂ (TypeReads ctx) r.arguments arguments) :
      TypeReads ctx (.reference r) (genericWording r.name (join ", " arguments).text)
  | literal (value : String) : TypeReads ctx (.literal value) (words ("'" ++ value ++ "'"))
  | intrinsic (name : String) : TypeReads ctx (.intrinsic name) (nameWording ctx name)
  | parameter (name : String) : TypeReads ctx (.parameter name) (nameWording ctx name)
  | indexed {object index : TypeExpr} {first second : Wording}
      (readsObject : TypeReads ctx object first) (readsIndex : TypeReads ctx index second) :
      TypeReads ctx (.indexed object index) (words (first.text ++ "[" ++ second.text ++ "]"))
  | union {members : List TypeExpr} {wordings : List Wording}
      (reads : List.Forall₂ (TypeReads ctx) members wordings) :
      TypeReads ctx (.union members) (join " | " wordings)
  | intersection {members : List TypeExpr} {wordings : List Wording}
      (reads : List.Forall₂ (TypeReads ctx) members wordings) :
      TypeReads ctx (.intersection members) (join " & " wordings)
  | array {element : TypeExpr} {wording : Wording} (reads : TypeReads ctx element wording) :
      TypeReads ctx (.array element) (words (wording.text ++ "[]"))
  | tuple {elements : List TypeExpr} {wordings : List Wording}
      (reads : List.Forall₂ (TypeReads ctx) elements wordings) :
      TypeReads ctx (.tuple elements) (words ("[" ++ (join ", " wordings).text ++ "]"))
  | shape {d : Declaration} {wording : Wording} (reads : DeclarationReads ctx d wording) :
      TypeReads ctx (.shape d) wording
  | conditional {check ifTrue ifFalse : TypeExpr} {extends_ : Option TypeExpr}
      {first second third : Wording} (readsCheck : TypeReads ctx check first)
      (readsTrue : TypeReads ctx ifTrue second) (readsFalse : TypeReads ctx ifFalse third) :
      TypeReads ctx (.conditional check extends_ ifTrue ifFalse)
        (words (first.text ++ " ? " ++ second.text ++ " : " ++ third.text))
  | operator (name : String) {target : TypeExpr} {wording : Wording}
      (reads : TypeReads ctx target wording) :
      TypeReads ctx (.operator name target) (words (" " ++ name ++ " " ++ wording.text))
  | query {target : TypeExpr} {wording : Wording} (reads : TypeReads ctx target wording) :
      TypeReads ctx (.query target) (words ("typeof " ++ wording.text))

inductive OptionalReads (ctx : Context) : Option TypeExpr → Wording → Prop
  | missing : OptionalReads ctx none nothing
  | given {type : TypeExpr} {wording : Wording} (reads : TypeReads ctx type wording) :
      OptionalReads ctx (some type) wording

inductive DeclarationReads (ctx : Context) : Declaration → Wording → Prop
  | mk {d : Declaration} {body : Wording} (reads : BodyReads ctx d body) :
      DeclarationReads ctx d (frameWording d body)

-- What a declaration holds: its type, else its children, else its index, else its first signature.
inductive BodyReads (ctx : Context) : Declaration → Wording → Prop
  | type {d : Declaration} {type : TypeExpr} {wording : Wording} (typed : d.type = some type)
      (reads : TypeReads ctx type wording) : BodyReads ctx d wording
  | children {d : Declaration} {wordings : List Wording} (untyped : d.type = none)
      (parent : d.children ≠ [])
      (reads : List.Forall₂ (DeclarationReads ctx) d.children wordings) :
      BodyReads ctx d (join ", " wordings)
  | index {d : Declaration} {index : Signature} {wording : Wording} (untyped : d.type = none)
      (childless : d.children = []) (indexed : d.indexSignature = some index)
      (reads : IndexReads ctx index wording) : BodyReads ctx d wording
  | signature {d : Declaration} {first : Signature} {rest : List Signature} {wording : Wording}
      (untyped : d.type = none) (childless : d.children = []) (unindexed : d.indexSignature = none)
      (called : d.signatures = first :: rest) (reads : SignatureReads ctx first wording) :
      BodyReads ctx d wording
  | nothing {d : Declaration} (untyped : d.type = none) (childless : d.children = [])
      (unindexed : d.indexSignature = none) (uncalled : d.signatures = []) :
      BodyReads ctx d nothing

inductive IndexReads (ctx : Context) : Signature → Wording → Prop
  | mk {s : Signature} {key : Declaration} {rest : List Declaration} {first second : Wording}
      (keyed : s.parameters = key :: rest) (readsKey : OptionalReads ctx key.type first)
      (readsValue : OptionalReads ctx s.type second) :
      IndexReads ctx s
        (words ("[" ++ key.name ++ ": " ++ first.text ++ "]: " ++ second.text))

inductive SignatureReads (ctx : Context) : Signature → Wording → Prop
  | mk {s : Signature} {parameters : List Wording} {result : Wording}
      (readsParameters : List.Forall₂ (DeclarationReads ctx) s.parameters parameters)
      (readsResult : OptionalReads ctx s.type result) :
      SignatureReads ctx s
        (words ("(" ++ (join ", " parameters).text ++ ") => " ++ result.text))

end

-- The notation has a text for a type.
def NotationSays (ctx : Context) (type : TypeExpr) (s : String) : Prop :=
  ∃ wording, TypeReads ctx type wording ∧ wording.text = s

section Rules

variable {ctx : Context} {r : Reference} {d : Declaration} {wording : Wording}

theorem typeReads_inline {type : TypeExpr} (hname : ctx.isInline r.name = true)
    (htarget : ctx.resolve r = some d) (htype : d.type = some type) :
    TypeReads ctx (.reference r) wording ↔ TypeReads ctx type wording := by
  constructor
  · intro h
    cases h with
    | inline name target declared reads =>
        rw [htarget] at target
        cases target
        rw [htype] at declared
        cases declared
        exact reads
    | bare name plain =>
        rw [hname] at name
        cases name
    | generic name applied templates reads =>
        rw [hname] at name
        cases name
  · exact .inline hname htarget htype

theorem typeReads_bare (hname : ctx.isInline r.name = false)
    (hplain : r.arguments = [] ∨ ctx.tables.templateless.contains r.name = true) :
    TypeReads ctx (.reference r) wording ↔ wording = words r.name := by
  constructor
  · intro h
    cases h with
    | inline name target declared reads =>
        rw [hname] at name
        cases name
    | bare name plain => rfl
    | generic name applied templates reads =>
        rcases hplain with hplain | hplain
        · exact absurd hplain applied
        · rw [hplain] at templates
          cases templates
  · rintro rfl
    exact .bare hname hplain

theorem typeReads_generic (hname : ctx.isInline r.name = false) (happlied : r.arguments ≠ [])
    (htemplates : ctx.tables.templateless.contains r.name = false) :
    TypeReads ctx (.reference r) wording ↔
      ∃ arguments, List.Forall₂ (TypeReads ctx) r.arguments arguments ∧
        wording = genericWording r.name (join ", " arguments).text := by
  constructor
  · intro h
    cases h with
    | inline name target declared reads =>
        rw [hname] at name
        cases name
    | bare name plain =>
        rcases plain with plain | plain
        · exact absurd plain happlied
        · rw [htemplates] at plain
          cases plain
    | generic name applied templates reads => exact ⟨_, reads, rfl⟩
  · rintro ⟨arguments, harguments, rfl⟩
    exact .generic hname happlied htemplates harguments

theorem bodyReads_type {type : TypeExpr} (ht : d.type = some type) :
    BodyReads ctx d wording ↔ TypeReads ctx type wording := by
  constructor
  · intro h
    cases h with
    | type typed reads =>
        rw [ht] at typed
        cases typed
        exact reads
    | children untyped => simp [ht] at untyped
    | index untyped => simp [ht] at untyped
    | signature untyped => simp [ht] at untyped
    | nothing untyped => simp [ht] at untyped
  · exact .type ht

theorem bodyReads_children (ht : d.type = none) (hc : d.children ≠ []) :
    BodyReads ctx d wording ↔
      ∃ wordings, List.Forall₂ (DeclarationReads ctx) d.children wordings ∧
        wording = join ", " wordings := by
  constructor
  · intro h
    cases h with
    | type typed => simp [ht] at typed
    | children untyped parent reads => exact ⟨_, reads, rfl⟩
    | index untyped childless => exact absurd childless hc
    | signature untyped childless => exact absurd childless hc
    | nothing untyped childless => exact absurd childless hc
  · rintro ⟨wordings, hwordings, rfl⟩
    exact .children ht hc hwordings

theorem bodyReads_index {index : Signature} (ht : d.type = none) (hc : d.children = [])
    (hi : d.indexSignature = some index) :
    BodyReads ctx d wording ↔ IndexReads ctx index wording := by
  constructor
  · intro h
    cases h with
    | type typed => simp [ht] at typed
    | children untyped parent => exact absurd hc parent
    | index untyped childless indexed reads =>
        rw [hi] at indexed
        cases indexed
        exact reads
    | signature untyped childless unindexed => simp [hi] at unindexed
    | nothing untyped childless unindexed => simp [hi] at unindexed
  · exact .index ht hc hi

theorem bodyReads_signature {first : Signature} {rest : List Signature} (ht : d.type = none)
    (hc : d.children = []) (hi : d.indexSignature = none) (hs : d.signatures = first :: rest) :
    BodyReads ctx d wording ↔ SignatureReads ctx first wording := by
  constructor
  · intro h
    cases h with
    | type typed => simp [ht] at typed
    | children untyped parent => exact absurd hc parent
    | index untyped childless indexed => simp [hi] at indexed
    | signature untyped childless unindexed called reads =>
        rw [hs] at called
        cases called
        exact reads
    | nothing untyped childless unindexed uncalled => simp [hs] at uncalled
  · exact .signature ht hc hi hs

theorem bodyReads_nothing (ht : d.type = none) (hc : d.children = [])
    (hi : d.indexSignature = none) (hs : d.signatures = []) :
    BodyReads ctx d wording ↔ wording = nothing := by
  constructor
  · intro h
    cases h with
    | type typed => simp [ht] at typed
    | children untyped parent => exact absurd hc parent
    | index untyped childless indexed => simp [hi] at indexed
    | signature untyped childless unindexed called => simp [hs] at called
    | nothing => rfl
  · rintro rfl
    exact .nothing ht hc hi hs

theorem optionalReads_none : OptionalReads ctx none wording ↔ wording = nothing := by
  constructor
  · intro h
    cases h
    rfl
  · rintro rfl
    exact .missing

theorem optionalReads_some {type : TypeExpr} :
    OptionalReads ctx (some type) wording ↔ TypeReads ctx type wording := by
  constructor
  · intro h
    cases h with
    | given reads => exact reads
  · exact .given

end Rules

open Node Outcome

namespace Wording

-- The wording that nodes stand for.
def ofNodes : List Node → Wording
  | [] => nothing
  | node :: rest => words (toTexts (node :: rest))

variable {nodes others : List Node}

@[simp] theorem text_ofNodes (nodes : List Node) : (ofNodes nodes).text = toTexts nodes := by
  cases nodes <;> rfl

@[simp] theorem ofNodes_nil : ofNodes [] = nothing := rfl

@[simp] theorem ofNodes_cons (node : Node) (rest : List Node) :
    ofNodes (node :: rest) = words (node.toText ++ toTexts rest) := rfl

@[simp] theorem ofNodes_append_cons (nodes : List Node) (node : Node) (rest : List Node) :
    ofNodes (nodes ++ node :: rest) = words (toTexts nodes ++ (node.toText ++ toTexts rest)) := by
  cases nodes with
  | nil => simp
  | cons first nodes => simp [String.append_assoc]

theorem join_cons_cons (separator : String) (first second : Wording) (rest : List Wording) :
    join separator (first :: second :: rest) =
      words (separator.intercalate ((first :: second :: rest).map text)) := rfl

-- Groups of nodes with a text between each two read as the wordings with that text between.
theorem ofNodes_join (separator : String) (groups : List (List Node)) :
    ofNodes (Node.join separator groups) = join separator (groups.map ofNodes) := by
  match groups with
  | [] => rfl
  | [group] => simp [Node.join, join]
  | group :: next :: rest =>
    have htext : ∀ gs : List (List Node), gs.map (text ∘ ofNodes) = gs.map toTexts := by
      intro gs
      exact List.map_congr_left fun g _ => text_ofNodes g
    have hjoin := toTexts_join separator (group :: next :: rest)
    rw [List.map_cons, List.map_cons, join_cons_cons, ← List.map_cons, ← List.map_cons,
      List.map_map, htext, ← hjoin]
    simp [Node.join]

end Wording

section Reading

variable {ctx : Context} {expand : String → SymbolId → Rendered} {nodes : List Node}

-- What is rendered has a wording, and no other one.
def ReadsAs (reads : Wording → Prop) (rendered : Rendered) : Prop :=
  ∀ nodes, rendered = .ok nodes → ∀ wording, reads wording ↔ wording = ofNodes nodes

theorem ReadsAs.list {α : Type} {f : α → Rendered} {reads : α → Wording → Prop} {items : List α}
    {groups : List (List Node)} (hitems : ∀ a ∈ items, ReadsAs (reads a) (f a))
    (h : items.mapM f = .ok groups) (wordings : List Wording) :
    List.Forall₂ reads items wordings ↔ wordings = groups.map ofNodes := by
  rw [mapM_eq_ok_iff] at h
  induction h generalizing wordings with
  | nil => rw [List.forall₂_nil_left_iff, List.map_nil]
  | @cons item group items groups hf _ ih =>
      rw [List.forall_mem_cons] at hitems
      rw [List.forall₂_cons_left_iff, List.map_cons]
      constructor
      · rintro ⟨first, others, hfirst, hothers, rfl⟩
        rw [(hitems.1 group hf first).mp hfirst, (ih hitems.2 others).mp hothers]
      · rintro rfl
        exact ⟨_, _, (hitems.1 group hf _).mpr rfl, (ih hitems.2 _).mpr rfl, rfl⟩

theorem toText_nameNode (name : String) : (ctx.nameNode name).toText = name := by
  unfold Context.nameNode
  split
  · rfl
  · split <;> simp

theorem ofNodes_plainNameNodes {name : String} (h : ctx.plainNameNodes name = .ok nodes) :
    ofNodes nodes = nameWording ctx name := by
  unfold Context.plainNameNodes at h
  unfold nameWording
  cases hs : ctx.tables.substitution with
  | none =>
      rw [hs] at h
      cases h
      simp
  | some substitution =>
      simp only [hs] at h
      by_cases hname : name = substitution.name
      · rw [if_pos hname] at h
        split at h
        · cases h
        · cases h
          simp [hname, toText_nameNode]
      · rw [if_neg hname] at h
        cases h
        simp [hname]

theorem ofNodes_referenceNodes (name : String) (groups : List (List Node)) :
    ofNodes (ctx.referenceNodes name groups) =
      if groups.isEmpty then words name
      else genericWording name (join ", " (groups.map ofNodes)).text := by
  unfold Context.referenceNodes genericWording
  split
  · simp [toText_nameNode]
  · simp only [ofNodes_cons, toTexts_cons, toTexts_append, toText_text, toTexts_nil, wrapThreshold,
      toText_nameNode, ← ofNodes_join, text_ofNodes, String.append_empty, String.append_assoc]
    rfl

theorem ofNodes_frameNodes (d : Declaration) (body : List Node) :
    ofNodes (frameNodes d.name d.flags (!d.signatures.isEmpty) body) =
      frameWording d (ofNodes body) := by
  have hanonymous : d.isAnonymous = true ↔ d.name = anonymousName := by
    rw [Declaration.isAnonymous, beq_iff_eq]
  unfold frameNodes frameWording
  by_cases hname : d.name = anonymousName
  · rw [if_pos hname, if_pos (hanonymous.mpr hname)]
    cases hsignatures : d.signatures with
    | nil =>
        cases body with
        | nil => simp
        | cons node rest => simp [String.append_assoc]
    | cons s rest => simp
  · rw [if_neg hname, if_neg fun h => hname (hanonymous.mp h)]
    cases d.flags.isOptional <;> simp [String.append_assoc]

-- What is known of an inline name with a number: the type of the symbol that has the number.
def ExpandsTo (ctx : Context) (expand : String → SymbolId → Rendered) : Prop :=
  ∀ name id nodes, expand name id = .ok nodes →
    ∃ d type, ctx.symbols.lookup? id = some d ∧ d.type = some type ∧
      ∀ wording, TypeReads ctx type wording ↔ wording = ofNodes nodes

theorem readsAs_optional {type : Option TypeExpr}
    (h : ∀ t ∈ type, ReadsAs (TypeReads ctx t) (typeNodes ctx expand t)) :
    ReadsAs (OptionalReads ctx type) (typeNodes? ctx expand type) := by
  intro nodes hnodes wording
  cases type with
  | none =>
      rw [typeNodes?] at hnodes
      cases hnodes
      rw [optionalReads_none, ofNodes_nil]
  | some type =>
      rw [typeNodes?] at hnodes
      rw [optionalReads_some, h type rfl nodes hnodes]

-- An inline reference reads as the type of what it means, embedded or known by its number.
theorem exists_resolved {r : Reference} (hexpand : ExpandsTo ctx expand)
    (htarget : ∀ d ∈ r.target, ReadsAs (OptionalReads ctx d.type) (typeNodes? ctx expand d.type))
    (h : expansion ctx expand r = .ok nodes) :
    ∃ d type, ctx.resolve r = some d ∧ d.type = some type ∧
      ∀ wording, TypeReads ctx type wording ↔ wording = ofNodes nodes := by
  unfold Context.resolve
  obtain ⟨d, type, ht, htype, hnodes⟩ | ⟨id, ht, hid, hnodes⟩ := expansion_cases _ _ h
  · have hd := htarget d ht nodes (by rw [htype, typeNodes?, hnodes])
    refine ⟨d, type, by rw [ht], htype, ?_⟩
    intro wording
    rw [← hd wording, htype, optionalReads_some]
  · obtain ⟨d, type, hlookup, htype, hwording⟩ := hexpand r.name id nodes hnodes
    refine ⟨d, type, ?_, htype, hwording⟩
    rw [ht, hid]
    exact hlookup

theorem readsAs_reference {r : Reference} (hexpand : ExpandsTo ctx expand)
    (harguments : ∀ type ∈ r.arguments, ReadsAs (TypeReads ctx type) (typeNodes ctx expand type))
    (htarget : ∀ d ∈ r.target,
      ReadsAs (OptionalReads ctx d.type) (typeNodes? ctx expand d.type)) :
    ReadsAs (TypeReads ctx (.reference r)) (typeNodes ctx expand (.reference r)) := by
  intro nodes h wording
  rw [typeNodes_reference] at h
  cases hinline : ctx.isInline r.name with
  | true =>
      rw [if_pos hinline] at h
      obtain ⟨d, type, hd, htype, hreads⟩ := exists_resolved hexpand htarget h
      rw [typeReads_inline hinline hd htype, hreads]
  | false =>
      rw [hinline, if_neg Bool.false_ne_true] at h
      cases htemplateless : ctx.tables.templateless.contains r.name with
      | true =>
          rw [if_pos htemplateless] at h
          cases h
          rw [typeReads_bare hinline (.inr htemplateless), ofNodes_referenceNodes]
          rfl
      | false =>
          rw [htemplateless, if_neg Bool.false_ne_true] at h
          simp only [bind_eq_ok_iff, pure_eq_ok_iff] at h
          obtain ⟨groups, hgroups, rfl⟩ := h
          have hempty : groups.isEmpty = true ↔ r.arguments = [] := by
            rw [← List.isEmpty_iff, List.isEmpty_iff_length_eq_zero,
              List.isEmpty_iff_length_eq_zero, (mapM_eq_ok_iff.mp hgroups).length_eq]
          rw [ofNodes_referenceNodes]
          by_cases happlied : r.arguments = []
          · rw [typeReads_bare hinline (.inl happlied), if_pos (hempty.mpr happlied)]
          · rw [typeReads_generic hinline happlied htemplateless,
              if_neg fun h => happlied (hempty.mp h)]
            simp only [ReadsAs.list harguments hgroups, exists_eq_left]

theorem readsAs_body {d : Declaration}
    (htype : ∀ type ∈ d.type, ReadsAs (TypeReads ctx type) (typeNodes ctx expand type))
    (hsignatures : ∀ s ∈ d.signatures,
      ReadsAs (SignatureReads ctx s) (signatureNodes ctx expand s))
    (hchildren : ∀ child ∈ d.children,
      ReadsAs (DeclarationReads ctx child) (declarationNodes ctx expand child))
    (hindex : ∀ s ∈ d.indexSignature,
      ReadsAs (IndexReads ctx s) (indexSignatureNodes ctx expand d.name s)) :
    ReadsAs (BodyReads ctx d) (bodyNodes ctx expand d) := by
  intro nodes h wording
  unfold bodyNodes at h
  cases ht : d.type with
  | some type =>
      simp only [ht] at h
      rw [bodyReads_type ht, htype type ht nodes h]
  | none =>
      cases hc : d.children with
      | cons child rest =>
          simp only [ht, hc, bind_eq_ok_iff, pure_eq_ok_iff] at h
          obtain ⟨groups, hgroups, rfl⟩ := h
          rw [bodyReads_children ht (by rw [hc]; exact List.cons_ne_nil _ _), ofNodes_join, hc]
          simp only [ReadsAs.list (hc ▸ hchildren) hgroups, exists_eq_left]
      | nil =>
          cases hi : d.indexSignature with
          | some index =>
              simp only [ht, hc, hi] at h
              rw [bodyReads_index ht hc hi, hindex index hi nodes h]
          | none =>
              cases hs : d.signatures with
              | cons s rest =>
                  simp only [ht, hc, hi, hs, firstSignatureNodes] at h
                  rw [bodyReads_signature ht hc hi hs,
                    hsignatures s (hs ▸ List.mem_cons_self) nodes h]
              | nil =>
                  simp only [ht, hc, hi, hs, firstSignatureNodes] at h
                  cases h
                  rw [bodyReads_nothing ht hc hi hs, ofNodes_nil]

theorem readsAs_hereditary (hexpand : ExpandsTo ctx expand) :
    Hereditary (fun type => ReadsAs (TypeReads ctx type) (typeNodes ctx expand type))
      (fun d => ReadsAs (DeclarationReads ctx d) (declarationNodes ctx expand d) ∧
        ReadsAs (OptionalReads ctx d.type) (typeNodes? ctx expand d.type))
      (fun s => ReadsAs (SignatureReads ctx s) (signatureNodes ctx expand s) ∧
        ∀ owner, ReadsAs (IndexReads ctx s) (indexSignatureNodes ctx expand owner s))
    where
  reference := by
    intro r harguments htarget
    exact readsAs_reference hexpand harguments fun d hd => (htarget d hd).2
  literal := by
    intro value nodes h wording
    rw [typeNodes] at h
    cases h
    have htext : ofNodes [Node.span [.text ("'" ++ value ++ "'")] (ctx.className "string")] =
        words ("'" ++ value ++ "'") := by simp
    rw [htext]
    constructor
    · intro hw
      cases hw
      rfl
    · rintro rfl
      exact .literal value
  intrinsic := by
    intro name nodes h wording
    rw [typeNodes] at h
    rw [ofNodes_plainNameNodes h]
    constructor
    · intro hw
      cases hw
      rfl
    · rintro rfl
      exact .intrinsic name
  parameter := by
    intro name nodes h wording
    rw [typeNodes] at h
    rw [ofNodes_plainNameNodes h]
    constructor
    · intro hw
      cases hw
      rfl
    · rintro rfl
      exact .parameter name
  indexed := by
    intro object index hobject hindex nodes h wording
    simp only [typeNodes, bind_eq_ok_iff, pure_eq_ok_iff] at h
    obtain ⟨first, hf, second, hs, rfl⟩ := h
    have htext : ofNodes (first ++ .text "[" :: (second ++ [.text "]"])) =
        words ((ofNodes first).text ++ "[" ++ (ofNodes second).text ++ "]") := by
      simp [String.append_assoc]
    rw [htext]
    constructor
    · intro hw
      cases hw with
      | indexed readsObject readsIndex =>
          rw [(hobject first hf _).mp readsObject, (hindex second hs _).mp readsIndex]
    · rintro rfl
      exact .indexed ((hobject first hf _).mpr rfl) ((hindex second hs _).mpr rfl)
  union := by
    intro members hmembers nodes h wording
    simp only [typeNodes, typeGroups_eq_mapM, bind_eq_ok_iff, pure_eq_ok_iff] at h
    obtain ⟨groups, hgroups, rfl⟩ := h
    have hlist := ReadsAs.list hmembers hgroups
    rw [ofNodes_join]
    constructor
    · intro hw
      cases hw with
      | union reads => rw [(hlist _).mp reads]
    · rintro rfl
      exact .union ((hlist _).mpr rfl)
  intersection := by
    intro members hmembers nodes h wording
    simp only [typeNodes, typeGroups_eq_mapM, bind_eq_ok_iff, pure_eq_ok_iff] at h
    obtain ⟨groups, hgroups, rfl⟩ := h
    have hlist := ReadsAs.list hmembers hgroups
    rw [ofNodes_join]
    constructor
    · intro hw
      cases hw with
      | intersection reads => rw [(hlist _).mp reads]
    · rintro rfl
      exact .intersection ((hlist _).mpr rfl)
  array := by
    intro element helement nodes h wording
    simp only [typeNodes, bind_eq_ok_iff, pure_eq_ok_iff] at h
    obtain ⟨inner, hi, rfl⟩ := h
    have htext : ofNodes (inner ++ [.text "[]"]) = words ((ofNodes inner).text ++ "[]") := by simp
    rw [htext]
    constructor
    · intro hw
      cases hw with
      | array reads => rw [(helement inner hi _).mp reads]
    · rintro rfl
      exact .array ((helement inner hi _).mpr rfl)
  tuple := by
    intro elements helements nodes h wording
    simp only [typeNodes, typeGroups_eq_mapM, bind_eq_ok_iff, pure_eq_ok_iff] at h
    obtain ⟨groups, hgroups, rfl⟩ := h
    have hlist := ReadsAs.list helements hgroups
    have htext : ofNodes (.text "[" :: (Node.join ", " groups ++ [.text "]"])) =
        words ("[" ++ (join ", " (groups.map ofNodes)).text ++ "]") := by
      simp [← ofNodes_join, String.append_assoc]
    rw [htext]
    constructor
    · intro hw
      cases hw with
      | tuple reads => rw [(hlist _).mp reads]
    · rintro rfl
      exact .tuple ((hlist _).mpr rfl)
  shape := by
    intro d hd nodes h wording
    rw [typeNodes] at h
    rw [← hd.1 nodes h]
    constructor
    · intro hw
      cases hw with
      | shape reads => exact reads
    · exact .shape
  conditional := by
    intro check extends_ ifTrue ifFalse hcheck _ htrue hfalse nodes h wording
    simp only [typeNodes, bind_eq_ok_iff, pure_eq_ok_iff] at h
    obtain ⟨first, hf, second, hs, third, ht, rfl⟩ := h
    have htext : ofNodes (first ++ .text " ? " :: (second ++ .text " : " :: third)) =
        words ((ofNodes first).text ++ " ? " ++ (ofNodes second).text ++ " : " ++
          (ofNodes third).text) := by
      simp [String.append_assoc]
    rw [htext]
    constructor
    · intro hw
      cases hw with
      | conditional readsCheck readsTrue readsFalse =>
          rw [(hcheck first hf _).mp readsCheck, (htrue second hs _).mp readsTrue,
            (hfalse third ht _).mp readsFalse]
    · rintro rfl
      exact .conditional ((hcheck first hf _).mpr rfl) ((htrue second hs _).mpr rfl)
        ((hfalse third ht _).mpr rfl)
  operator := by
    intro name target htarget nodes h wording
    simp only [typeNodes, bind_eq_ok_iff, pure_eq_ok_iff] at h
    obtain ⟨inner, hi, rfl⟩ := h
    have htext :
        ofNodes (Node.span [.text (" " ++ name ++ " ")] (ctx.className "keyword") :: inner) =
          words (" " ++ name ++ " " ++ (ofNodes inner).text) := by simp
    rw [htext]
    constructor
    · intro hw
      cases hw with
      | operator _ reads => rw [(htarget inner hi _).mp reads]
    · rintro rfl
      exact .operator name ((htarget inner hi _).mpr rfl)
  query := by
    intro target htarget nodes h wording
    simp only [typeNodes, bind_eq_ok_iff, pure_eq_ok_iff] at h
    obtain ⟨inner, hi, rfl⟩ := h
    have htext : ofNodes (.text "typeof " :: inner) =
        words ("typeof " ++ (ofNodes inner).text) := by simp
    rw [htext]
    constructor
    · intro hw
      cases hw with
      | query reads => rw [(htarget inner hi _).mp reads]
    · rintro rfl
      exact .query ((htarget inner hi _).mpr rfl)
  declaration := by
    intro d htype hsignatures hchildren _ hindex _
    refine ⟨?_, readsAs_optional htype⟩
    intro nodes h wording
    simp only [declarationNodes_eq, bind_eq_ok_iff, pure_eq_ok_iff] at h
    obtain ⟨body, hbody, rfl⟩ := h
    have hreads := readsAs_body htype (fun s hs => (hsignatures s hs).1)
      (fun child hc => (hchildren child hc).1) (fun s hs => (hindex s hs).2 d.name) body hbody
    rw [ofNodes_frameNodes]
    constructor
    · intro hw
      cases hw with
      | mk reads => rw [(hreads _).mp reads]
    · rintro rfl
      exact .mk ((hreads _).mpr rfl)
  signature := by
    intro s hparameters _ htype
    have hresult := readsAs_optional htype
    constructor
    · intro nodes h wording
      simp only [signatureNodes_eq, bind_eq_ok_iff, pure_eq_ok_iff] at h
      obtain ⟨groups, hgroups, result, hr, rfl⟩ := h
      have hlist := ReadsAs.list (fun p hp => (hparameters p hp).1) hgroups
      have htext : ofNodes (callNodes groups result) =
          words ("(" ++ (join ", " (groups.map ofNodes)).text ++ ") => " ++
            (ofNodes result).text) := by
        simp [callNodes, ← ofNodes_join, String.append_assoc]
      rw [htext]
      constructor
      · intro hw
        cases hw with
        | mk readsParameters readsResult =>
            rw [(hlist _).mp readsParameters, (hresult result hr _).mp readsResult]
      · rintro rfl
        exact .mk ((hlist _).mpr rfl) ((hresult result hr _).mpr rfl)
    · intro owner nodes h wording
      rw [indexSignatureNodes_eq] at h
      split at h
      · cases h
      · rename_i key rest hk
        simp only [bind_eq_ok_iff, pure_eq_ok_iff] at h
        obtain ⟨first, hf, second, hs, rfl⟩ := h
        have hkey := (hparameters key (hk ▸ List.mem_cons_self)).2 first hf
        have htext : ofNodes (indexNodes key.name first second) =
            words ("[" ++ key.name ++ ": " ++ (ofNodes first).text ++ "]: " ++
              (ofNodes second).text) := by
          simp [indexNodes, String.append_assoc]
        rw [htext]
        constructor
        · intro hw
          cases hw with
          | mk keyed readsKey readsValue =>
              rw [hk] at keyed
              cases keyed
              rw [(hkey _).mp readsKey, (hresult second hs _).mp readsValue]
        · rintro rfl
          exact .mk hk ((hkey _).mpr rfl) ((hresult second hs _).mpr rfl)

theorem expandsTo_expandSymbol (depth : Nat) : ExpandsTo ctx (ctx.expandSymbol depth) := by
  induction depth with
  | zero =>
      intro name id nodes h
      cases h
  | succ depth ih =>
      intro name id nodes h
      rw [Context.expandSymbol] at h
      split at h
      · rename_i d hlookup
        split at h
        · rename_i type htype
          exact ⟨d, type, hlookup, htype, (readsAs_hereditary ih).forType type nodes h⟩
        · cases h
      · cases h

theorem notationSays_iff {type : TypeExpr} (h : ctx.type type = .ok nodes) (s : String) :
    NotationSays ctx type s ↔ s = toTexts nodes := by
  have hreads := (readsAs_hereditary (expandsTo_expandSymbol _)).forType type nodes h
  constructor
  · rintro ⟨wording, hw, rfl⟩
    rw [(hreads wording).mp hw, text_ofNodes]
  · rintro rfl
    exact ⟨ofNodes nodes, (hreads _).mpr rfl, text_ofNodes nodes⟩

end Reading

def optionsDeclaration : Declaration :=
  { name := "__type",
    children :=
      [{ name := "meta", flags := { isOptional := true }, type := some (.parameter "M") }] }

-- The placeholder has a name on the page, and an inline name stands for a shape.
def shapeContext : Context :=
  { page := "client-api",
    tables :=
      { inline := ["Options"], substitution := some { name := "M", default := "Metadata" } },
    style := { read := Markdown.read {}, classMark := "" },
    symbols := [(.number 7, { name := "Options", type := some (.shape optionsDeclaration) })] }

-- The inner arguments have 21 characters, the outer ones 27.
def shapeType : TypeExpr :=
  let options := TypeExpr.reference { name := "Options", targetId := some (.number 7) }
  let list := TypeExpr.reference { name := "List", arguments := [.array options] }
  .reference { name := "Promise", arguments := [list] }

theorem notationSays_shapeType :
    NotationSays shapeContext shapeType "Promise <List<\x7b meta?: Metadata \x7d[]>>" := by
  have h := notationSays_iff (rfl : shapeContext.type shapeType = .ok _)
  exact (h _).mpr rfl

end ApiPages
