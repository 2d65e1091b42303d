import ApiPages.Page.Table
import ApiPages.Proofs.Model.Induction
import ApiPages.Proofs.Outcome

namespace ApiPages

open Outcome

section Equations

variable (ctx : Context) (expand : String → SymbolId → Rendered)

theorem typeGroups_eq_mapM (types : List TypeExpr) :
    typeGroups ctx expand types = types.mapM (typeNodes ctx expand) := by
  induction types with
  | nil => rw [typeGroups, List.mapM_nil]; rfl
  | cons type rest ih => rw [typeGroups, List.mapM_cons, ih]

theorem declarationGroups_eq_mapM (ds : List Declaration) :
    declarationGroups ctx expand ds = ds.mapM (declarationNodes ctx expand) := by
  induction ds with
  | nil => rw [declarationGroups, List.mapM_nil]; rfl
  | cons d rest ih => rw [declarationGroups, List.mapM_cons, ih]

-- What an inline reference stands for.
def expansion (r : Reference) : Rendered :=
  match r.target with
  | some d =>
    match d.type with
    | some type => typeNodes ctx expand type
    | none => .error (.input (.inlineUnresolved r.name))
  | none =>
    match r.targetId with
    | some id => expand r.name id
    | none => .error (.input (.inlineUnresolved r.name))

-- It is embedded in the reference or looked up by its number; otherwise there is nothing to show.
theorem expansion_cases {r : Reference} {nodes : List Node}
    (h : expansion ctx expand r = .ok nodes) :
    (∃ d type, r.target = some d ∧ d.type = some type ∧ typeNodes ctx expand type = .ok nodes) ∨
      ∃ id, r.target = none ∧ r.targetId = some id ∧ expand r.name id = .ok nodes := by
  unfold expansion at h
  cases htarget : r.target with
  | some d =>
      cases htype : d.type with
      | none => simp [htarget, htype] at h
      | some type =>
          simp only [htarget, htype] at h
          exact .inl ⟨d, type, rfl, htype, h⟩
  | none =>
      cases hid : r.targetId with
      | none => simp [htarget, hid] at h
      | some id =>
          simp only [htarget, hid] at h
          exact .inr ⟨id, rfl, rfl, h⟩

theorem typeNodes_reference (r : Reference) :
    typeNodes ctx expand (.reference r) =
      if ctx.isInline r.name then expansion ctx expand r
      else if ctx.tables.templateless.contains r.name then .ok (ctx.referenceNodes r.name [])
      else do return ctx.referenceNodes r.name (← r.arguments.mapM (typeNodes ctx expand)) := by
  obtain ⟨name, arguments, symbol, target, targetId⟩ := r
  cases target with
  | none => cases targetId <;> simp only [typeNodes, expansion, typeGroups_eq_mapM]
  | some d =>
      obtain ⟨_, _, _, _, _, type, _, _, _, _, _, _⟩ := d
      cases type <;> simp only [typeNodes, expansion, typeGroups_eq_mapM]

-- What a declaration holds, by what it has: a type, children, an index, or a signature.
def bodyNodes (d : Declaration) : Rendered :=
  match d.type with
  | some type => typeNodes ctx expand type
  | none =>
    match d.children with
    | [] =>
      match d.indexSignature with
      | some index => indexSignatureNodes ctx expand d.name index
      | none => firstSignatureNodes ctx expand d.signatures
    | child :: rest => do
      return Node.join ", " (← (child :: rest).mapM (declarationNodes ctx expand))

theorem declarationNodes_eq (d : Declaration) :
    declarationNodes ctx expand d = do
      return frameNodes d.name d.flags (!d.signatures.isEmpty) (← bodyNodes ctx expand d) := by
  obtain ⟨_, _, _, _, _, type, _, children, _, index, _, _⟩ := d
  cases type with
  | some type => rw [declarationNodes]; rfl
  | none =>
      cases children with
      | nil => cases index <;> (rw [declarationNodes]; rfl)
      | cons child rest =>
          rw [declarationNodes, declarationGroups_eq_mapM]
          simp only [bodyNodes, List.mapM_cons, bind_assoc, pure_bind]

theorem signatureNodes_eq (s : Signature) :
    signatureNodes ctx expand s = do
      return callNodes (← s.parameters.mapM (declarationNodes ctx expand))
        (← typeNodes? ctx expand s.type) := by
  cases s
  rw [signatureNodes, declarationGroups_eq_mapM]

theorem indexSignatureNodes_eq (owner : String) (s : Signature) :
    indexSignatureNodes ctx expand owner s =
      match s.parameters with
      | [] => .error (.input (.indexWithoutKey owner))
      | key :: _ => do
        return indexNodes key.name (← typeNodes? ctx expand key.type)
          (← typeNodes? ctx expand s.type) := by
  obtain ⟨_, _, parameters, _, _, _⟩ := s
  cases parameters with
  | nil => rw [indexSignatureNodes]
  | cons key rest => cases key; rw [indexSignatureNodes]

end Equations

-- The nodes that types are written with. A link leads to the address of an external name, else to
-- the anchor of the symbol; names that are only known as names, and inline ones, have no link.
inductive IsTypeNode (ctx : Context) : Node → Prop where
  | text (s : String) : IsTypeNode ctx (.text s)
  | marked (s name : String) (h : name = "string" ∨ name = "keyword") :
      IsTypeNode ctx (Node.span [.text s] (ctx.className name))
  | link (name : String) (hs : ctx.tables.simple.contains name = false)
      (hi : ctx.isInline name = false) :
      IsTypeNode ctx
        (Node.link ((ctx.tables.external.lookup name).getD ("#" ++ Anchor.ofSymbol name)) name)

def AreTypeNodes (ctx : Context) (nodes : List Node) : Prop := ∀ node ∈ nodes, IsTypeNode ctx node

section Vocabulary

variable {ctx : Context} {expand : String → SymbolId → Rendered} {nodes others : List Node}

theorem AreTypeNodes.nil : AreTypeNodes ctx [] := by
  intro node h
  cases h

theorem AreTypeNodes.cons {node : Node} (h : IsTypeNode ctx node) (hs : AreTypeNodes ctx nodes) :
    AreTypeNodes ctx (node :: nodes) := by
  intro n hn
  rcases List.mem_cons.mp hn with rfl | hn
  · exact h
  · exact hs n hn

theorem AreTypeNodes.text (s : String) (hs : AreTypeNodes ctx nodes) :
    AreTypeNodes ctx (.text s :: nodes) := .cons (.text s) hs

theorem AreTypeNodes.append (h : AreTypeNodes ctx nodes) (ho : AreTypeNodes ctx others) :
    AreTypeNodes ctx (nodes ++ others) := by
  intro node hn
  rcases List.mem_append.mp hn with hn | hn
  · exact h node hn
  · exact ho node hn

theorem AreTypeNodes.join {separator : String} {groups : List (List Node)}
    (h : ∀ group ∈ groups, AreTypeNodes ctx group) :
    AreTypeNodes ctx (Node.join separator groups) := by
  cases groups with
  | nil => exact .nil
  | cons group rest =>
      apply AreTypeNodes.append (h group List.mem_cons_self)
      intro node hn
      obtain ⟨next, hm, hn⟩ := List.mem_flatMap.mp hn
      exact (AreTypeNodes.text separator (h next (List.mem_cons_of_mem _ hm))) node hn

def GivesTypeNodes (ctx : Context) (rendered : Rendered) : Prop :=
  ∀ nodes, rendered = .ok nodes → AreTypeNodes ctx nodes

-- Every group that a list of parts gives has only such nodes if each part gives only such nodes.
theorem AreTypeNodes.groups {α : Type} {f : α → Rendered} {items : List α}
    {groups : List (List Node)} (hitems : ∀ a ∈ items, GivesTypeNodes ctx (f a))
    (h : items.mapM f = .ok groups) : ∀ group ∈ groups, AreTypeNodes ctx group := by
  intro group hm
  obtain ⟨a, ha, hg⟩ := exists_of_mem_mapM h hm
  exact hitems a ha group hg

theorem isTypeNode_nameNode {name : String} (h : ctx.isInline name = false) :
    IsTypeNode ctx (ctx.nameNode name) := by
  unfold Context.nameNode
  by_cases hs : ctx.tables.simple.contains name = true
  · rw [if_pos hs]
    exact .text name
  · rw [if_neg hs]
    have hlink := IsTypeNode.link name (Bool.eq_false_iff.mpr hs) h
    cases hl : ctx.tables.external.lookup name with
    | none => simpa [hl] using hlink
    | some url => simpa [hl] using hlink

theorem areTypeNodes_referenceNodes {name : String} {groups : List (List Node)}
    (h : ctx.isInline name = false) (hg : ∀ group ∈ groups, AreTypeNodes ctx group) :
    AreTypeNodes ctx (ctx.referenceNodes name groups) := by
  unfold Context.referenceNodes
  split
  · exact .cons (isTypeNode_nameNode h) .nil
  · exact .cons (isTypeNode_nameNode h) (.text _ ((AreTypeNodes.join hg).append (.text _ .nil)))

theorem areTypeNodes_plainNameNodes {name : String} (h : ctx.plainNameNodes name = .ok nodes) :
    AreTypeNodes ctx nodes := by
  unfold Context.plainNameNodes at h
  split at h
  · split at h
    · dsimp only at h
      split at h
      · cases h
      · rename_i hinline
        cases h
        exact .cons (isTypeNode_nameNode (Bool.eq_false_iff.mpr hinline)) .nil
    · cases h
      exact .text name .nil
  · cases h
    exact .text name .nil

theorem areTypeNodes_frameNodes (name : String) (flags : Flags) (isCall : Bool)
    (h : AreTypeNodes ctx nodes) : AreTypeNodes ctx (frameNodes name flags isCall nodes) := by
  unfold frameNodes
  split
  · split
    · exact h
    · split
      · exact .text _ .nil
      · exact .text _ (h.append (.text _ .nil))
  · exact .text _ h

theorem givesTypeNodes_optional {type : Option TypeExpr}
    (h : ∀ t ∈ type, GivesTypeNodes ctx (typeNodes ctx expand t)) :
    GivesTypeNodes ctx (typeNodes? ctx expand type) := by
  intro nodes hnodes
  cases type with
  | none =>
      rw [typeNodes?] at hnodes
      cases hnodes
      exact .nil
  | some type =>
      rw [typeNodes?] at hnodes
      exact h type rfl nodes hnodes

theorem givesTypeNodes_body {d : Declaration}
    (htype : ∀ type ∈ d.type, GivesTypeNodes ctx (typeNodes ctx expand type))
    (hsignatures : ∀ s ∈ d.signatures, GivesTypeNodes ctx (signatureNodes ctx expand s))
    (hchildren : ∀ child ∈ d.children, GivesTypeNodes ctx (declarationNodes ctx expand child))
    (hindex : ∀ s ∈ d.indexSignature,
      GivesTypeNodes ctx (indexSignatureNodes ctx expand d.name s)) :
    GivesTypeNodes ctx (bodyNodes ctx expand d) := by
  intro nodes h
  unfold bodyNodes at h
  split at h
  · rename_i type ht
    exact htype type ht nodes h
  · split at h
    · split at h
      · rename_i index hi
        exact hindex index hi nodes h
      · cases hs : d.signatures with
        | nil =>
            rw [hs, firstSignatureNodes] at h
            cases h
            exact .nil
        | cons s rest =>
            rw [hs, firstSignatureNodes] at h
            exact hsignatures s (hs ▸ List.mem_cons_self) nodes h
    · rename_i child rest hc
      simp only [bind_eq_ok_iff, pure_eq_ok_iff] at h
      obtain ⟨groups, hgroups, rfl⟩ := h
      exact .join (.groups (hc ▸ hchildren) hgroups)

theorem areTypeNodes_hereditary (hexpand : ∀ name id, GivesTypeNodes ctx (expand name id)) :
    Hereditary (fun type => GivesTypeNodes ctx (typeNodes ctx expand type))
      (fun d => GivesTypeNodes ctx (declarationNodes ctx expand d) ∧
        GivesTypeNodes ctx (typeNodes? ctx expand d.type))
      (fun s => GivesTypeNodes ctx (signatureNodes ctx expand s) ∧
        ∀ owner, GivesTypeNodes ctx (indexSignatureNodes ctx expand owner s))
    where
  reference := by
    intro r harguments htarget nodes h
    rw [typeNodes_reference] at h
    split at h
    · obtain ⟨d, type, hd, htype, hnodes⟩ | ⟨id, -, -, hnodes⟩ := expansion_cases _ _ h
      · apply (htarget d hd).2
        rw [htype, typeNodes?]
        exact hnodes
      · exact hexpand _ _ _ hnodes
    · rename_i hinline
      have hinline := Bool.eq_false_iff.mpr hinline
      split at h
      · cases h
        exact areTypeNodes_referenceNodes hinline fun group hg => by cases hg
      · simp only [bind_eq_ok_iff, pure_eq_ok_iff] at h
        obtain ⟨groups, hgroups, rfl⟩ := h
        exact areTypeNodes_referenceNodes hinline (.groups harguments hgroups)
  literal := by
    intro value nodes h
    rw [typeNodes] at h
    cases h
    exact .cons (.marked _ _ (.inl rfl)) .nil
  intrinsic := by
    intro name nodes h
    rw [typeNodes] at h
    exact areTypeNodes_plainNameNodes h
  parameter := by
    intro name nodes h
    rw [typeNodes] at h
    exact areTypeNodes_plainNameNodes h
  indexed := by
    intro object index hobject hindex nodes h
    simp only [typeNodes, bind_eq_ok_iff, pure_eq_ok_iff] at h
    obtain ⟨first, hf, second, hs, rfl⟩ := h
    exact (hobject first hf).append (.text _ ((hindex second hs).append (.text _ .nil)))
  union := by
    intro members hmembers nodes h
    simp only [typeNodes, typeGroups_eq_mapM, bind_eq_ok_iff, pure_eq_ok_iff] at h
    obtain ⟨groups, hgroups, rfl⟩ := h
    exact .join (.groups hmembers hgroups)
  intersection := by
    intro members hmembers nodes h
    simp only [typeNodes, typeGroups_eq_mapM, bind_eq_ok_iff, pure_eq_ok_iff] at h
    obtain ⟨groups, hgroups, rfl⟩ := h
    exact .join (.groups hmembers hgroups)
  array := by
    intro element helement nodes h
    simp only [typeNodes, bind_eq_ok_iff, pure_eq_ok_iff] at h
    obtain ⟨inner, hi, rfl⟩ := h
    exact (helement inner hi).append (.text _ .nil)
  tuple := by
    intro elements helements nodes h
    simp only [typeNodes, typeGroups_eq_mapM, bind_eq_ok_iff, pure_eq_ok_iff] at h
    obtain ⟨groups, hgroups, rfl⟩ := h
    exact .text _ ((AreTypeNodes.join (.groups helements hgroups)).append (.text _ .nil))
  shape := by
    intro d hd nodes h
    rw [typeNodes] at h
    exact hd.1 nodes h
  conditional := by
    intro check extends_ ifTrue ifFalse hcheck _ htrue hfalse nodes h
    simp only [typeNodes, bind_eq_ok_iff, pure_eq_ok_iff] at h
    obtain ⟨first, hf, second, hs, third, ht, rfl⟩ := h
    exact (hcheck first hf).append (.text _ ((htrue second hs).append (.text _ (hfalse third ht))))
  operator := by
    intro name target htarget nodes h
    simp only [typeNodes, bind_eq_ok_iff, pure_eq_ok_iff] at h
    obtain ⟨inner, hi, rfl⟩ := h
    exact .cons (.marked _ _ (.inr rfl)) (htarget inner hi)
  query := by
    intro target htarget nodes h
    simp only [typeNodes, bind_eq_ok_iff, pure_eq_ok_iff] at h
    obtain ⟨inner, hi, rfl⟩ := h
    exact .text _ (htarget inner hi)
  declaration := by
    intro d htype hsignatures hchildren _ hindex _
    refine ⟨?_, givesTypeNodes_optional htype⟩
    intro nodes h
    simp only [declarationNodes_eq, bind_eq_ok_iff, pure_eq_ok_iff] at h
    obtain ⟨body, hbody, rfl⟩ := h
    have hnodes := givesTypeNodes_body htype (fun s hs => (hsignatures s hs).1)
      (fun child hc => (hchildren child hc).1) (fun s hs => (hindex s hs).2 d.name) body hbody
    exact areTypeNodes_frameNodes _ _ _ hnodes
  signature := by
    intro s hparameters _ htype
    have hresult := givesTypeNodes_optional htype
    constructor
    · intro nodes h
      simp only [signatureNodes_eq, bind_eq_ok_iff, pure_eq_ok_iff] at h
      obtain ⟨groups, hgroups, result, hr, rfl⟩ := h
      have hall := AreTypeNodes.groups (fun p hp => (hparameters p hp).1) hgroups
      exact .text _ ((AreTypeNodes.join hall).append (.text _ (hresult result hr)))
    · intro owner nodes h
      rw [indexSignatureNodes_eq] at h
      split at h
      · cases h
      · rename_i key rest hk
        simp only [bind_eq_ok_iff, pure_eq_ok_iff] at h
        obtain ⟨first, hf, second, hs, rfl⟩ := h
        have hkey := (hparameters key (hk ▸ List.mem_cons_self)).2 first hf
        exact .text _ (hkey.append (.text _ (hresult second hs)))

-- Looking symbols up gives the nodes of their types.
theorem givesTypeNodes_expandSymbol (depth : Nat) (name : String) (id : SymbolId) :
    GivesTypeNodes ctx (ctx.expandSymbol depth name id) := by
  induction depth generalizing name id with
  | zero =>
      intro nodes h
      cases h
  | succ depth ih =>
      intro nodes h
      rw [Context.expandSymbol] at h
      split at h
      · split at h
        · exact (areTypeNodes_hereditary ih).forType _ nodes h
        · cases h
      · cases h

theorem givesTypeNodes_expand (name : String) (id : SymbolId) :
    GivesTypeNodes ctx (ctx.expand name id) :=
  givesTypeNodes_expandSymbol _ name id

theorem areTypeNodes_type {type : TypeExpr} (h : ctx.type type = .ok nodes) :
    AreTypeNodes ctx nodes :=
  (areTypeNodes_hereditary givesTypeNodes_expand).forType type nodes h

theorem areTypeNodes_signature {s : Signature} (h : ctx.signature s = .ok nodes) :
    AreTypeNodes ctx nodes :=
  ((areTypeNodes_hereditary givesTypeNodes_expand).forSignature s).1 nodes h

theorem areTypeNodes_memberType {member : Declaration} (h : ctx.memberType member = .ok nodes) :
    AreTypeNodes ctx nodes := by
  unfold Context.memberType at h
  split at h
  · exact areTypeNodes_signature h
  · cases htype : member.type with
    | none =>
        rw [htype, Context.type?, typeNodes?] at h
        cases h
        exact .nil
    | some type =>
        rw [htype, Context.type?, typeNodes?] at h
        exact areTypeNodes_type h

end Vocabulary

end ApiPages
