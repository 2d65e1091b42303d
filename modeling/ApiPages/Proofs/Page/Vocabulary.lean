import ApiPages.Proofs.Document.Elements
import ApiPages.Proofs.Page.Limit
import ApiPages.Proofs.Page.TypeNodes

namespace ApiPages

open Node Outcome

variable {ctx : Context} {nodes : List Node}

-- The lines of types are flat: what is inside of a link or a marked text is text.
theorem AreTypeNodes.element (h : AreTypeNodes ctx nodes) {e : Element} (he : e ∈ elementsIn nodes) :
    IsTypeNode ctx (.element e) := by
  induction nodes with
  | nil => cases he
  | cons node rest ih =>
      have hnode := h node List.mem_cons_self
      rw [elementsIn_cons] at he
      rcases List.mem_append.mp he with he | he
      · cases hnode with
        | text s => cases he
        | marked s name hname =>
            rw [List.mem_singleton.mp he]
            exact .marked s name hname
        | link name hs hi =>
            rw [List.mem_singleton.mp he]
            exact .link name hs hi
      · exact ih (fun other hother => h other (List.mem_cons_of_mem node hother)) he

-- An element of a line has neither an anchor nor the address of a source.
theorem IsTypeNode.unmarked {e : Element} (h : IsTypeNode ctx (.element e)) :
    e.slug = none ∧ e.editUrl = none := by
  generalize hnode : Node.element e = node at h
  cases h with
  | text s => cases hnode
  | marked s name _ =>
      cases hnode
      exact ⟨rfl, rfl⟩
  | link name _ _ =>
      cases hnode
      exact ⟨rfl, rfl⟩

theorem IsTypeNode.label {e : Element} (h : IsTypeNode ctx (.element e)) (htag : e.tag = "a") :
    ctx.isInline (toTexts e.children) = false := by
  generalize hnode : Node.element e = node at h
  cases h with
  | text s => cases hnode
  | marked s name _ =>
      cases hnode
      simp at htag
  | link name _ hi =>
      cases hnode
      rw [toTexts, toText, toTexts, String.append_empty]
      exact hi

namespace Context

-- Beyond the size of the index one more look-up makes no difference.
theorem expand_of_lookup {id : SymbolId} {d : Declaration} {type : TypeExpr} (name : String)
    (hd : ctx.symbols.lookup? id = some d) (htype : d.type = some type) :
    ctx.expand name id = ctx.type type := by
  have hdeep : ctx.expandSymbol (ctx.symbols.length + 2) = ctx.expand :=
    expandSymbol_eq_expand (by omega)
  rw [← hdeep, expandSymbol]
  simp only [hd, htype]
  rfl

-- An inline reference is rendered as the type of what it means, wherever that is found.
theorem type_inline {r : Reference} {d : Declaration} {type : TypeExpr}
    (hinline : ctx.isInline r.name = true) (hd : ctx.resolve r = some d)
    (htype : d.type = some type) : ctx.type (.reference r) = ctx.type type := by
  rw [Context.type, typeNodes_reference, if_pos hinline]
  unfold resolve at hd
  unfold expansion
  cases htarget : r.target with
  | some target =>
      simp only [htarget, Option.some.injEq] at hd
      simp only [hd, htype]
      rfl
  | none =>
      simp only [htarget] at hd
      obtain ⟨id, hid, hlookup⟩ := Option.bind_eq_some_iff.mp hd
      simp only [hid]
      exact expand_of_lookup r.name hlookup htype

theorem exists_definition_of_expand {name : String} {id : SymbolId}
    (h : ctx.expand name id = .ok nodes) :
    ∃ d type, ctx.symbols.lookup? id = some d ∧ d.type = some type := by
  rw [expand, expandSymbol] at h
  cases hd : ctx.symbols.lookup? id with
  | none => simp [hd] at h
  | some d =>
      cases htype : d.type with
      | none => simp [hd, htype] at h
      | some type => exact ⟨d, type, rfl, htype⟩

-- Nothing is rendered for an inline name without a definition.
theorem exists_definition {r : Reference} (hinline : ctx.isInline r.name = true)
    (h : ctx.type (.reference r) = .ok nodes) :
    ∃ d type, ctx.resolve r = some d ∧ d.type = some type := by
  rw [Context.type, typeNodes_reference, if_pos hinline] at h
  unfold resolve
  obtain ⟨d, type, htarget, htype, -⟩ | ⟨id, htarget, hid, hnodes⟩ := expansion_cases _ _ h
  · exact ⟨d, type, by rw [htarget], htype⟩
  · obtain ⟨d, type, hlookup, htype⟩ := exists_definition_of_expand hnodes
    refine ⟨d, type, ?_, htype⟩
    rw [htarget, hid]
    exact hlookup

theorem type_inline_ok_iff {r : Reference} (hinline : ctx.isInline r.name = true) :
    ctx.type (.reference r) = .ok nodes ↔
      ∃ d type, ctx.resolve r = some d ∧ d.type = some type ∧ ctx.type type = .ok nodes := by
  constructor
  · intro h
    obtain ⟨d, type, hd, htype⟩ := exists_definition hinline h
    rw [type_inline hinline hd htype] at h
    exact ⟨d, type, hd, htype, h⟩
  · rintro ⟨d, type, hd, htype, h⟩
    rw [type_inline hinline hd htype, h]

end Context

-- What a line for a type is made of.
structure IsTypeLine (ctx : Context) (nodes : List Node) : Prop where
  vocabulary : AreTypeNodes ctx nodes
  unmarked : ∀ e ∈ elementsIn nodes, e.slug = none ∧ e.editUrl = none
  links : ∀ e ∈ elementsIn nodes, e.tag = "a" → ctx.isInline (toTexts e.children) = false

theorem AreTypeNodes.isTypeLine (h : AreTypeNodes ctx nodes) : IsTypeLine ctx nodes where
  vocabulary := h
  unmarked _ he := (h.element he).unmarked
  links _ he := (h.element he).label

-- A reference by an inline name is the line for the type of what it means and nothing else, so that
-- no link has an inline name as its label.
theorem typeLines_closed (ctx : Context) :
    (∀ type nodes, ctx.type? type = .ok nodes → IsTypeLine ctx nodes) ∧
    (∀ d nodes, ctx.declaration d = .ok nodes → IsTypeLine ctx nodes) ∧
    (∀ s nodes, ctx.signature s = .ok nodes → IsTypeLine ctx nodes) ∧
    ∀ r nodes, ctx.isInline r.name = true → (ctx.type (.reference r) = .ok nodes ↔
      ∃ d type, ctx.resolve r = some d ∧ d.type = some type ∧ ctx.type type = .ok nodes) := by
  have hexpand : ∀ name id, GivesTypeNodes ctx (ctx.expand name id) := givesTypeNodes_expand
  have hall := areTypeNodes_hereditary hexpand
  refine ⟨?_, ?_, ?_, ?_⟩
  · intro type nodes h
    exact (givesTypeNodes_optional (fun t _ => hall.forType t) nodes h).isTypeLine
  · intro d nodes h
    exact ((hall.forDeclaration d).1 nodes h).isTypeLine
  · intro s nodes h
    exact ((hall.forSignature s).1 nodes h).isTypeLine
  · intro r nodes hinline
    exact Context.type_inline_ok_iff hinline

-- A page with an external name, one that is known as a name only, an inline one and a placeholder.
def vocabularyContext : Context :=
  { page := "client-api",
    tables :=
      { inline := ["Options"], simple := ["Json"],
        external := [("Promise", "https://promise.test/")],
        substitution := some { name := "M", default := "Json" } },
    style := { read := Markdown.read {}, classMark := "code-block_" },
    symbols := [(.number 7, { name := "Options", type := some (.array (.literal "key")) })] }

def optionsReference : Reference := { name := "Options", targetId := some (.number 7) }

-- A promise of what the inline name, the placeholder or a symbol of the page stands for.
def promisedType : TypeExpr :=
  let log := TypeExpr.reference { name := "Log" }
  .reference
    { name := "Promise", arguments := [.union [.reference optionsReference, .parameter "M", log]] }

theorem typeLines_closed_promised :
    ∃ line declared called expanded,
      vocabularyContext.type? (some promisedType) = .ok line ∧
      toTexts line = "Promise<'key'[] | Json | Log>" ∧ IsTypeLine vocabularyContext line ∧
      vocabularyContext.declaration { name := "log", type := some promisedType } = .ok declared ∧
      IsTypeLine vocabularyContext declared ∧
      vocabularyContext.signature { type := some promisedType } = .ok called ∧
      IsTypeLine vocabularyContext called ∧
      vocabularyContext.isInline optionsReference.name = true ∧
      toTexts expanded = "'key'[]" ∧
      vocabularyContext.type (.reference optionsReference) = .ok expanded := by
  obtain ⟨htype, hdeclaration, hsignature, hinline⟩ := typeLines_closed vocabularyContext
  obtain ⟨line, hline, htext⟩ : ∃ line, vocabularyContext.type? (some promisedType) = .ok line ∧
      toTexts line = "Promise<'key'[] | Json | Log>" :=
    exists_eq_ok_of_toOption (by decide +kernel)
  obtain ⟨declared, hdeclared⟩ : ∃ declared, vocabularyContext.declaration
      { name := "log", type := some promisedType } = .ok declared :=
    exists_eq_ok_of_isSome (by decide +kernel)
  obtain ⟨called, hcalled⟩ : ∃ called,
      vocabularyContext.signature { type := some promisedType } = .ok called :=
    exists_eq_ok_of_isSome (by decide +kernel)
  obtain ⟨expanded, hexpanded, hkey⟩ : ∃ expanded,
      vocabularyContext.type (.array (.literal "key")) = .ok expanded ∧
        toTexts expanded = "'key'[]" :=
    exists_eq_ok_of_toOption (by decide +kernel)
  exact ⟨line, declared, called, expanded, hline, htext, htype _ _ hline, hdeclared,
    hdeclaration _ _ hdeclared, hcalled, hsignature _ _ hcalled, rfl, hkey,
    (hinline optionsReference expanded rfl).mpr ⟨_, _, rfl, rfl, hexpanded⟩⟩

end ApiPages
