import ApiPages.Proofs.Document.Slugs

namespace ApiPages.Node

mutual

def elements : Node → List Element
  | .text _ => []
  | .element ⟨tag, properties, children, slug, editUrl, noClass, noSlug⟩ =>
    ⟨tag, properties, children, slug, editUrl, noClass, noSlug⟩ :: elementsIn children

-- The elements among the nodes and inside of them.
def elementsIn : List Node → List Element
  | [] => []
  | node :: rest => node.elements ++ elementsIn rest

end

@[simp] theorem elements_text (s : String) : (Node.text s).elements = [] := rfl

@[simp] theorem elements_element (e : Element) :
    (Node.element e).elements = e :: elementsIn e.children := by
  cases e
  rw [elements]

@[simp] theorem elementsIn_nil : elementsIn [] = [] := rfl

@[simp] theorem elementsIn_cons (node : Node) (rest : List Node) :
    elementsIn (node :: rest) = node.elements ++ elementsIn rest := rfl

@[simp] theorem elementsIn_append (nodes others : List Node) :
    elementsIn (nodes ++ others) = elementsIn nodes ++ elementsIn others := by
  induction nodes with
  | nil => rfl
  | cons node rest ih => simp [ih]

mutual

theorem slugs_eq_filterMap : (node : Node) → node.slugs = node.elements.filterMap (·.slug)
  | .text _ => rfl
  | .element ⟨tag, properties, children, slug, editUrl, noClass, noSlug⟩ => by
      have hchildren := slugsIn_eq_filterMap children
      cases slug <;> simp [hchildren]

theorem slugsIn_eq_filterMap : (nodes : List Node) →
    slugsIn nodes = (elementsIn nodes).filterMap (·.slug)
  | [] => rfl
  | node :: rest => by
      have hnode := slugs_eq_filterMap node
      have hrest := slugsIn_eq_filterMap rest
      simp [hnode, hrest]

end

-- The elements with an anchor.
def anchoredIn (nodes : List Node) : List Element :=
  (elementsIn nodes).filter fun e => e.slug.isSome

@[simp] theorem anchoredIn_nil : anchoredIn [] = [] := rfl

@[simp] theorem anchoredIn_append (nodes others : List Node) :
    anchoredIn (nodes ++ others) = anchoredIn nodes ++ anchoredIn others := by
  simp [anchoredIn]

-- An element stands in front of what is inside of it.
theorem anchoredIn_element_cons (e : Element) (rest : List Node) :
    anchoredIn (.element e :: rest) =
      (if e.slug.isSome then [e] else []) ++ anchoredIn e.children ++ anchoredIn rest := by
  cases hslug : e.slug <;> simp [anchoredIn, hslug]

theorem anchoredIn_eq_nil {nodes : List Node} (h : slugsIn nodes = []) : anchoredIn nodes = [] := by
  rw [slugsIn_eq_filterMap, List.filterMap_eq_nil_iff] at h
  rw [anchoredIn, List.filter_eq_nil_iff]
  intro e he
  simp [h e he]

def isSection (e : Element) : Bool := e.tag = "section" || e.tag = "article"

mutual

theorem sectionCount_eq_countP : (node : Node) → node.sectionCount = node.elements.countP isSection
  | .text _ => rfl
  | .element ⟨tag, properties, children, slug, editUrl, noClass, noSlug⟩ => by
      have hchildren := sectionCounts_eq_countP children
      rw [sectionCount, elements_element, List.countP_cons, hchildren, Nat.add_comm]
      simp [isSection]

theorem sectionCounts_eq_countP : (nodes : List Node) →
    sectionCounts nodes = (elementsIn nodes).countP isSection
  | [] => rfl
  | node :: rest => by
      have hnode := sectionCount_eq_countP node
      have hrest := sectionCounts_eq_countP rest
      rw [sectionCounts, elementsIn_cons, List.countP_append, hnode, hrest]

end

end ApiPages.Node
