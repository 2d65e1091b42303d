import ApiPages.Page.Context
import ApiPages.Proofs.Model.Walk

namespace ApiPages

def Declaration.carries (id : SymbolId) (d : Declaration) : Bool :=
  d.id.any fun own => own.value = id.value

theorem Declaration.carries_iff {id : SymbolId} {d : Declaration} :
    d.carries id = true ↔ ∃ own, d.id = some own ∧ own.value = id.value := by
  rw [carries, Option.any_eq_true]
  simp

namespace SymbolIndex

theorem lookup?_eq_of_value (index : SymbolIndex) {id other : SymbolId}
    (h : id.value = other.value) : index.lookup? id = index.lookup? other := by
  rw [lookup?, lookup?, h]

theorem lookup?_append (index : SymbolIndex) (own id : SymbolId) (d : Declaration) :
    lookup? (index ++ [(own, d)]) id =
      (index.lookup? id).or (if own.value = id.value then some d else none) := by
  rw [lookup?, lookup?, List.find?_append, Option.map_or]
  split <;> simp [*]

theorem lookup?_add (index : SymbolIndex) (id : SymbolId) (d : Declaration) :
    (index.add d).lookup? id =
      (index.lookup? id).or (if d.carries id then some d else none) := by
  unfold add
  cases hd : d.id with
  | none => simp [Declaration.carries, hd]
  | some own =>
      have hcarries : d.carries id = decide (own.value = id.value) := by
        simp [Declaration.carries, hd]
      rw [hcarries]
      dsimp only
      split
      · rename_i hsome
        by_cases hid : own.value = id.value
        · rw [index.lookup?_eq_of_value hid] at hsome
          rw [Option.or_of_isSome hsome]
        · simp [hid]
      · simpa using index.lookup?_append own id d

-- By induction on what is walked over, for every index to start with.
theorem lookup?_foldl_add (found : List Declaration) (index : SymbolIndex) (id : SymbolId) :
    (found.foldl add index).lookup? id = (index.lookup? id).or (found.find? (·.carries id)) := by
  induction found generalizing index with
  | nil => simp
  | cons d rest ih =>
      rw [List.foldl_cons, ih, lookup?_add, List.find?_cons, Option.or_assoc]
      cases d.carries id <;> simp

theorem lookup?_ofDeclarations (ds : List Declaration) (id : SymbolId) :
    (ofDeclarations ds).lookup? id = (walkAll ds).find? (·.carries id) := by
  rw [ofDeclarations, lookup?_foldl_add]
  rfl

theorem occurs_of_lookup? {ds : List Declaration} {id : SymbolId} {found : Declaration}
    (h : (ofDeclarations ds).lookup? id = some found) :
    ∃ d ∈ ds, (ModelPart.declaration found).Occurs (.declaration d) := by
  rw [lookup?_ofDeclarations] at h
  exact occurs_of_mem_walkAll (List.mem_of_find?_eq_some h)

end SymbolIndex

theorem Context.create_ok [Markdown.Extensions] {ctx : Context} {p : String} {settings : Settings}
    {ds : List Declaration} (h : Context.create p settings ds = .ok ctx) :
    ctx.page = p ∧ ctx.tables = settings.tables ∧ ctx.symbols = SymbolIndex.ofDeclarations ds := by
  unfold create at h
  cases hstyle : styleOf settings with
  | error fault => rw [hstyle] at h; cases h
  | ok style => rw [hstyle] at h; cases h; exact ⟨rfl, rfl, rfl⟩

-- Some declaration that a walk over the page yields carries the number.
def IsKnownIn (ds : List Declaration) (id : SymbolId) : Prop :=
  ∃ d ∈ ds, ∃ found ∈ d.walk, found.carries id = true

theorem SymbolIndex.lookup?_isSome_iff (ds : List Declaration) (id : SymbolId) :
    ((ofDeclarations ds).lookup? id).isSome = true ↔ IsKnownIn ds id := by
  rw [lookup?_ofDeclarations, List.find?_isSome, walkAll_eq_flatMap]
  simp only [List.mem_flatMap, IsKnownIn]
  constructor
  · rintro ⟨found, ⟨d, hd, hfound⟩, hcarries⟩
    exact ⟨d, hd, found, hfound, hcarries⟩
  · rintro ⟨d, hd, found, hfound, hcarries⟩
    exact ⟨found, ⟨d, hd, hfound⟩, hcarries⟩

-- A walk yields the declarations that it comes to, and what else stands in a declaration stands in a
-- part that is passed by. The numbers of the page and the references that go by them are known
-- accordingly.
theorem walk_reach [Markdown.Extensions] (ds : List Declaration) :
    (∀ d found : Declaration,
      found ∈ d.walk ↔ (ModelPart.declaration d).WalksTo (.declaration found)) ∧
    (∀ d found : Declaration, (ModelPart.declaration found).Occurs (.declaration d) →
      found ∈ d.walk ∨ ∃ holder part, (ModelPart.declaration d).WalksTo holder ∧
        part ∈ holder.passed ∧ (ModelPart.declaration found).Occurs part) ∧
    (∀ id, ((SymbolIndex.ofDeclarations ds).lookup? id).isSome = true ↔ IsKnownIn ds id) ∧
    ∀ page settings ctx, Context.create page settings ds = .ok ctx →
      ∀ r id, r.target = none → r.targetId = some id →
        ((ctx.resolve r).isSome = true ↔ IsKnownIn ds id) := by
  have hwalk : ∀ d found : Declaration,
      found ∈ d.walk ↔ (ModelPart.declaration d).WalksTo (.declaration found) :=
    fun d _ => @ModelPart.mem_walk_iff (.declaration d) _
  refine ⟨hwalk, ?_, SymbolIndex.lookup?_isSome_iff ds, ?_⟩
  · intro d found hoccurs
    rw [hwalk]
    exact hoccurs.walksTo_or_passed
  · intro page settings ctx hctx r id htarget hid
    have hresolve : ctx.resolve r = (SymbolIndex.ofDeclarations ds).lookup? id := by
      rw [Context.resolve, htarget, hid, (Context.create_ok hctx).2.2]
      rfl
    rw [hresolve]
    exact SymbolIndex.lookup?_isSome_iff ds id

-- A shape inside a list that is a parameter of a child.
def nestedShape : Declaration :=
  { name := "__type", kind := some .typeLiteral, id := some (.number 7) }

def nestingClass : Declaration :=
  { name := "Client", kind := some .class_,
    children := [{ name := "on", kind := some .method, signatures := [{ parameters :=
      [{ name := "events", type := some (.array (.union [.shape nestedShape])) }] }] }] }

attribute [local instance] Markdown.noExtensions

theorem walk_reach_nestingClass :
    (ModelPart.declaration nestingClass).WalksTo (.declaration nestedShape) ∧
      ∃ ctx, Context.create "client-api" { root := {}, outputDir := {}, highlightMark := "" }
          [nestingClass] = .ok ctx ∧
        (ctx.resolve { name := "Event", targetId := some (.number 7) }).isSome = true := by
  have hnested : nestedShape ∈ nestingClass.walk := by
    simp [nestingClass, Declaration.walk, walkAll, walkSignatures, walkType?, TypeExpr.walk,
      walkTypes, nestedShape]
  obtain ⟨hwalk, -, -, hresolve⟩ := walk_reach [nestingClass]
  obtain ⟨ctx, hctx⟩ : ∃ ctx, Context.create "client-api"
      { root := {}, outputDir := {}, highlightMark := "" } [nestingClass] = .ok ctx := ⟨_, rfl⟩
  refine ⟨(hwalk _ _).mp hnested, ctx, hctx, ?_⟩
  rw [hresolve _ _ _ hctx _ (.number 7) rfl rfl]
  exact ⟨nestingClass, List.mem_singleton_self _, nestedShape, hnested, by decide⟩

-- A function that returns a shape with a number.
def returnedShape : Declaration :=
  { name := "__type", kind := some .typeLiteral, id := some (.number 5) }

def shapeReader : Declaration :=
  { name := "read", kind := some .function, id := some (.number 1),
    signatures := [{ name := "read", kind := some .callSignature,
                     type := some (.shape returnedShape) }] }

theorem walk_misses_returnedShape :
    (ModelPart.declaration returnedShape).Occurs (.declaration shapeReader) ∧
      returnedShape ∉ shapeReader.walk ∧
      (SymbolIndex.ofDeclarations [shapeReader]).lookup? (.number 5) = none := by
  have hwalk : shapeReader.walk = [shapeReader] := by
    simp [shapeReader, Declaration.walk, walkAll, walkSignatures, walkType?]
  have htype : (ModelPart.declaration returnedShape).Occurs (.type (.shape returnedShape)) :=
    .inner (by simp)
  refine ⟨?_, ?_, ?_⟩
  · have hsignature : ∀ s ∈ shapeReader.signatures,
        (ModelPart.declaration returnedShape).Occurs (.signature s) := by
      intro s hs
      cases List.mem_singleton.mp hs
      exact htype.of_inner (by simp)
    exact (hsignature _ List.mem_cons_self).of_inner (by simp [shapeReader])
  · rw [hwalk, List.mem_singleton]
    intro h
    exact absurd (congrArg Declaration.name h) (by decide)
  · rw [SymbolIndex.lookup?_ofDeclarations, walkAll, hwalk, walkAll]
    decide

end ApiPages
