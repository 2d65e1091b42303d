import ApiPages.Proofs.Model.Place
import ApiPages.Proofs.Page.Symbols

namespace ApiPages

namespace SymbolIndex

def keys (index : SymbolIndex) : List Int := index.map (·.1.value)

theorem mem_keys_iff (index : SymbolIndex) (id : SymbolId) :
    id.value ∈ index.keys ↔ (index.lookup? id).isSome = true := by
  rw [lookup?, Option.isSome_map, List.find?_isSome, keys, List.mem_map]
  simp only [decide_eq_true_eq]

-- A key is added only when it is new.
theorem nodup_keys_add {index : SymbolIndex} (h : index.keys.Nodup) (d : Declaration) :
    (index.add d).keys.Nodup := by
  unfold add
  split
  · rename_i id _
    split
    · exact h
    · rename_i hnew
      rw [← mem_keys_iff] at hnew
      rw [keys, List.map_append]
      exact h.append (List.nodup_singleton _) (List.disjoint_singleton.mpr hnew)
  · exact h

theorem nodup_keys_foldl_add (found : List Declaration) {index : SymbolIndex}
    (h : index.keys.Nodup) : (found.foldl add index).keys.Nodup := by
  induction found generalizing index with
  | nil => exact h
  | cons d rest ih => exact ih (nodup_keys_add h d)

end SymbolIndex

-- The first declaration of the page that carries the number, in the order of a walk.
def IsFirstCarrier (ds : List Declaration) (id : SymbolId) (d : Declaration) : Prop :=
  ∃ place, ModelPart.IsFirst (·.carries id) (ds.map .declaration) place d

theorem IsFirstCarrier.carries {ds : List Declaration} {id : SymbolId} {d : Declaration}
    (h : IsFirstCarrier ds id d) : d.carries id = true := by
  obtain ⟨_, hfirst⟩ := h
  exact hfirst.holds

theorem SymbolIndex.lookup?_eq_some_iff (ds : List Declaration) (id : SymbolId) (d : Declaration) :
    (ofDeclarations ds).lookup? id = some d ↔ IsFirstCarrier ds id d := by
  have hwalk : walkAll ds = (ds.map ModelPart.declaration).flatMap ModelPart.walk := by
    rw [walkAll_eq_flatMap, List.flatMap_map]
    rfl
  rw [lookup?_ofDeclarations, hwalk]
  exact ModelPart.find?_walk_eq_some_iff

theorem SymbolIndex.lookup?_eq_none_iff (ds : List Declaration) (id : SymbolId) :
    (ofDeclarations ds).lookup? id = none ↔ ¬ IsKnownIn ds id := by
  rw [← lookup?_isSome_iff, Option.not_isSome_iff_eq_none]

theorem symbolIndex_firstCarrier [Markdown.Extensions] (ds : List Declaration) :
    (SymbolIndex.ofDeclarations ds).keys.Nodup ∧
    (∀ id : SymbolId, id.value ∈ (SymbolIndex.ofDeclarations ds).keys ↔ IsKnownIn ds id) ∧
    (∀ id d, (SymbolIndex.ofDeclarations ds).lookup? id = some d ↔ IsFirstCarrier ds id d) ∧
    ∀ page settings ctx, Context.create page settings ds = .ok ctx → ∀ r : Reference,
      (∀ d, r.target = some d → ctx.resolve r = some d) ∧
      (∀ id, r.target = none → r.targetId = some id → ∀ d,
        (ctx.resolve r = some d ↔ IsFirstCarrier ds id d) ∧
        (ctx.resolve r = some d → d.carries id = true)) ∧
      (ctx.resolve r = none ↔
        r.target = none ∧ ∀ id, r.targetId = some id → ¬ IsKnownIn ds id) := by
  refine ⟨SymbolIndex.nodup_keys_foldl_add _ List.nodup_nil, ?_,
    SymbolIndex.lookup?_eq_some_iff ds, ?_⟩
  · intro id
    rw [SymbolIndex.mem_keys_iff, SymbolIndex.lookup?_isSome_iff]
  · intro page settings ctx hctx r
    have hsymbols : ctx.symbols = SymbolIndex.ofDeclarations ds := (Context.create_ok hctx).2.2
    unfold Context.resolve
    cases htarget : r.target with
    | some target => simp
    | none =>
        simp only [hsymbols]
        refine ⟨by simp, ?_, ?_⟩
        · intro id _ hid d
          rw [hid, Option.bind_some, SymbolIndex.lookup?_eq_some_iff]
          exact ⟨Iff.rfl, fun h => h.carries⟩
        · cases hid : r.targetId with
          | none => simp
          | some id => simp [SymbolIndex.lookup?_eq_none_iff]

-- A class that a page lists with its members, and a bare copy of it in a type that comes before.
def listedClass : Declaration :=
  { name := "Client", kind := some .class_, id := some (.number 7),
    children := [{ name := "close", kind := some .method }] }

def embeddedClass : Declaration :=
  { name := "Client", kind := some .class_, id := some (.number 7) }

def embeddingClass : Declaration :=
  { name := "Pool", kind := some .class_, id := some (.number 3),
    children := [{ name := "client", kind := some .property,
                   type := some (.reference { name := "Client", target := some embeddedClass }) }] }

attribute [local instance] Markdown.noExtensions

theorem symbolIndex_firstCarrier_embeddedClass :
    ∃ ctx, Context.create "pool-api" { root := {}, outputDir := {}, highlightMark := "" }
        [embeddingClass, listedClass] = .ok ctx ∧
      ctx.resolve { name := "Client", targetId := some (.number 7) } = some embeddedClass ∧
      embeddedClass ≠ listedClass := by
  obtain ⟨-, -, hlookup, hresolve⟩ := symbolIndex_firstCarrier [embeddingClass, listedClass]
  obtain ⟨ctx, hctx⟩ : ∃ ctx, Context.create "pool-api"
      { root := {}, outputDir := {}, highlightMark := "" } [embeddingClass, listedClass] =
        .ok ctx := ⟨_, rfl⟩
  have hfirst : IsFirstCarrier [embeddingClass, listedClass] (.number 7) embeddedClass := by
    rw [← hlookup]
    rfl
  refine ⟨ctx, hctx, ?_, ?_⟩
  · exact ((hresolve _ _ _ hctx _).2.1 (.number 7) rfl rfl embeddedClass).1.mpr hfirst
  · intro h
    exact absurd (congrArg (·.children.length) h) (by decide)

end ApiPages
