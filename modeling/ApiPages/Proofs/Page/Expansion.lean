import ApiPages.Proofs.Page.Congruence
import Mathlib.Data.Finset.Card
import Mathlib.Order.Basic

namespace ApiPages

open Outcome

-- Either there is a result or the input is refused.
def IsSettled {α : Type} (outcome : Except Fault α) : Prop :=
  (∃ a, outcome = .ok a) ∨ ∃ error, outcome = .error (.input error)

-- Two computations have one outcome, and it is settled.
structure Agree {α : Type} (x y : Except Fault α) : Prop where
  same : x = y
  settled : IsSettled x

namespace Agree

variable {α β : Type} {x y : Except Fault α}

theorem refl (h : IsSettled x) : Agree x x := ⟨rfl, h⟩

theorem ok (a : α) : Agree (.ok a) (.ok a) := refl (.inl ⟨a, rfl⟩)

theorem input (error : InputError) : Agree (.error (.input error) : Except Fault α)
    (.error (.input error)) := refl (.inr ⟨error, rfl⟩)

theorem bind {f g : α → Except Fault β} (h : Agree x y) (hf : ∀ a, x = .ok a → Agree (f a) (g a)) :
    Agree (x >>= f) (y >>= g) := by
  obtain ⟨rfl, ⟨a, rfl⟩ | ⟨error, rfl⟩⟩ := h
  · exact hf a rfl
  · exact input error

end Agree

theorem isCongruence_agree : IsCongruence fun _ x y => Agree x y where
  ok := .ok
  input := .input
  bind := .bind

namespace Context

-- A symbol is looked up for an inline name that is mentioned, without its declaration, in a part.
def LooksUp (ctx : Context) (part : ModelPart) (id : SymbolId) : Prop :=
  ∃ r : Reference, (ModelPart.type (.reference r)).Occurs part ∧ ctx.isInline r.name = true ∧
    r.target = none ∧ r.targetId = some id

-- The rank of every symbol of the index is above those of the symbols that its type looks up.
def Descends {ρ : Type} [LT ρ] (ctx : Context) (rank : Int → ρ) : Prop :=
  ∀ id other d type, ctx.symbols.lookup? id = some d → d.type = some type →
    ctx.LooksUp (.type type) other → (ctx.symbols.lookup? other).isSome →
    rank other.value < rank id.value

-- Two ways to look symbols up agree on those that a part looks up.
def AgreeIn (ctx : Context) (expand expand' : String → SymbolId → Rendered) (part : ModelPart) :
    Prop :=
  ∀ name id, ctx.LooksUp part id → Agree (expand name id) (expand' name id)

variable {ctx : Context} {expand expand' : String → SymbolId → Rendered}

theorem AgreeIn.of_occurs {part whole : ModelPart} (h : ctx.AgreeIn expand expand' whole)
    (hp : part.Occurs whole) : ctx.AgreeIn expand expand' part := by
  rintro name id ⟨r, hr, hrest⟩
  exact h name id ⟨r, hr.trans hp, hrest⟩

theorem isSettled_plainNameNodes (name : String) : IsSettled (ctx.plainNameNodes name) := by
  unfold plainNameNodes
  split
  · split
    · dsimp only
      split
      · exact .inr ⟨_, rfl⟩
      · exact .inl ⟨_, rfl⟩
    · exact .inl ⟨_, rfl⟩
  · exact .inl ⟨_, rfl⟩

end Context

open Context

section Parts

variable {ctx : Context} {expand expand' : String → SymbolId → Rendered}

-- What a part renders as depends on nothing but the look-ups that occur in it.
theorem alike_agree (ctx : Context) (expand expand' : String → SymbolId → Rendered) :
    Alike (fun _ x y => Agree x y) ctx ctx expand expand' (ctx.AgreeIn expand expand') where
  calls _ _ h hpart := h.of_occurs (inside_of_mem_calls hpart.mem).occurs
  plain name _ := .refl (isSettled_plainNameNodes name)
  lookUp r id h hinline ht hid := h r.name id ⟨r, .refl _, hinline, ht, hid⟩

theorem agree_partNodes (part : ModelPart) (h : ctx.AgreeIn expand expand' part) :
    Agree (partNodes ctx expand part) (partNodes ctx expand' part) :=
  (alike_agree ctx expand expand').partNodes isCongruence_agree part h

end Parts

namespace Context

section Depth

variable {ρ : Type} [LinearOrder ρ] {ctx : Context} {rank : Int → ρ}

-- The numbers that the index knows, and those of a rank below that of a symbol.
def known (ctx : Context) : Finset Int := (ctx.symbols.map fun entry => entry.1.value).toFinset

def below (ctx : Context) (rank : Int → ρ) (id : SymbolId) : Finset Int :=
  ctx.known.filter fun n => rank n < rank id.value

theorem mem_known {id : SymbolId} (h : (ctx.symbols.lookup? id).isSome) :
    id.value ∈ ctx.known := by
  rw [SymbolIndex.lookup?, Option.isSome_map, List.find?_isSome] at h
  obtain ⟨entry, hm, hid⟩ := h
  rw [known, List.mem_toFinset, List.mem_map]
  exact ⟨entry, hm, of_decide_eq_true hid⟩

theorem card_known_le : ctx.known.card ≤ ctx.symbols.length := by
  simpa [known] using List.toFinset_card_le (ctx.symbols.map fun entry => entry.1.value)

theorem card_below_lt {id : SymbolId} (h : (ctx.symbols.lookup? id).isSome) :
    (ctx.below rank id).card < ctx.symbols.length := by
  have hstrict : ctx.below rank id ⊂ ctx.known := by
    refine Finset.filter_ssubset.mpr ⟨id.value, mem_known h, lt_irrefl _⟩
  exact (Finset.card_lt_card hstrict).trans_le card_known_le

theorem card_below_lt_card_below {id other : SymbolId} (h : (ctx.symbols.lookup? other).isSome)
    (hrank : rank other.value < rank id.value) :
    (ctx.below rank other).card < (ctx.below rank id).card := by
  apply Finset.card_lt_card
  rw [Finset.ssubset_iff_of_subset]
  · refine ⟨other.value, Finset.mem_filter.mpr ⟨mem_known h, hrank⟩, ?_⟩
    intro hm
    exact lt_irrefl _ (Finset.mem_filter.mp hm).2
  · intro n hn
    obtain ⟨hm, hlt⟩ := Finset.mem_filter.mp hn
    exact Finset.mem_filter.mpr ⟨hm, hlt.trans hrank⟩

-- Look-ups that go so deep come to the end of every chain from a symbol: a known symbol may lead
-- on to each one below it and then to an unknown one.
def Fits (ctx : Context) (rank : Int → ρ) (id : SymbolId) (depth : Nat) : Prop :=
  0 < depth ∧ ((ctx.symbols.lookup? id).isSome → (ctx.below rank id).card + 1 < depth)

theorem fits_of_length_lt (id : SymbolId) {depth : Nat} (h : ctx.symbols.length < depth) :
    ctx.Fits rank id depth := by
  refine ⟨by omega, ?_⟩
  intro hid
  have hcard : (ctx.below rank id).card < ctx.symbols.length := card_below_lt hid
  omega

theorem Fits.lookup {id other : SymbolId} {d : Declaration} {type : TypeExpr} {depth : Nat}
    (h : ctx.Fits rank id (depth + 1)) (hdescends : ctx.Descends rank)
    (hid : ctx.symbols.lookup? id = some d) (htype : d.type = some type)
    (hlooks : ctx.LooksUp (.type type) other) : ctx.Fits rank other depth := by
  have hcard := h.2 (by rw [hid]; rfl)
  refine ⟨by omega, ?_⟩
  intro hother
  have hlt := card_below_lt_card_below hother (hdescends id other d type hid htype hlooks hother)
  omega

-- By induction on the depth: what a symbol's type looks up fits into one level less.
theorem agree_expandSymbol (hdescends : ctx.Descends rank) {depth depth' : Nat} (name : String)
    (id : SymbolId) (h : ctx.Fits rank id depth) (h' : ctx.Fits rank id depth') :
    Agree (ctx.expandSymbol depth name id) (ctx.expandSymbol depth' name id) := by
  induction depth generalizing depth' name id with
  | zero => exact absurd h.1 (Nat.lt_irrefl 0)
  | succ depth ih =>
      cases depth' with
      | zero => exact absurd h'.1 (Nat.lt_irrefl 0)
      | succ depth' =>
          rw [expandSymbol, expandSymbol]
          cases hid : ctx.symbols.lookup? id with
          | none => exact .input _
          | some d =>
              cases htype : d.type with
              | none => simpa only [htype] using Agree.input _
              | some type =>
                  simp only [htype]
                  apply agree_partNodes (.type type)
                  intro name other hlooks
                  exact ih name other (h.lookup hdescends hid htype hlooks)
                    (h'.lookup hdescends hid htype hlooks)

theorem agreeIn_expand (hdescends : ctx.Descends rank) {depth : Nat}
    (h : ctx.symbols.length < depth) (part : ModelPart) :
    ctx.AgreeIn (ctx.expandSymbol depth) ctx.expand part := by
  intro name id _
  exact agree_expandSymbol hdescends name id (fits_of_length_lt id h)
    (fits_of_length_lt id (Nat.lt_succ_self _))

-- The limit beyond the size of the index stands for none: a type is rendered with any such limit as
-- with the one that is set.
theorem rendering_settles (hdescends : ctx.Descends rank) :
    (∀ type, IsSettled (ctx.type type)) ∧ (∀ d, IsSettled (ctx.declaration d)) ∧
      (∀ s, IsSettled (ctx.signature s)) ∧
      ∀ depth, ctx.symbols.length < depth →
        (∀ type, typeNodes ctx (ctx.expandSymbol depth) type = ctx.type type) ∧
        (∀ d, declarationNodes ctx (ctx.expandSymbol depth) d = ctx.declaration d) ∧
        ∀ s, signatureNodes ctx (ctx.expandSymbol depth) s = ctx.signature s := by
  have hagree : ∀ depth, ctx.symbols.length < depth → ∀ part,
      ctx.AgreeIn (ctx.expandSymbol depth) ctx.expand part :=
    fun depth hdepth => agreeIn_expand hdescends hdepth
  have hself := hagree _ (Nat.lt_succ_self _)
  refine ⟨?_, ?_, ?_, ?_⟩
  · intro type
    exact (agree_partNodes _ (hself (.type type))).settled
  · intro d
    exact (agree_partNodes _ (hself (.declaration d))).settled
  · intro s
    exact (agree_partNodes _ (hself (.signature s))).settled
  · intro depth hdepth
    refine ⟨?_, ?_, ?_⟩
    · intro type
      exact (agree_partNodes _ (hagree depth hdepth (.type type))).same
    · intro d
      exact (agree_partNodes _ (hagree depth hdepth (.declaration d))).same
    · intro s
      exact (agree_partNodes _ (hagree depth hdepth (.signature s))).same

end Depth

-- An inline name for a list of what another inline name stands for.
def chainContext : Context :=
  { page := "client-api", tables := { inline := ["Options", "Entry"] },
    style := { read := Markdown.read {}, classMark := "" },
    symbols :=
      [(.number 7,
        { name := "Options",
          type := some (.array (.reference { name := "Entry", targetId := some (.number 8) })) }),
       (.number 8, { name := "Entry", type := some (.literal "key") })] }

def chainType : TypeExpr := .reference { name := "Options", targetId := some (.number 7) }

theorem rendering_settles_chainContext :
    chainContext.Descends (fun n : Int => -n) ∧ IsSettled (chainContext.type chainType) ∧
      ∀ depth, 2 < depth →
        typeNodes chainContext (chainContext.expandSymbol depth) chainType =
          chainContext.type chainType := by
  have hdescends : chainContext.Descends (fun n : Int => -n) := by
    rintro id other d type hid htype ⟨r, hr, -, -, hother⟩ -
    rw [SymbolIndex.lookup?, Option.map_eq_some_iff] at hid
    obtain ⟨entry, hentry, rfl⟩ := hid
    have hm := List.mem_of_find?_eq_some hentry
    have hvalue : entry.1.value = id.value := by simpa using List.find?_some hentry
    simp only [chainContext, List.mem_cons, List.not_mem_nil, or_false] at hm
    rcases hm with rfl | rfl
    · cases htype
      obtain h | ⟨middle, hm, hr⟩ := ModelPart.occurs_iff.mp hr
      · cases h
      · rw [List.mem_singleton.mp hm] at hr
        obtain h | ⟨middle, hm, -⟩ := ModelPart.occurs_iff.mp hr
        · cases h
          cases hother
          simp only [← hvalue]
          decide
        · simp at hm
    · cases htype
      obtain h | ⟨middle, hm, -⟩ := ModelPart.occurs_iff.mp hr
      · cases h
      · simp at hm
  obtain ⟨htype, -, -, hdepth⟩ := rendering_settles hdescends
  exact ⟨hdescends, htype chainType, fun depth h => (hdepth depth h).1 chainType⟩

end Context

end ApiPages
