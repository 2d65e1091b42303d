import ApiPages.Proofs.Page.Reach

namespace ApiPages

open Outcome

section Cycles

variable {π : Type} {next : π → π → Prop} {known : Finset Int} {behind : Int → Option π}
  {deep : Nat → π → Prop}

-- By induction on the number of look-ups that are left, with those of the numbers that have been met
-- on the way. Each one that is met anew leaves fewer to be met.
theorem exists_cycle_of_visited
    (hstep : ∀ n p, deep (n + 1) p → ∃ v ∈ known, ∃ q, behind v = some q ∧
      Relation.TransGen next p q ∧ deep n q)
    (n : Nat) (p : π) (visited : Finset Int) (hvisited : visited ⊆ known)
    (hn : known.card < visited.card + n)
    (hbehind : ∀ v ∈ visited, ∃ q, behind v = some q ∧ Relation.ReflTransGen next q p)
    (hdeep : deep n p) : ∃ q, Relation.ReflTransGen next p q ∧ Relation.TransGen next q q := by
  induction n generalizing p visited with
  | zero =>
      have hcard := Finset.card_le_card hvisited
      omega
  | succ n ih =>
      obtain ⟨v, hv, q, hq, hpq, hdeep⟩ := hstep n p hdeep
      by_cases hmet : v ∈ visited
      · obtain ⟨q', hq', hq'p⟩ := hbehind v hmet
        cases hq.symm.trans hq'
        exact ⟨q, hpq.to_reflTransGen, hpq.trans_right hq'p⟩
      · have hinsert : ∀ w ∈ insert v visited,
            ∃ q', behind w = some q' ∧ Relation.ReflTransGen next q' q := by
          intro w hw
          rcases Finset.mem_insert.mp hw with rfl | hw
          · exact ⟨q, hq, .refl⟩
          · obtain ⟨q', hq', hq'p⟩ := hbehind w hw
            exact ⟨q', hq', hq'p.trans hpq.to_reflTransGen⟩
        have hcard : known.card < (insert v visited).card + n := by
          rw [Finset.card_insert_of_notMem hmet]
          omega
        obtain ⟨c, hqc, hcycle⟩ := ih q _ (Finset.insert_subset hv hvisited) hcard hinsert hdeep
        exact ⟨c, hpq.to_reflTransGen.trans hqc, hcycle⟩

theorem exists_cycle
    (hstep : ∀ n p, deep (n + 1) p → ∃ v ∈ known, ∃ q, behind v = some q ∧
      Relation.TransGen next p q ∧ deep n q)
    {n : Nat} {p : π} (hn : known.card < n) (hdeep : deep n p) :
    ∃ q, Relation.ReflTransGen next p q ∧ Relation.TransGen next q q :=
  exists_cycle_of_visited hstep n p ∅ (Finset.empty_subset _) (by simpa using hn)
    (fun _ hv => absurd hv (Finset.notMem_empty _)) hdeep

end Cycles

theorem isCongruence_failsOnly {allowed : Fault → Prop} (h : ∀ error, allowed (.input error)) :
    IsCongruence fun _ x _ => FailsOnly allowed x where
  ok := .pure
  input error := .error (h error)
  bind := .bind

-- The input is refused, or there are look-ups without end.
inductive LookUpFault (endless : Prop) : Fault → Prop
  | input (error : InputError) : LookUpFault endless (.input error)
  | tooDeep (h : endless) : LookUpFault endless .tooDeep

namespace Context

variable {ctx : Context}

theorem plainNameNodes_failsOnly {allowed : Fault → Prop} (h : ∀ error, allowed (.input error))
    (name : String) : FailsOnly allowed (ctx.plainNameNodes name) := by
  rcases ctx.isSettled_plainNameNodes name with ⟨nodes, hnodes⟩ | ⟨error, herror⟩
  · rw [hnodes]
    exact .pure nodes
  · rw [herror]
    exact .error (h error)

-- A rendering has too many look-ups only if one of those that it comes to has.
theorem part_failsOnly {allowed : Fault → Prop} (hinput : ∀ error, allowed (.input error))
    {depth : Nat} {part : ModelPart}
    (h : ∀ r id, Relation.ReflTransGen ctx.Leads part (.type (.reference r)) →
      ctx.isInline r.name = true → r.target = none → r.targetId = some id →
      FailsOnly allowed (ctx.expandSymbol depth r.name id)) :
    FailsOnly allowed (partNodes ctx (ctx.expandSymbol depth) part) := by
  have halike : Alike (fun _ x _ => FailsOnly allowed x) ctx ctx (ctx.expandSymbol depth)
      (ctx.expandSymbol depth) (Relation.ReflTransGen ctx.Leads part) :=
    { calls := fun whole inner hwhole hinner =>
        hwhole.tail (.inside (hinner.imp fun _ => givesNodes_of_expandSymbol))
      plain := fun name _ => plainNameNodes_failsOnly hinput name
      lookUp := h }
  exact halike.partNodes (isCongruence_failsOnly hinput) part .refl

theorem expandSymbol_failsOnly (depth : Nat) (name : String) (id : SymbolId) :
    FailsOnly (LookUpFault True) (ctx.expandSymbol depth name id) := by
  induction depth generalizing name id with
  | zero => exact .error (.tooDeep trivial)
  | succ depth ih =>
      rw [expandSymbol]
      split
      · split
        · rename_i type _
          have hpart : FailsOnly (LookUpFault True)
              (partNodes ctx (ctx.expandSymbol depth) (.type type)) :=
            part_failsOnly .input fun r id _ _ _ _ => ih r.name id
          exact hpart
        · exact .error (.input _)
      · exact .error (.input _)

-- The type behind the symbol with a number.
def typeBehind (ctx : Context) (value : Int) : Option TypeExpr :=
  (ctx.symbols.lookup? (.number value)).bind (·.type)

theorem typeBehind_eq {id : SymbolId} {d : Declaration} (hd : ctx.symbols.lookup? id = some d) :
    ctx.typeBehind id.value = d.type := by
  have hvalue : ctx.symbols.lookup? (.number id.value) = ctx.symbols.lookup? id :=
    ctx.symbols.lookup?_eq_of_value rfl
  rw [typeBehind, hvalue, hd, Option.bind_some]

-- There are more look-ups in a part than so many.
def IsDeep (ctx : Context) (depth : Nat) (part : ModelPart) : Prop :=
  partNodes ctx (ctx.expandSymbol depth) part = .error .tooDeep

-- One of the look-ups that a rendering comes to has too many behind it in turn.
theorem IsDeep.next (depth : Nat) (part : ModelPart) (h : ctx.IsDeep (depth + 1) part) :
    ∃ value ∈ ctx.known, ∃ whole, (ctx.typeBehind value).map .type = some whole ∧
      Relation.TransGen ctx.Leads part whole ∧ ctx.IsDeep depth whole := by
  let found : Prop := ∃ value ∈ ctx.known, ∃ whole, (ctx.typeBehind value).map .type = some whole ∧
    Relation.TransGen ctx.Leads part whole ∧ ctx.IsDeep depth whole
  have hfails : FailsOnly (fun fault => fault = .tooDeep → found)
      (partNodes ctx (ctx.expandSymbol (depth + 1)) part) := by
    refine part_failsOnly (fun _ h => by cases h) fun r id hr hinline ht hid fault hdeep heq => ?_
    subst heq
    rw [expandSymbol] at hdeep
    cases hd : ctx.symbols.lookup? id with
    | none => rw [hd] at hdeep; cases hdeep
    | some d =>
        cases htype : d.type with
        | none => simp only [hd, htype] at hdeep; cases hdeep
        | some type =>
            simp only [hd, htype] at hdeep
            refine ⟨id.value, mem_known (by rw [hd]; rfl), .type type, ?_, ?_, hdeep⟩
            · rw [typeBehind_eq hd, htype, Option.map_some]
            · exact .tail' hr (.lookUp hinline ht hid hd htype)
  exact hfails _ h rfl

-- A part leads to one that leads back to itself.
def LeadsToCycle (ctx : Context) (part : ModelPart) : Prop :=
  ∃ whole, Relation.ReflTransGen ctx.Leads part whole ∧ Relation.TransGen ctx.Leads whole whole

theorem part_lookUpFault (part : ModelPart) :
    FailsOnly (LookUpFault (ctx.LeadsToCycle part)) (ctx.part part) := by
  intro fault hfault
  have hall : FailsOnly (LookUpFault True) (ctx.part part) :=
    part_failsOnly .input fun r id _ _ _ _ => expandSymbol_failsOnly _ r.name id
  cases hall fault hfault with
  | input error => exact .input error
  | tooDeep =>
      have hdeep : ctx.IsDeep (ctx.symbols.length + 1) part := hfault
      exact .tooDeep (exists_cycle IsDeep.next (card_known_le.trans_lt (Nat.lt_succ_self _)) hdeep)

-- Following a base comes to the type that is looked up for it.
def BaseLeads (ctx : Context) (base type : TypeExpr) : Prop :=
  ∃ r id d, EndsIn base r ∧ r.targetId = some id ∧ ctx.symbols.lookup? id = some d ∧
    d.type = some type

theorem baseFields_failsOnly {allowed : Fault → Prop} (hinput : ∀ error, allowed (.input error))
    {expand : String → SymbolId → Fields} {base : TypeExpr}
    (h : ∀ r id, EndsIn base r → r.targetId = some id → FailsOnly allowed (expand r.name id)) :
    FailsOnly allowed (baseFields expand base) :=
  @IsCongruence.baseFields _ (isCongruence_failsOnly hinput) expand expand base h

theorem expandFields_failsOnly (depth : Nat) (name : String) (id : SymbolId) :
    FailsOnly (LookUpFault True) (ctx.expandFields depth name id) := by
  induction depth generalizing name id with
  | zero => exact .error (.tooDeep trivial)
  | succ depth ih =>
      rw [expandFields]
      split
      · split
        · exact baseFields_failsOnly .input fun r id _ _ => ih r.name id
        · exact .pure _
      · exact .error (.input _)

-- There are more look-ups behind a base than so many.
def IsDeepBase (ctx : Context) (depth : Nat) (base : TypeExpr) : Prop :=
  baseFields (ctx.expandFields depth) base = .error .tooDeep

theorem IsDeepBase.next (depth : Nat) (base : TypeExpr) (h : ctx.IsDeepBase (depth + 1) base) :
    ∃ value ∈ ctx.known, ∃ type, ctx.typeBehind value = some type ∧
      Relation.TransGen ctx.BaseLeads base type ∧ ctx.IsDeepBase depth type := by
  let found : Prop := ∃ value ∈ ctx.known, ∃ type, ctx.typeBehind value = some type ∧
    Relation.TransGen ctx.BaseLeads base type ∧ ctx.IsDeepBase depth type
  have hfails : FailsOnly (fun fault => fault = .tooDeep → found)
      (baseFields (ctx.expandFields (depth + 1)) base) := by
    refine baseFields_failsOnly (fun _ h => by cases h) fun r id hr hid fault hdeep heq => ?_
    subst heq
    rw [expandFields] at hdeep
    cases hd : ctx.symbols.lookup? id with
    | none => rw [hd] at hdeep; cases hdeep
    | some d =>
        cases htype : d.type with
        | none => simp only [hd, htype] at hdeep; cases hdeep
        | some type =>
            simp only [hd, htype] at hdeep
            refine ⟨id.value, mem_known (by rw [hd]; rfl), type, ?_, ?_, hdeep⟩
            · rw [typeBehind_eq hd, htype]
            · exact .single ⟨r, id, d, hr, hid, hd, htype⟩
  exact hfails _ h rfl

-- A base leads to one that leads back to itself.
def BaseLeadsToCycle (ctx : Context) (base : TypeExpr) : Prop :=
  ∃ type, Relation.ReflTransGen ctx.BaseLeads base type ∧ Relation.TransGen ctx.BaseLeads type type

theorem baseChildren_lookUpFault (base : TypeExpr) :
    FailsOnly (LookUpFault (ctx.BaseLeadsToCycle base)) (ctx.baseChildren base) := by
  intro fault hfault
  have hall : FailsOnly (LookUpFault True) (ctx.baseChildren base) :=
    baseFields_failsOnly .input fun r id _ _ => expandFields_failsOnly _ r.name id
  cases hall fault hfault with
  | input error => exact .input error
  | tooDeep =>
      have hdeep : ctx.IsDeepBase (ctx.symbols.length + 1) base := hfault
      exact .tooDeep
        (exists_cycle IsDeepBase.next (card_known_le.trans_lt (Nat.lt_succ_self _)) hdeep)

end Context

end ApiPages
