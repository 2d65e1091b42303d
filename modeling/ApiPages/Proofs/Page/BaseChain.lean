import ApiPages.Proofs.Page.Base

namespace ApiPages

open Outcome

-- The keys that an `Omit` may leave out: one text, or a choice of texts.
inductive LiteralKeys : TypeExpr → List String → Prop
  | literal (value : String) : LiteralKeys (.literal value) [value]
  | union (values : List String) : LiteralKeys (.union (values.map .literal)) values

theorem literalKeys?_union (members : List TypeExpr) (names : List String) :
    (TypeExpr.union members).literalKeys? = some names ↔ members = names.map .literal := by
  simp only [TypeExpr.literalKeys?]
  induction members generalizing names with
  | nil => cases names <;> simp
  | cons member rest ih =>
      rw [List.mapM_cons]
      cases member with
      | literal value => cases names <;> simp [Option.bind_eq_some_iff, ih, and_comm]
      | _ => cases names <;> simp

theorem literalKeys?_eq_some_iff {keys : TypeExpr} {names : List String} :
    keys.literalKeys? = some names ↔ LiteralKeys keys names := by
  constructor
  · intro h
    cases keys with
    | literal value =>
        cases h
        exact .literal value
    | union members =>
        rw [(literalKeys?_union members names).mp h]
        exact .union names
    | _ => cases h
  · intro h
    cases h with
    | literal value => rfl
    | union => exact (literalKeys?_union _ names).mpr rfl

-- The declarations whose names are not among the keys, in their order.
def without (keys : List String) (fields : List Declaration) : List Declaration :=
  fields.filter fun field => !keys.contains field.name

theorem without_nil (fields : List Declaration) : without [] fields = fields := by
  simp [without]

theorem without_without (keys others : List String) (fields : List Declaration) :
    without keys (without others fields) = without (keys ++ others) fields := by
  rw [without, without, List.filter_filter, without]
  congr 1
  funext field
  rw [List.contains_eq_any_beq, List.contains_eq_any_beq, List.contains_eq_any_beq, List.any_append,
    Bool.not_or]

namespace Context

variable {ctx : Context} {base next : TypeExpr} {r : Reference}

-- Where a base type leads to.
def baseStep? (ctx : Context) : TypeExpr → Option TypeExpr
  | .reference r =>
    if r.name = omitName then
      match r.arguments with
      | [source, _] => some source
      | _ => none
    else (ctx.resolve r).bind (·.type)
  | _ => none

def OnChain (ctx : Context) : TypeExpr → TypeExpr → Prop :=
  Relation.ReflTransGen fun base next => ctx.baseStep? base = some next

-- The chain from a base has a last member.
def HasFiniteChain (ctx : Context) (base : TypeExpr) : Prop :=
  ∃ last, ctx.OnChain base last ∧ ctx.baseStep? last = none

-- What has fields of its own: an object, and what a reference means when it has no type.
inductive HasFields (ctx : Context) : TypeExpr → List Declaration → Prop
  | shape (d : Declaration) : HasFields ctx (.shape d) d.children
  | target {r : Reference} {d : Declaration} (hname : r.name ≠ omitName)
      (hd : ctx.resolve r = some d) (htype : d.type = none) :
      HasFields ctx (.reference r) d.children

-- An `Omit` has two arguments, of which the second one is made of texts; other references are known.
def IsSoundBase (ctx : Context) : TypeExpr → Prop
  | .reference r =>
    if r.name = omitName then
      ∃ source keys names, r.arguments = [source, keys] ∧ LiteralKeys keys names
    else ∃ d, ctx.resolve r = some d
  | _ => True

-- The chain from a base is sound all along and ends in something that has fields.
structure Unwraps (ctx : Context) (base : TypeExpr) : Prop where
  sound : ∀ type, ctx.OnChain base type → ctx.IsSoundBase type
  ends : ∃ last fields, ctx.OnChain base last ∧ ctx.HasFields last fields

-- Some `Omit` on the chain leaves the name out.
def LeavesOut (ctx : Context) (base : TypeExpr) (name : String) : Prop :=
  ∃ r source keys names, ctx.OnChain base (.reference r) ∧ r.name = omitName ∧
    r.arguments = [source, keys] ∧ LiteralKeys keys names ∧ name ∈ names

theorem onChain_iff {type : TypeExpr} :
    ctx.OnChain base type ↔
      base = type ∨ ∃ next, ctx.baseStep? base = some next ∧ ctx.OnChain next type :=
  Relation.ReflTransGen.cases_head_iff

theorem HasFields.baseStep? {fields : List Declaration} (h : ctx.HasFields base fields) :
    ctx.baseStep? base = none := by
  cases h with
  | shape d => rfl
  | target hname hd htype => rw [Context.baseStep?, if_neg hname, hd, Option.bind_some, htype]

-- The chain from a base is the base and the chain from where it leads to.
theorem onChain_of_step (hstep : ctx.baseStep? base = some next) {type : TypeExpr} :
    ctx.OnChain base type ↔ base = type ∨ ctx.OnChain next type := by
  rw [onChain_iff, hstep]
  simp only [Option.some.injEq, exists_eq_left']

theorem onChain_of_none (hstep : ctx.baseStep? base = none) {type : TypeExpr} :
    ctx.OnChain base type ↔ base = type := by
  rw [onChain_iff, hstep]
  simp only [reduceCtorEq, false_and, exists_false, or_false]

theorem unwraps_of_step (hstep : ctx.baseStep? base = some next) :
    ctx.Unwraps base ↔ ctx.IsSoundBase base ∧ ctx.Unwraps next := by
  constructor
  · rintro ⟨hsound, last, fields, hlast, hfields⟩
    refine ⟨hsound base .refl, fun type htype => hsound type (.head hstep htype), last, fields, ?_,
      hfields⟩
    rcases (onChain_of_step hstep).mp hlast with rfl | hlast
    · rw [hfields.baseStep?] at hstep
      cases hstep
    · exact hlast
  · rintro ⟨hbase, hsound, last, fields, hlast, hfields⟩
    refine ⟨fun type htype => ?_, last, fields, .head hstep hlast, hfields⟩
    rcases (onChain_of_step hstep).mp htype with rfl | htype
    · exact hbase
    · exact hsound type htype

-- What is left out by a base itself and by what it leads to.
theorem leavesOut_of_step (hstep : ctx.baseStep? base = some next) {name : String} :
    ctx.LeavesOut base name ↔
      (∃ r source keys names, base = .reference r ∧ r.name = omitName ∧
        r.arguments = [source, keys] ∧ LiteralKeys keys names ∧ name ∈ names) ∨
        ctx.LeavesOut next name := by
  simp only [LeavesOut, onChain_of_step hstep, or_and_right, exists_or]

theorem baseChildren_shape (d : Declaration) : ctx.baseChildren (.shape d) = .ok d.children := by
  rw [baseChildren, baseFields]

theorem baseChildren_omit (hname : r.name = omitName) {source keys : TypeExpr}
    (harguments : r.arguments = [source, keys]) {names : List String}
    (hkeys : LiteralKeys keys names) :
    ctx.baseChildren (.reference r) = without names <$> ctx.baseChildren source := by
  rw [baseChildren, baseFields_reference, if_pos hname, harguments]
  simp only [literalKeys?_eq_some_iff.mpr hkeys]
  rfl

-- Beyond the size of the index one more look-up makes no difference.
theorem baseChildren_reference (hname : r.name ≠ omitName) :
    ctx.baseChildren (.reference r) =
      match ctx.resolve r with
      | some d =>
        match d.type with
        | some type => ctx.baseChildren type
        | none => .ok d.children
      | none => .error (.input (.baseUnresolved r.name)) := by
  have hdeep : ctx.symbols.length < ctx.symbols.length + 2 := by omega
  rw [← baseFields_expandFields hdeep, baseFields_reference, if_neg hname, resolve]
  cases htarget : r.target with
  | some d =>
      cases htype : d.type with
      | none => simp only [htype]
      | some type => simp only [htype, baseFields_expandFields hdeep]
  | none =>
      cases hid : r.targetId with
      | none => rfl
      | some id =>
          simp only [Option.bind_some, expandFields]
          rfl

theorem baseChildren_omit_refused (hname : r.name = omitName)
    (h : ¬ ctx.IsSoundBase (.reference r)) :
    ∃ error, ctx.baseChildren (.reference r) = .error (.input error) := by
  rw [IsSoundBase, if_pos hname] at h
  rw [baseChildren, baseFields_reference, if_pos hname]
  split
  · rename_i source keys harguments
    split
    · rename_i names hkeys
      exact absurd ⟨source, keys, names, harguments, literalKeys?_eq_some_iff.mp hkeys⟩ h
    · exact ⟨_, rfl⟩
  · exact ⟨_, rfl⟩

-- The fields of a base are those at the end of its chain without those that are left out on the way.
def UnwrapsTo (ctx : Context) (base : TypeExpr) (result : List Declaration) : Prop :=
  ∃ last fields keys, ctx.OnChain base last ∧ ctx.HasFields last fields ∧
    (∀ name, name ∈ keys ↔ ctx.LeavesOut base name) ∧ result = without keys fields

theorem HasFields.isSoundBase {fields : List Declaration} (h : ctx.HasFields base fields) :
    ctx.IsSoundBase base := by
  cases h with
  | shape d => trivial
  | target hname hd _ => exact (if_neg hname).mpr ⟨_, hd⟩

theorem HasFields.not_leavesOut {fields : List Declaration} (h : ctx.HasFields base fields)
    (name : String) : ¬ ctx.LeavesOut base name := by
  rintro ⟨r, source, keys, names, hr, hname, -⟩
  rw [onChain_of_none h.baseStep?] at hr
  cases h with
  | shape d => cases hr
  | target hother _ _ => cases hr; exact hother hname

theorem HasFields.unwraps {fields : List Declaration} (h : ctx.HasFields base fields) :
    ctx.Unwraps base ∧ ctx.UnwrapsTo base fields := by
  refine ⟨⟨fun type htype => ?_, base, fields, .refl, h⟩, base, fields, [], .refl, h,
    fun name => ?_, (without_nil fields).symm⟩
  · rw [← (onChain_of_none h.baseStep?).mp htype]
    exact h.isSoundBase
  · simp only [List.not_mem_nil, h.not_leavesOut name]

-- A base that leads nowhere has fields or is refused.
theorem unwraps_or_refused_of_none (hstep : ctx.baseStep? base = none) :
    (ctx.Unwraps base ∧ ∃ fields, ctx.UnwrapsTo base fields ∧ ctx.baseChildren base = .ok fields) ∨
      (¬ ctx.Unwraps base ∧ ∃ error, ctx.baseChildren base = .error (.input error)) := by
  have hends : (∀ fields, ¬ ctx.HasFields base fields) → ¬ ctx.Unwraps base := by
    rintro h ⟨-, last, fields, hlast, hfields⟩
    rw [← (onChain_of_none hstep).mp hlast] at hfields
    exact h fields hfields
  cases base with
  | shape d =>
      have hshape : ctx.HasFields (.shape d) d.children := .shape d
      exact .inl ⟨hshape.unwraps.1, d.children, hshape.unwraps.2, baseChildren_shape d⟩
  | reference r =>
      by_cases hname : r.name = omitName
      · refine .inr ⟨hends fun fields h => ?_, ?_⟩
        · cases h with | target hother _ _ => exact hother hname
        · apply baseChildren_omit_refused hname
          rw [IsSoundBase, if_pos hname]
          rintro ⟨source, keys, names, harguments, -⟩
          simp [baseStep?, if_pos hname, harguments] at hstep
      · rw [baseStep?, if_neg hname] at hstep
        rw [baseChildren_reference hname]
        cases hd : ctx.resolve r with
        | none =>
            refine .inr ⟨hends fun fields h => ?_, _, rfl⟩
            cases h with | target _ hother _ => rw [hd] at hother; cases hother
        | some d =>
            rw [hd, Option.bind_some] at hstep
            obtain ⟨hunwraps, hfields⟩ := (HasFields.target hname hd hstep).unwraps
            exact .inl ⟨hunwraps, d.children, hfields, by simp only [hstep]⟩
  | _ =>
      refine .inr ⟨hends fun fields h => (by cases h), ?_⟩
      simp only [baseChildren, baseFields, Except.error.injEq, Fault.input.injEq, exists_eq']

-- Where a base leads to: from an `Omit` to its first argument, else to the type of what it means.
theorem baseStep?_eq_some (hstep : ctx.baseStep? base = some next) :
    ∃ r, base = .reference r ∧
      ((r.name = omitName ∧ ∃ keys, r.arguments = [next, keys]) ∨
        (r.name ≠ omitName ∧ ∃ d, ctx.resolve r = some d ∧ d.type = some next)) := by
  cases base with
  | reference r =>
      refine ⟨r, rfl, ?_⟩
      by_cases hname : r.name = omitName
      · rw [baseStep?, if_pos hname] at hstep
        split at hstep
        · rename_i source keys harguments
          cases hstep
          exact .inl ⟨hname, keys, harguments⟩
        · cases hstep
      · rw [baseStep?, if_neg hname] at hstep
        exact .inr ⟨hname, Option.bind_eq_some_iff.mp hstep⟩
  | _ => cases hstep

section Step

variable {source keys : TypeExpr} {names : List String} {fields : List Declaration}
  {d : Declaration} {type : TypeExpr}

theorem baseStep?_omit (hname : r.name = omitName) (harguments : r.arguments = [source, keys]) :
    ctx.baseStep? (.reference r) = some source := by
  rw [baseStep?, if_pos hname, harguments]

theorem baseStep?_alias (hname : r.name ≠ omitName) (hd : ctx.resolve r = some d)
    (htype : d.type = some type) : ctx.baseStep? (.reference r) = some type := by
  rw [baseStep?, if_neg hname, hd, Option.bind_some, htype]

theorem UnwrapsTo.omit (hname : r.name = omitName) (harguments : r.arguments = [source, keys])
    (hkeys : LiteralKeys keys names) (h : ctx.UnwrapsTo source fields) :
    ctx.UnwrapsTo (.reference r) (without names fields) := by
  obtain ⟨last, found, others, hlast, hfound, hothers, rfl⟩ := h
  have hstep : ctx.baseStep? (.reference r) = some source := baseStep?_omit hname harguments
  refine ⟨last, found, names ++ others, .head hstep hlast, hfound, fun name => ?_,
    without_without names others found⟩
  rw [List.mem_append, leavesOut_of_step hstep, hothers]
  constructor
  · rintro (hname' | hother)
    · exact .inl ⟨r, source, keys, names, rfl, hname, harguments, hkeys, hname'⟩
    · exact .inr hother
  · rintro (⟨r', source', keys', names', hr, -, harguments', hkeys', hmem⟩ | hother)
    · cases hr
      rw [harguments] at harguments'
      cases harguments'
      rw [← literalKeys?_eq_some_iff] at hkeys hkeys'
      cases hkeys.symm.trans hkeys'
      exact .inl hmem
    · exact .inr hother

theorem UnwrapsTo.alias (hname : r.name ≠ omitName) (hd : ctx.resolve r = some d)
    (htype : d.type = some type) (h : ctx.UnwrapsTo type fields) :
    ctx.UnwrapsTo (.reference r) fields := by
  obtain ⟨last, found, keys, hlast, hfound, hkeys, rfl⟩ := h
  have hstep : ctx.baseStep? (.reference r) = some type := baseStep?_alias hname hd htype
  refine ⟨last, found, keys, .head hstep hlast, hfound, fun name => ?_, rfl⟩
  rw [leavesOut_of_step hstep, hkeys]
  constructor
  · exact .inr
  · rintro (⟨r', source, keys', names, hr, hname', -⟩ | hother)
    · cases hr
      exact absurd hname' hname
    · exact hother

end Step

-- By induction on the chain, from its end to the base.
theorem unwraps_or_refused (h : ctx.HasFiniteChain base) :
    (ctx.Unwraps base ∧ ∃ fields, ctx.UnwrapsTo base fields ∧ ctx.baseChildren base = .ok fields) ∨
      (¬ ctx.Unwraps base ∧ ∃ error, ctx.baseChildren base = .error (.input error)) := by
  obtain ⟨last, hchain, hlast⟩ := h
  induction hchain using Relation.ReflTransGen.head_induction_on with
  | refl => exact unwraps_or_refused_of_none hlast
  | @head base next hstep _ ih =>
      have hunwraps : ctx.Unwraps base ↔ ctx.IsSoundBase base ∧ ctx.Unwraps next :=
        unwraps_of_step hstep
      obtain ⟨r, rfl, ⟨hname, keys, harguments⟩ | ⟨hname, d, hd, htype⟩⟩ := baseStep?_eq_some hstep
      · by_cases hsound : ctx.IsSoundBase (.reference r)
        · obtain ⟨source, keys', names, hsame, hkeys⟩ := (if_pos hname).mp hsound
          cases harguments.symm.trans hsame
          rw [hunwraps, baseChildren_omit hname harguments hkeys]
          rcases ih with ⟨hnext, fields, hto, hfields⟩ | ⟨hnext, error, herror⟩
          · exact .inl ⟨⟨hsound, hnext⟩, without names fields, hto.omit hname harguments hkeys,
              by rw [hfields]; rfl⟩
          · exact .inr ⟨fun h => hnext h.2, error, by rw [herror]; rfl⟩
        · exact .inr ⟨fun h => hsound (hunwraps.mp h).1, baseChildren_omit_refused hname hsound⟩
      · have hsound : ctx.IsSoundBase (.reference r) := (if_neg hname).mpr ⟨d, hd⟩
        rw [hunwraps, baseChildren_reference hname]
        simp only [hd, htype, hsound, true_and]
        exact ih.imp (fun ⟨hnext, fields, hto, hfields⟩ =>
          ⟨hnext, fields, hto.alias hname hd htype, hfields⟩) id

end Context

-- What stands around the base in an `Omit`: the keys, and whatever else the mention holds.
structure OmitLayer where
  mention : Reference
  keys : TypeExpr
  names : List String
  literal : LiteralKeys keys names

def OmitLayer.around (layer : OmitLayer) (source : TypeExpr) : TypeExpr :=
  .reference { layer.mention with name := omitName, arguments := [source, layer.keys] }

-- A base inside of nested `Omit`s, the first one outermost.
def omitting (layers : List OmitLayer) (source : TypeExpr) : TypeExpr :=
  layers.foldr OmitLayer.around source

theorem without_congr {keys others : List String} (h : ∀ name, name ∈ keys ↔ name ∈ others)
    (fields : List Declaration) : without keys fields = without others fields := by
  rw [without, without]
  congr 1
  funext field
  have hsame : keys.contains field.name = others.contains field.name := by
    rw [Bool.eq_iff_iff, List.contains_iff_mem, List.contains_iff_mem]
    exact h field.name
  rw [hsame]

namespace Context

variable {ctx : Context} {base : TypeExpr}

theorem baseChildren_omitting (layers : List OmitLayer) (source : TypeExpr) :
    ctx.baseChildren (omitting layers source) =
      without (layers.flatMap (·.names)) <$> ctx.baseChildren source := by
  induction layers with
  | nil =>
      have hid : without [] = id := funext without_nil
      rw [List.flatMap_nil, hid, id_map]
      rfl
  | cons layer rest ih =>
      have houter : ctx.baseChildren (layer.around (omitting rest source)) =
          without layer.names <$> ctx.baseChildren (omitting rest source) :=
        baseChildren_omit rfl rfl layer.literal
      have hcompose : without (layer.names ++ rest.flatMap (·.names)) =
          without layer.names ∘ without (rest.flatMap (·.names)) :=
        funext fun fields => (without_without _ _ fields).symm
      rw [List.flatMap_cons, hcompose, comp_map, ← ih, ← houter]
      rfl

theorem baseChildren_omitting_perm {layers others : List OmitLayer} (h : layers.Perm others)
    (source : TypeExpr) :
    ctx.baseChildren (omitting layers source) = ctx.baseChildren (omitting others source) := by
  have hsame : without (layers.flatMap (·.names)) = without (others.flatMap (·.names)) :=
    funext (without_congr fun name => (h.flatMap_right _).mem_iff)
  rw [baseChildren_omitting, baseChildren_omitting, hsame]

-- A base whose chain ends has the fields of this end without those that are left out on the way if
-- the chain is sound and ends in something with fields, and is refused otherwise. Nested `Omit`s
-- leave out what each of them does, in any order.
theorem baseChildren_of_finite_chain (h : ctx.HasFiniteChain base) :
    ((∃ fields, ctx.baseChildren base = .ok fields) ↔ ctx.Unwraps base) ∧
    (∀ fields, ctx.baseChildren base = .ok fields → ctx.UnwrapsTo base fields) ∧
    (¬ ctx.Unwraps base → ∃ error, ctx.baseChildren base = .error (.input error)) ∧
    ∀ layers others : List OmitLayer, layers.Perm others →
      ctx.baseChildren (omitting layers base) =
        without (layers.flatMap (·.names)) <$> ctx.baseChildren base ∧
      ctx.baseChildren (omitting others base) = ctx.baseChildren (omitting layers base) := by
  have hnested : ∀ layers others : List OmitLayer, layers.Perm others →
      ctx.baseChildren (omitting layers base) =
        without (layers.flatMap (·.names)) <$> ctx.baseChildren base ∧
      ctx.baseChildren (omitting others base) = ctx.baseChildren (omitting layers base) :=
    fun layers others hperm =>
      ⟨baseChildren_omitting layers base, (baseChildren_omitting_perm hperm base).symm⟩
  rcases unwraps_or_refused h with ⟨hunwraps, fields, hto, hfields⟩ | ⟨hnot, error, herror⟩
  · refine ⟨iff_of_true ⟨fields, hfields⟩ hunwraps, fun other hother => ?_,
      fun hnot => absurd hunwraps hnot, hnested⟩
    cases hfields.symm.trans hother
    exact hto
  · have hnone : ∀ fields, ctx.baseChildren base ≠ .ok fields := by
      intro fields hfields
      cases herror.symm.trans hfields
    exact ⟨iff_of_false (fun ⟨fields, hfields⟩ => hnone fields hfields) hnot,
      fun fields hfields => absurd hfields (hnone fields), fun _ => ⟨error, herror⟩, hnested⟩

-- A name for what is left of an object, of which one more key is left out.
def shorterContext : Context :=
  { page := "client-api", style := { read := Markdown.read {}, classMark := "" },
    symbols :=
      [(.number 7,
        { name := "Settings",
          type := some (omitting [⟨{ name := "" }, _, _, .union ["host", "port"]⟩]
            (.reference { name := "Base", targetId := some (.number 8) })) }),
       (.number 8,
        { name := "Base",
          children := ["host", "retry", "port", "token"].map fun name => { name } })] }

def shorterBase : TypeExpr :=
  omitting [⟨{ name := "" }, _, _, .literal "token"⟩]
    (.reference { name := "Settings", targetId := some (.number 7) })

theorem baseChildren_of_finite_chain_shorterBase :
    shorterContext.HasFiniteChain shorterBase ∧ shorterContext.Unwraps shorterBase ∧
      ∃ fields, shorterContext.baseChildren shorterBase = .ok fields ∧
        fields.map (·.name) = ["retry"] ∧ shorterContext.UnwrapsTo shorterBase fields := by
  have hfinite : shorterContext.HasFiniteChain shorterBase :=
    ⟨_, .head rfl (.head rfl (.head rfl .refl)), rfl⟩
  obtain ⟨hiff, hresult, -⟩ := baseChildren_of_finite_chain hfinite
  have hfields : shorterContext.baseChildren shorterBase = .ok [{ name := "retry" }] := rfl
  exact ⟨hfinite, hiff.mp ⟨_, hfields⟩, _, hfields, rfl, hresult _ hfields⟩

end Context

end ApiPages
