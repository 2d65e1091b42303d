import ApiPages.Proofs.Page.Limit

namespace ApiPages

-- The reference that a base leads to, when only its number is known.
inductive EndsIn : TypeExpr → Reference → Prop
  | here {r : Reference} (hname : r.name ≠ omitName) (htarget : r.target = none) :
      EndsIn (.reference r) r
  | omitted {r last : Reference} {source keys : TypeExpr} (hname : r.name = omitName)
      (harguments : r.arguments = [source, keys]) (h : EndsIn source last) :
      EndsIn (.reference r) last
  | target {r last : Reference} {d : Declaration} {type : TypeExpr} (hname : r.name ≠ omitName)
      (htarget : r.target = some d) (htype : d.type = some type) (h : EndsIn type last) :
      EndsIn (.reference r) last

theorem EndsIn.occurs {base : TypeExpr} {r : Reference} (h : EndsIn base r) :
    (ModelPart.type (.reference r)).Occurs (.type base) := by
  induction h with
  | here => exact .refl _
  | omitted _ harguments _ ih => exact ih.of_inner (by simp [harguments])
  | @target r last d type _ htarget htype _ ih =>
      have hd : ModelPart.type type ∈ (ModelPart.declaration d).inner := by simp [htype]
      exact (ih.of_inner hd).of_inner (by simp [htarget])

theorem baseFields_reference (expand : String → SymbolId → Fields) (r : Reference) :
    baseFields expand (.reference r) =
      if r.name = omitName then
        match r.arguments with
        | [source, keys] =>
          match keys.literalKeys? with
          | some omitted => do
            return (← baseFields expand source).filter fun field => !omitted.contains field.name
          | none => .error (.input (.omitKeys keys))
        | arguments => .error (.input (.omitArguments arguments))
      else
        match r.target with
        | some d =>
          match d.type with
          | some type => baseFields expand type
          | none => .ok d.children
        | none =>
          match r.targetId with
          | some id => expand r.name id
          | none => .error (.input (.baseUnresolved r.name)) := by
  obtain ⟨name, arguments, symbol, target, targetId⟩ := r
  conv_lhs => unfold baseFields
  split
  · rfl
  · cases target with
    | none => rfl
    | some d => cases d; rfl

-- By induction on the base: it is followed in at most one way.
theorem IsCongruence.baseFields {R : OutcomeRelation} (hR : IsCongruence R)
    {expand expand' : String → SymbolId → Fields} {base : TypeExpr}
    (h : ∀ r id, EndsIn base r → r.targetId = some id →
      R (List Declaration) (expand r.name id) (expand' r.name id)) :
    R (List Declaration) (baseFields expand base) (baseFields expand' base) := by
  have hhereditary : Hereditary
      (fun base => (∀ r id, EndsIn base r → r.targetId = some id →
          R (List Declaration) (expand r.name id) (expand' r.name id)) →
        R (List Declaration) (ApiPages.baseFields expand base) (ApiPages.baseFields expand' base))
      (fun d => ∀ type ∈ d.type, (∀ r id, EndsIn type r → r.targetId = some id →
          R (List Declaration) (expand r.name id) (expand' r.name id)) →
        R (List Declaration) (ApiPages.baseFields expand type) (ApiPages.baseFields expand' type))
      fun _ => True := by
    constructor
    case reference =>
      intro r harguments htarget h
      rw [baseFields_reference, baseFields_reference]
      by_cases hname : r.name = omitName
      · simp only [if_pos hname]
        split
        · rename_i source keys hsource
          split
          · refine hR.bind ?_ fun fields _ => hR.ok _
            apply harguments source (by simp [hsource])
            exact fun last id hlast => h last id (.omitted hname hsource hlast)
          · exact hR.input _
        · exact hR.input _
      · simp only [if_neg hname]
        cases hd : r.target with
        | some d =>
            cases htype : d.type with
            | none => simpa only [htype] using hR.ok d.children
            | some type =>
                simp only [htype]
                apply htarget d hd type htype
                exact fun last id hlast => h last id (.target hname hd htype hlast)
        | none =>
            cases hid : r.targetId with
            | none => exact hR.input _
            | some id => exact h r id (.here hname hd) hid
    case shape => exact fun d _ _ => by simpa only [ApiPages.baseFields] using hR.ok d.children
    case declaration => exact fun d htype _ _ _ _ _ => htype
    case signature => exact fun _ _ _ _ => trivial
    all_goals
      intros
      simpa only [ApiPages.baseFields] using hR.input _
  exact hhereditary.forType base h

-- The fields of a base have what the base and the declarations behind it hand down.
theorem baseFields_inherit {holds : ModelPart → Prop} (hinner : ModelPart.Inherited holds)
    {expand : String → SymbolId → Fields} (hexpand : ∀ name id fields, expand name id = .ok fields →
      ∀ field ∈ fields, holds (.declaration field))
    {base : TypeExpr} (hbase : holds (.type base)) {fields : List Declaration}
    (h : baseFields expand base = .ok fields) : ∀ field ∈ fields, holds (.declaration field) := by
  fun_induction baseFields expand base generalizing fields with
  | case1 d =>
      cases h
      exact fun field hf =>
        hinner (.declaration d) _ (hinner _ _ hbase (by simp)) (by simp [hf])
  | case2 _ _ _ source keys omitted _ ih =>
      obtain ⟨found, hfound, h⟩ := Outcome.bind_eq_ok_iff.mp h
      cases h
      exact fun field hf => ih (hinner _ _ hbase (by simp)) hfound field (List.mem_of_mem_filter hf)
  | case3 => cases h
  | case4 => cases h
  | case5 _ _ _ _ _ name kind id flags comment signatures children parents index typeParameters
      sources type ih =>
      let d : Declaration :=
        ⟨name, kind, id, flags, comment, some type, signatures, children, parents, index,
          typeParameters, sources⟩
      have hd : holds (.declaration d) := hinner _ _ hbase (by simp [d])
      exact ih (hinner _ _ hd (by simp [d])) h
  | case6 _ _ _ _ _ name kind id flags comment signatures children parents index typeParameters
      sources =>
      let d : Declaration :=
        ⟨name, kind, id, flags, comment, none, signatures, children, parents, index,
          typeParameters, sources⟩
      have hd : holds (.declaration d) := hinner _ _ hbase (by simp [d])
      cases h
      exact fun field hf => hinner _ _ hd (by simp [d, hf])
  | case7 => exact hexpand _ _ _ h
  | case8 => cases h
  | case9 => cases h

namespace Context

variable {ctx : Context}

theorem refines_expandFields (depth : Nat) (name : String) (id : SymbolId) :
    Refines (ctx.expandFields depth name id) (ctx.expandFields (depth + 1) name id) := by
  induction depth generalizing name id with
  | zero => exact .inl rfl
  | succ depth ih =>
      rw [expandFields, expandFields]
      cases ctx.symbols.lookup? id with
      | none => exact .inr rfl
      | some d =>
          cases htype : d.type with
          | none => simp only [htype]; exact .inr rfl
          | some type =>
              simp only [htype]
              exact isCongruence_refines.baseFields fun r id _ _ => ih r.name id

theorem expandFields_inherit {holds : ModelPart → Prop} (hinner : ModelPart.Inherited holds)
    (hsymbols : ∀ id d, ctx.symbols.lookup? id = some d → holds (.declaration d)) (depth : Nat)
    (name : String) (id : SymbolId) (fields : List Declaration)
    (h : ctx.expandFields depth name id = .ok fields) :
    ∀ field ∈ fields, holds (.declaration field) := by
  induction depth generalizing name id fields with
  | zero => cases h
  | succ depth ih =>
      rw [expandFields] at h
      cases hid : ctx.symbols.lookup? id with
      | none => rw [hid] at h; cases h
      | some d =>
          have hd := hsymbols id d hid
          cases htype : d.type with
          | none =>
              simp only [hid, htype] at h
              cases h
              exact fun field hf => hinner _ _ hd (by simp [hf])
          | some type =>
              simp only [hid, htype] at h
              exact baseFields_inherit hinner ih (hinner _ _ hd (by simp [htype])) h

theorem isLimited_expandFields : IsLimited ctx.expandFields ctx.known where
  next n m h := by
    funext name id
    rw [expandFields, expandFields, h]
  refines := refines_expandFields
  unknown n name id h := by simp only [expandFields, lookup?_of_notMem_known h]
  anyName n name other id id' hid h := by
    cases n with
    | zero => rfl
    | succ n =>
        rw [expandFields, ctx.symbols.lookup?_eq_of_value hid] at h
        rw [expandFields]
        cases hlookup : ctx.symbols.lookup? id' with
        | none => simp [hlookup] at h
        | some d => cases htype : d.type <;> simp_all

theorem baseFields_expandFields {depth : Nat} (h : ctx.symbols.length < depth) (base : TypeExpr) :
    baseFields (ctx.expandFields depth) base = ctx.baseChildren base := by
  rw [baseChildren, isLimited_expandFields.eq_of_card_lt (card_known_le.trans_lt h)
    (card_known_le.trans_lt (Nat.lt_succ_self _))]

end Context

end ApiPages
