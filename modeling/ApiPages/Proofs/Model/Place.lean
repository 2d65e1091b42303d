import Mathlib.Data.List.Lex
import ApiPages.Proofs.Model.Walk

namespace ApiPages.ModelPart

inductive StandsAt : List ModelPart → List Nat → ModelPart → Prop
  | here (parts : List ModelPart) (i : Nat) (part : ModelPart) (h : parts[i]? = some part) :
      StandsAt parts [i] part
  | inside (parts : List ModelPart) (i : Nat) (place : List Nat) (outer part : ModelPart)
      (h : parts[i]? = some outer) (hplace : StandsAt outer.entered place part) :
      StandsAt parts (i :: place) part

theorem mem_walk_iff_entered {whole : ModelPart} {found : Declaration} :
    found ∈ whole.walk ↔ whole = .declaration found ∨ found ∈ whole.entered.flatMap walk := by
  rw [walk_eq, List.mem_append, mem_own_iff]

namespace StandsAt

variable {parts rest : List ModelPart} {whole part other : ModelPart} {place : List Nat}

theorem ne_nil (h : StandsAt parts place part) : place ≠ [] := by
  cases h <;> simp

-- At most one part stands at a place.
theorem unique (h : StandsAt parts place part) (hother : StandsAt parts place other) :
    part = other := by
  induction h with
  | here _ _ _ hpart =>
      cases hother with
      | here _ _ _ hother => exact Option.some.inj (hpart.symm.trans hother)
      | inside _ _ _ _ _ _ hinside => exact absurd rfl hinside.ne_nil
  | inside _ _ _ outer _ houter hplace ih =>
      cases hother with
      | here => exact absurd rfl hplace.ne_nil
      | inside _ _ _ outer' _ houter' hinside =>
          cases Option.some.inj (houter.symm.trans houter')
          exact ih hinside

-- What stands in a list of parts is one of them, or stands in what is entered in the first, or
-- stands in the others.
theorem of_cons (h : StandsAt (whole :: rest) place part) :
    (place = [0] ∧ whole = part) ∨
      (∃ down, place = 0 :: down ∧ StandsAt whole.entered down part) ∨
      ∃ i down, place = (i + 1) :: down ∧ StandsAt rest (i :: down) part := by
  cases h with
  | here _ i _ h =>
      cases i with
      | zero => exact .inl ⟨rfl, by simpa using h⟩
      | succ i => exact .inr (.inr ⟨i, [], rfl, .here _ _ _ (by simpa using h)⟩)
  | inside _ i down outer _ h hplace =>
      cases i with
      | zero =>
          cases (by simpa using h : whole = outer)
          exact .inr (.inl ⟨down, rfl, hplace⟩)
      | succ i => exact .inr (.inr ⟨i, down, rfl, .inside _ _ _ _ _ (by simpa using h) hplace⟩)

theorem later (whole : ModelPart) (h : StandsAt parts place part) :
    ∃ i down, place = i :: down ∧ StandsAt (whole :: parts) ((i + 1) :: down) part := by
  cases h with
  | here _ i _ h => exact ⟨i, [], rfl, .here _ _ _ (by simpa using h)⟩
  | inside _ i down _ _ h hplace =>
      exact ⟨i, down, rfl, .inside _ _ _ _ _ (by simpa using h) hplace⟩

-- A declaration that stands at a place is one that the walk yields.
theorem mem_walk {d : Declaration} (h : StandsAt parts place (.declaration d)) :
    d ∈ parts.flatMap walk := by
  generalize hpart : ModelPart.declaration d = part at h
  induction h with
  | here _ _ _ h =>
      exact List.mem_flatMap.mpr
        ⟨_, List.mem_of_getElem? h, mem_walk_iff_entered.mpr (.inl hpart.symm)⟩
  | inside _ _ _ _ _ h _ ih =>
      exact List.mem_flatMap.mpr
        ⟨_, List.mem_of_getElem? h, mem_walk_iff_entered.mpr (.inr (ih hpart))⟩

end StandsAt

-- The declaration with the property that stands first among the parts, at this place.
structure IsFirst (p : Declaration → Bool) (parts : List ModelPart) (place : List Nat)
    (d : Declaration) : Prop where
  stands : StandsAt parts place (.declaration d)
  holds : p d = true
  le : ∀ other found, StandsAt parts other (.declaration found) → p found = true → place ≤ other

namespace IsFirst

variable {p : Declaration → Bool} {parts rest : List ModelPart} {whole : ModelPart}
  {place other : List Nat} {d found : Declaration}

theorem unique (h : IsFirst p parts place d) (hother : IsFirst p parts other found) :
    d = found := by
  have hplace : place = other :=
    le_antisymm (h.le _ _ hother.stands hother.holds) (hother.le _ _ h.stands h.holds)
  subst hplace
  exact ModelPart.declaration.inj (h.stands.unique hother.stands)

theorem of_own (rest : List ModelPart) (hd : p d = true) :
    IsFirst p (.declaration d :: rest) [0] d where
  stands := .here _ _ _ rfl
  holds := hd
  le := by
    intro other found hstands hfound
    obtain ⟨rfl, -⟩ | ⟨down, rfl, -⟩ | ⟨i, down, rfl, -⟩ := hstands.of_cons
    · exact le_rfl
    · exact List.cons_le_cons 0 (not_lt.mp (List.not_lt_nil down))
    · exact (List.cons_lt_cons_iff.mpr (.inl i.succ_pos)).le

theorem of_entered (rest : List ModelPart) (hown : whole.own.find? p = none)
    (h : IsFirst p whole.entered place d) : IsFirst p (whole :: rest) (0 :: place) d where
  stands := .inside _ _ _ _ _ rfl h.stands
  holds := h.holds
  le := by
    intro other found hstands hfound
    obtain ⟨rfl, hwhole⟩ | ⟨down, rfl, hinside⟩ | ⟨i, down, rfl, -⟩ := hstands.of_cons
    · exact absurd hfound (List.find?_eq_none.mp hown found (mem_own_iff.mpr hwhole))
    · exact List.cons_le_cons 0 (h.le _ _ hinside hfound)
    · exact (List.cons_lt_cons_iff.mpr (.inl i.succ_pos)).le

theorem of_rest (hwhole : whole.walk.find? p = none) (h : IsFirst p rest place d) :
    ∃ later, IsFirst p (whole :: rest) later d := by
  obtain ⟨i, down, rfl, hlater⟩ := h.stands.later whole
  refine ⟨(i + 1) :: down, hlater, h.holds, ?_⟩
  intro other found hstands hfound
  have hnot : found ∉ whole.walk := fun hwalk => List.find?_eq_none.mp hwhole found hwalk hfound
  obtain ⟨-, hown⟩ | ⟨_, -, hinside⟩ | ⟨j, below, rfl, hrest⟩ := hstands.of_cons
  · exact absurd (mem_walk_iff_entered.mpr (.inl hown)) hnot
  · exact absurd (mem_walk_iff_entered.mpr (.inr hinside.mem_walk)) hnot
  · have hle : i :: down ≤ j :: below := h.le _ _ hrest hfound
    rw [← not_lt, List.cons_lt_cons_iff] at hle ⊢
    simpa using hle

end IsFirst

variable {p : Declaration → Bool}

-- By induction on the list, for parts in which the first place is known.
theorem exists_isFirst_of_entered {parts : List ModelPart} {d : Declaration}
    (hentered : ∀ whole ∈ parts, ∀ d, (whole.entered.flatMap walk).find? p = some d →
      ∃ place, IsFirst p whole.entered place d)
    (h : (parts.flatMap walk).find? p = some d) : ∃ place, IsFirst p parts place d := by
  induction parts with
  | nil => simp at h
  | cons whole rest ih =>
      rw [List.flatMap_cons, List.find?_append, Option.or_eq_some_iff] at h
      rcases h with hwhole | ⟨hwhole, hrest⟩
      · rw [walk_eq, List.find?_append, Option.or_eq_some_iff] at hwhole
        rcases hwhole with hown | ⟨hown, hinside⟩
        · cases mem_own_iff.mp (List.mem_of_find?_eq_some hown)
          exact ⟨[0], .of_own rest (List.find?_some hown)⟩
        · obtain ⟨place, hfirst⟩ := hentered whole List.mem_cons_self d hinside
          exact ⟨0 :: place, hfirst.of_entered rest hown⟩
      · have hlater := ih fun part hpart => hentered part (List.mem_cons_of_mem whole hpart)
        obtain ⟨place, hfirst⟩ := hlater hrest
        exact hfirst.of_rest hwhole

-- By induction on a part: the parts entered in it come before it.
theorem exists_isFirst_entered (whole : ModelPart) {d : Declaration}
    (h : (whole.entered.flatMap walk).find? p = some d) :
    ∃ place, IsFirst p whole.entered place d := by
  induction whole using ModelPart.induction generalizing d with
  | _ whole ih =>
      refine exists_isFirst_of_entered (fun part hpart d hd => ?_) h
      exact ih part (mem_inner_iff.mpr (.inl hpart)) hd

-- What a walk yields first with a property stands at the first place with it.
theorem find?_walk_eq_some_iff {parts : List ModelPart} {d : Declaration} :
    (parts.flatMap walk).find? p = some d ↔ ∃ place, IsFirst p parts place d := by
  have hexists : ∀ d, (parts.flatMap walk).find? p = some d → ∃ place, IsFirst p parts place d :=
    fun _ h => exists_isFirst_of_entered (fun whole _ _ hd => exists_isFirst_entered whole hd) h
  constructor
  · exact hexists d
  · rintro ⟨place, hfirst⟩
    have hsome : ((parts.flatMap walk).find? p).isSome = true :=
      List.find?_isSome.mpr ⟨d, hfirst.stands.mem_walk, hfirst.holds⟩
    obtain ⟨found, hfound⟩ := Option.isSome_iff_exists.mp hsome
    obtain ⟨other, hother⟩ := hexists found hfound
    rw [hfound, hother.unique hfirst]

end ApiPages.ModelPart
