import ApiPages.Yaml.Basic
import Mathlib.Data.List.Infix
import Mathlib.Data.Option.Basic

namespace ApiPages.Yaml

variable {key other : Key} {value inner : Yaml} {current : Option Yaml}
  {members base overrides : Members} {p q : Key → Bool}

theorem find_of_identity (h : key.identity = other.identity) (members : Members) :
    find key members = find other members := by
  induction members with
  | nil => rfl
  | cons member rest ih => rw [find, find, h, ih]

theorem find_put (key other : Key) (value : Yaml) (members : Members) :
    find other (put key value members) =
      if key.identity = other.identity then some value else find other members := by
  induction members with
  | nil => rfl
  | cons member rest ih =>
      by_cases hkey : member.1.identity = key.identity
      · by_cases hother : key.identity = other.identity <;> simp [put, find, hkey, hother]
      · by_cases hother : member.1.identity = other.identity
        · have hne : key.identity ≠ other.identity := fun h => hkey (hother.trans h.symm)
          rw [put, if_neg hkey, find, if_pos hother, if_neg hne, find, if_pos hother]
        · rw [put, if_neg hkey, find, if_neg hother, ih, find, if_neg hother]

theorem find_eq_none_iff : find key members = none ↔
    ∀ other ∈ members.map Prod.fst, other.identity ≠ key.identity := by
  induction members with
  | nil => simp [find]
  | cons member rest ih =>
      rw [List.map_cons, List.forall_mem_cons, ← ih, find]
      by_cases h : member.1.identity = key.identity <;> simp [h]

theorem isSome_find_of_mem (h : key ∈ members.map Prod.fst) : (find key members).isSome = true := by
  rw [Option.isSome_iff_ne_none, ne_eq, find_eq_none_iff]
  exact fun hnone => hnone key h rfl

-- A key that is there stays where it is, another one comes last.
theorem map_fst_put (key : Key) (value : Yaml) (members : Members) :
    (put key value members).map Prod.fst =
      members.map Prod.fst ++ if (find key members).isNone then [key] else [] := by
  induction members with
  | nil => rfl
  | cons member rest ih =>
      by_cases h : member.1.identity = key.identity
      · simp [put, find, h]
      · rw [put, if_neg h, find, if_neg h, List.map_cons, List.map_cons, ih, List.cons_append]

theorem sizeOf_find (h : find key members = some value) : sizeOf value < sizeOf members := by
  induction members with
  | nil => cases h
  | cons member rest ih =>
      obtain ⟨other, found⟩ := member
      rw [find] at h
      simp only [List.cons.sizeOf_spec, Prod.mk.sizeOf_spec]
      split at h
      · cases h
        omega
      · have hrest := ih h
        omega

-- What every mapping has as soon as the values in it have it, and every other value, all values have.
theorem findInduction {motive : Yaml → Prop}
    (step : ∀ value, (∀ key inner, find key value.members = some inner → motive inner) →
      motive value) (value : Yaml) : motive value := by
  refine step value fun key inner h => ?_
  have hlt : sizeOf inner < sizeOf value := by
    cases value with
    | mapping members =>
        have hinner := sizeOf_find h
        rw [Yaml.members] at hinner
        rw [mapping.sizeOf_spec]
        omega
    | _ => cases h
  exact findInduction step inner
termination_by sizeOf value

mutual

-- The keys of the mappings in a mapping, at any depth, are of one kind, and each stands there once.
def isKeyed (p : Key → Bool) : Yaml → Bool
  | .mapping members => areKeyed p members
  | _ => true

def areKeyed (p : Key → Bool) : List (Key × Yaml) → Bool
  | [] => true
  | (key, value) :: rest =>
    p key && (find key rest).isNone && value.isKeyed p && areKeyed p rest

end

theorem areKeyed_cons {rest : Members} : areKeyed p ((key, value) :: rest) = true ↔
    p key = true ∧ find key rest = none ∧ value.isKeyed p = true ∧ areKeyed p rest = true := by
  simp only [areKeyed, Bool.and_eq_true, Option.isNone_iff_eq_none, and_assoc]

theorem isKeyed_of_find (h : areKeyed p members = true) (hfind : find key members = some value) :
    value.isKeyed p = true := by
  induction members with
  | nil => cases hfind
  | cons member rest ih =>
      obtain ⟨-, -, hvalue, hrest⟩ := areKeyed_cons.mp h
      rw [find] at hfind
      split at hfind
      · cases hfind
        exact hvalue
      · exact ih hrest hfind

theorem areKeyed_members (h : value.isKeyed p = true) : areKeyed p value.members = true := by
  cases value with
  | mapping members => exact h
  | _ => rfl

theorem areKeyed_put (h : areKeyed p members = true) (hkey : p key = true)
    (hvalue : value.isKeyed p = true) : areKeyed p (put key value members) = true := by
  induction members with
  | nil => simp [put, areKeyed, find, hkey, hvalue]
  | cons member rest ih =>
      obtain ⟨other, old⟩ := member
      obtain ⟨hother, hfresh, hold, hrest⟩ := areKeyed_cons.mp h
      rw [put]
      split
      · exact areKeyed_cons.mpr ⟨hother, hfresh, hvalue, hrest⟩
      · rename_i hne
        refine areKeyed_cons.mpr ⟨hother, ?_, hold, ih hrest⟩
        rw [find_put, if_neg (Ne.symm hne), hfresh]

-- Members are told by their keys and by what is found under them.
theorem members_ext {others : Members} (h : areKeyed p members = true)
    (hothers : areKeyed q others = true) (hkeys : members.map Prod.fst = others.map Prod.fst)
    (hfind : ∀ key, find key members = find key others) : members = others := by
  induction members generalizing others with
  | nil =>
      rw [List.map_nil, eq_comm, List.map_eq_nil_iff] at hkeys
      exact hkeys.symm
  | cons member rest ih =>
      cases others with
      | nil => cases hkeys
      | cons other rest' =>
          obtain ⟨key, value⟩ := member
          obtain ⟨key', value'⟩ := other
          obtain ⟨rfl, hrestKeys⟩ : key = key' ∧ rest.map Prod.fst = rest'.map Prod.fst := by
            simpa using hkeys
          obtain ⟨-, hfresh, -, hrest⟩ := areKeyed_cons.mp h
          obtain ⟨-, hfresh', -, hrest'⟩ := areKeyed_cons.mp hothers
          have hvalue : value = value' := by simpa [find] using hfind key
          rw [hvalue, ih hrest hrest' hrestKeys]
          intro sought
          by_cases hsame : key.identity = sought.identity
          · rw [← find_of_identity hsame, ← find_of_identity hsame, hfresh, hfresh']
          · simpa [find, hsame] using hfind sought

def Key.isText : Key → Bool
  | .text _ => true
  | _ => false

theorem Key.exists_text (h : key.isText = true) : ∃ name, key = .text name := by
  unfold isText at h
  split at h
  · exact ⟨_, rfl⟩
  · cases h

mutual

-- The keys of the mappings in a mapping, at any depth, are texts, and each stands there once.
def isNamed : Yaml → Bool
  | .mapping members => areNamed members
  | _ => true

def areNamed : List (Key × Yaml) → Bool
  | [] => true
  | (key, value) :: rest => key.isText && (find key rest).isNone && value.isNamed && areNamed rest

end

mutual

theorem isNamed_eq : (value : Yaml) → value.isNamed = value.isKeyed Key.isText
  | .mapping members => areNamed_eq members
  | .null | .scalar _ | .stamp _ | .list _ => rfl

theorem areNamed_eq : (members : List (Key × Yaml)) →
    areNamed members = areKeyed Key.isText members
  | [] => rfl
  | (key, value) :: rest => by rw [areNamed, areKeyed, isNamed_eq value, areNamed_eq rest]

end

theorem areNamed_cons {rest : Members} : areNamed ((key, value) :: rest) = true ↔
    (∃ name, key = .text name) ∧ find key rest = none ∧ value.isNamed = true ∧
      areNamed rest = true := by
  rw [areNamed_eq, areKeyed_cons, ← isNamed_eq, ← areNamed_eq]
  constructor
  · rintro ⟨htext, hrest⟩
    exact ⟨Key.exists_text htext, hrest⟩
  · rintro ⟨⟨name, rfl⟩, hrest⟩
    exact ⟨rfl, hrest⟩

theorem areNamed_members (h : value.isNamed = true) : areNamed value.members = true := by
  rw [isNamed_eq] at h
  rw [areNamed_eq]
  exact areKeyed_members h

theorem isNamed_get (h : value.isNamed = true) (name : String) :
    (value.get name).isNamed = true := by
  have hmembers := areNamed_members h
  rw [areNamed_eq] at hmembers
  rw [Yaml.get]
  cases hfind : find (.text name) value.members with
  | none => rfl
  | some inner => exact (isNamed_eq inner).trans (isKeyed_of_find hmembers hfind)

@[simp] theorem overlay_none (value : Yaml) : overlay none value = value := by
  cases value <;> rfl

theorem overlay_eq_self (h : ∀ base, current = some (.mapping base) →
    ∀ overrides, value ≠ .mapping overrides) : overlay current value = value := by
  cases value with
  | mapping overrides =>
      cases current with
      | none => rfl
      | some found =>
          cases found with
          | mapping base => exact absurd rfl (h base rfl overrides)
          | _ => rfl
  | _ => rfl

theorem find_mergeInto (h : areKeyed p overrides = true) (key : Key) (base : Members) :
    find key (mergeInto base overrides) =
      ((find key overrides).map (overlay (find key base))).or (find key base) := by
  induction overrides generalizing base with
  | nil => rfl
  | cons member rest ih =>
      obtain ⟨other, value⟩ := member
      obtain ⟨-, hfresh, -, hrest⟩ := areKeyed_cons.mp h
      rw [mergeInto, ih hrest, find_put, find]
      split
      · rename_i hsame
        rw [find_of_identity hsame] at hfresh
        rw [hfresh, find_of_identity hsame]
        rfl
      · rfl

-- The keys of the base come first, then those that only the overrides have.
theorem map_fst_mergeInto (h : areKeyed p overrides = true) (base : Members) :
    (mergeInto base overrides).map Prod.fst =
      base.map Prod.fst ++ (overrides.map Prod.fst).filter fun key => (find key base).isNone := by
  induction overrides generalizing base with
  | nil => simp [mergeInto]
  | cons member rest ih =>
      obtain ⟨key, value⟩ := member
      obtain ⟨-, hfresh, -, hrest⟩ := areKeyed_cons.mp h
      have hnew : ((rest.map Prod.fst).filter fun other =>
          (find other (put key (overlay (find key base) value) base)).isNone) =
          (rest.map Prod.fst).filter fun other => (find other base).isNone := by
        refine List.filter_congr fun other hother => ?_
        have hne := find_eq_none_iff.mp hfresh other hother
        rw [find_put, if_neg (Ne.symm hne)]
      rw [mergeInto, ih hrest, hnew, map_fst_put, List.map_cons, List.filter_cons, List.append_assoc]
      split <;> rfl

mutual

theorem isKeyed_overlay (value : Yaml) (h : value.isKeyed p = true) (current : Option Yaml)
    (hcurrent : ∀ found, current = some found → found.isKeyed p = true) :
    (overlay current value).isKeyed p = true := by
  cases value with
  | mapping overrides =>
      by_cases hbase : ∃ base, current = some (.mapping base)
      · obtain ⟨base, rfl⟩ := hbase
        exact areKeyed_mergeInto overrides h base (hcurrent _ rfl)
      · rwa [overlay_eq_self fun base hcurrent => absurd ⟨base, hcurrent⟩ hbase]
  | _ => exact h

theorem areKeyed_mergeInto (overrides : List (Key × Yaml)) (h : areKeyed p overrides = true)
    (base : Members) (hbase : areKeyed p base = true) :
    areKeyed p (mergeInto base overrides) = true := by
  cases overrides with
  | nil => exact hbase
  | cons member rest =>
      obtain ⟨key, value⟩ := member
      obtain ⟨hkey, -, hvalue, hrest⟩ := areKeyed_cons.mp h
      rw [mergeInto]
      refine areKeyed_mergeInto rest hrest _ (areKeyed_put hbase hkey ?_)
      exact isKeyed_overlay value hvalue _ fun found hfound => isKeyed_of_find hbase hfound

end

theorem areNamed_mergeInto (h : areNamed overrides = true) (hbase : areNamed base = true) :
    areNamed (mergeInto base overrides) = true := by
  rw [areNamed_eq] at h hbase ⊢
  exact areKeyed_mergeInto overrides h base hbase

theorem mergeInto_nil (h : areKeyed p overrides = true) : mergeInto [] overrides = overrides := by
  refine members_ext (areKeyed_mergeInto overrides h [] rfl) h ?_ fun key => ?_
  · simp [map_fst_mergeInto h, find]
  · rw [find_mergeInto h]
    cases find key overrides <;> simp [find]

-- Overrides whose values change nothing the second time change nothing the second time.
theorem mergeInto_again (h : areKeyed p overrides = true) (hbase : areKeyed p base = true)
    (hvalues : ∀ key inner, find key overrides = some inner →
      overlay (some (overlay (find key base) inner)) inner = overlay (find key base) inner) :
    mergeInto (mergeInto base overrides) overrides = mergeInto base overrides := by
  have hmerged := areKeyed_mergeInto overrides h base hbase
  refine members_ext (areKeyed_mergeInto overrides h _ hmerged) hmerged ?_ fun key => ?_
  · have hnone : ((overrides.map Prod.fst).filter fun key =>
        (find key (mergeInto base overrides)).isNone) = [] := by
      rw [List.filter_eq_nil_iff]
      intro key hkey
      obtain ⟨inner, hinner⟩ := Option.isSome_iff_exists.mp (isSome_find_of_mem hkey)
      simp [find_mergeInto h, hinner]
    rw [map_fst_mergeInto h (mergeInto base overrides), hnone, List.append_nil]
  · rw [find_mergeInto h]
    cases hinner : find key overrides with
    | none => rfl
    | some inner =>
        have hlaid : find key (mergeInto base overrides) =
            some (overlay (find key base) inner) := by
          rw [find_mergeInto h, hinner]
          rfl
        rw [hlaid, Option.map_some, Option.some_or, hvalues key inner hinner]

theorem overlay_overlay (value : Yaml) (h : value.isKeyed p = true) (current : Option Yaml)
    (hcurrent : ∀ found, current = some found → found.isKeyed p = true) :
    overlay (some (overlay current value)) value = overlay current value := by
  induction value using findInduction generalizing current with
  | step value ih =>
      cases value with
      | mapping overrides =>
          have hagain : ∀ base, areKeyed p base = true →
              mergeInto (mergeInto base overrides) overrides = mergeInto base overrides :=
            fun base hbase => mergeInto_again h hbase fun key inner hinner =>
              ih key inner hinner (isKeyed_of_find h hinner) _
                fun found hfound => isKeyed_of_find hbase hfound
          by_cases hbase : ∃ base, current = some (.mapping base)
          · obtain ⟨base, rfl⟩ := hbase
            exact congrArg mapping (hagain base (hcurrent _ rfl))
          · -- Laid over anything else, the overrides are what comes out, and meet themselves.
            have hself : overlay current (.mapping overrides) = .mapping overrides :=
              overlay_eq_self fun base hcurrent => absurd ⟨base, hcurrent⟩ hbase
            have htwice := hagain [] rfl
            rw [mergeInto_nil h] at htwice
            rw [hself]
            exact congrArg mapping htwice
      | _ => rfl

theorem mergeInto_mergeInto (h : areKeyed p overrides = true) (hbase : areKeyed p base = true) :
    mergeInto (mergeInto base overrides) overrides = mergeInto base overrides :=
  mapping.inj <| overlay_overlay (.mapping overrides) h (some (.mapping base)) fun _ hfound =>
    Option.some.inj hfound ▸ hbase

end ApiPages.Yaml
