import Mathlib

namespace ApiPages.Association

variable {α β : Type} [BEq α] [LawfulBEq α] [DecidableEq α] {key sought : α} {value : β}

def assign (key : α) (value : β) : List (α × β) → List (α × β)
  | [] => [(key, value)]
  | (other, old) :: rest =>
    if other = key then (other, value) :: rest else (other, old) :: assign key value rest

theorem lookup_cons_eq_ite (items : List (α × β)) :
    ((key, value) :: items).lookup sought =
      if sought = key then some value else items.lookup sought := by
  by_cases h : sought = key <;> simp [List.lookup_cons, h, beq_false_of_ne]

theorem lookup_assign (items : List (α × β)) :
    (assign key value items).lookup sought =
      if sought = key then some value else items.lookup sought := by
  induction items with
  | nil => exact lookup_cons_eq_ite []
  | cons item rest ih =>
      obtain ⟨other, old⟩ := item
      unfold assign
      split
      · rename_i hother
        subst hother
        by_cases h : sought = other <;> simp [lookup_cons_eq_ite, h]
      · rename_i hother
        rw [lookup_cons_eq_ite, lookup_cons_eq_ite, ih]
        by_cases h : sought = other <;> simp [h, hother]

-- The keys stand in the order in which they came.
theorem map_fst_assign (items : List (α × β)) :
    (assign key value items).map Prod.fst =
      if key ∈ items.map Prod.fst then items.map Prod.fst else items.map Prod.fst ++ [key] := by
  induction items with
  | nil => rfl
  | cons item rest ih =>
      obtain ⟨other, old⟩ := item
      unfold assign
      by_cases h : other = key
      · simp [h]
      · rw [if_neg h, List.map_cons, ih]
        by_cases hrest : key ∈ rest.map Prod.fst <;> simp_all [eq_comm]

omit [DecidableEq α] in
theorem eraseDups_concat (items : List α) (item : α) :
    (items ++ [item]).eraseDups =
      if item ∈ items.eraseDups then items.eraseDups else items.eraseDups ++ [item] := by
  rw [List.eraseDups_append]
  by_cases h : item ∈ items <;> simp [List.removeAll, List.eraseDups_cons, h]

end ApiPages.Association
