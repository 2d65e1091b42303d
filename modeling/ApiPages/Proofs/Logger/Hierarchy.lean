import ApiPages.Log
import Mathlib.Data.List.Basic
import Mathlib.Data.String.Basic

namespace ApiPages.Logger

variable {names : List String}

-- The name of the root and the dot behind it, from the end on.
def rootEnd : List Char := '.' :: rootName.toList.reverse

theorem climbs_cons (passes : Bool) (c : Char) (rest : List Char) :
    climbs names passes (c :: rest) =
      if passes || c != '.' then climbs names false rest
      else String.ofList rest.reverse == rootName ||
        climbs names (!names.contains (String.ofList rest.reverse)) rest := rfl

theorem climbs_rootEnd : climbs names false rootEnd = true := by
  have hroot : String.ofList rootName.toList.reverse.reverse = rootName := by
    rw [List.reverse_reverse, String.ofList_toList]
  rw [rootEnd, climbs_cons, hroot]
  simp

-- The search comes to the dot behind the root, as the character next to it is none. It may be passed
-- over on the way or not.
theorem climbs_append {front : List Char} (hfront : front.getLast?.any (· != '.') = true)
    (passes : Bool) : climbs names passes (front ++ rootEnd) = true := by
  induction front generalizing passes with
  | nil => cases hfront
  | cons c rest ih =>
      cases rest with
      | nil =>
          have hc : (c != '.') = true := hfront
          rw [List.singleton_append, climbs_cons, hc, Bool.or_true, if_pos rfl, climbs_rootEnd]
      | cons d rest =>
          have hrest : (d :: rest).getLast?.any (· != '.') = true := by
            rwa [List.getLast?_cons_cons] at hfront
          rw [List.cons_append, climbs_cons, ih hrest, ih hrest, Bool.or_true, ite_self]

-- Behind one dot that is no name of a logger, the dot behind the root is passed over.
theorem climbs_dot_append {front : List Char} (hfront : front.getLast?.all (· != '.') = true)
    (hname : rootName ++ "." ∉ names) : climbs names false (front ++ '.' :: rootEnd) = false := by
  have hdot : String.ofList rootEnd.reverse = rootName ++ "." := by
    rw [rootEnd, List.reverse_cons, List.reverse_reverse, String.ofList_append,
      String.ofList_toList]
  have hmissed : climbs names false ('.' :: rootEnd) = false := by
    have hplain : climbs names false rootName.toList.reverse = false := rfl
    have hnone : names.contains (rootName ++ ".") = false := by simpa using hname
    rw [climbs_cons, hdot, hnone, rootEnd, climbs_cons, hplain]
    rfl
  suffices h : ∀ passes, (front = [] → passes = false) →
      climbs names passes (front ++ '.' :: rootEnd) = false from h false fun _ => rfl
  induction front with
  | nil =>
      intro passes hpasses
      rw [hpasses rfl, List.nil_append, hmissed]
  | cons c rest ih =>
      intro passes _
      have hrest : rest.getLast?.all (· != '.') = true := by
        cases rest with
        | nil => rfl
        | cons d rest => rwa [List.getLast?_cons_cons] at hfront
      have hinner : String.ofList (rest ++ '.' :: rootEnd).reverse ≠ rootName := by
        intro h
        have hlength := congrArg String.length h
        rw [String.length_ofList] at hlength
        have hroot : rootEnd.length = rootName.length + 1 := rfl
        simp only [List.length_reverse, List.length_append, List.length_cons, hroot] at hlength
        omega
      rw [List.cons_append, climbs_cons]
      split
      · exact ih hrest false fun _ => rfl
      · rename_i hc
        rw [beq_eq_false_iff_ne.mpr hinner, Bool.false_or]
        refine ih hrest _ ?_
        rintro rfl
        -- the last character in front of the two dots is no dot
        have hlast : (c != '.') = true := hfront
        exact absurd (by rw [hlast, Bool.or_true]) hc

theorem toList_nameOf {part : String} (h : part ≠ "") :
    (nameOf (some part)).toList.reverse = part.toList.reverse ++ rootEnd := by
  have hpart : part.isEmpty = false := by simpa using h
  simp [nameOf, hpart, rootEnd]

-- No part has a logger of this name; an empty name is that of the root.
theorem nameOf_ne_dot (part : Option String) : nameOf part ≠ rootName ++ "." := by
  cases part with
  | none => decide
  | some part =>
      by_cases hempty : part = ""
      · subst hempty
        decide
      · simp [nameOf, hempty]

-- A part that has no name shares the logger of the root.
theorem isBelow_nameOf {part : Option String}
    (h : (part.getD "").toList.head? ≠ some '.') : isBelow names (nameOf part) = true := by
  cases part with
  | none => simp [isBelow, nameOf]
  | some part =>
      by_cases hempty : part = ""
      · simp [isBelow, nameOf, hempty]
      · have hlast : part.toList.reverse.getLast?.any (· != '.') = true := by
          rw [List.getLast?_reverse]
          cases hlist : part.toList with
          | nil => exact absurd (String.toList_eq_nil_iff.mp hlist) hempty
          | cons c rest =>
              have hc : c ≠ '.' := fun hc => h (by simp [hlist, hc])
              simpa using hc
        rw [isBelow, toList_nameOf hempty, climbs_append hlast, Bool.or_true]

theorem not_isBelow_nameOf {part : String} (hpart : part.toList.head? ≠ some '.')
    (hname : rootName ++ "." ∉ names) : isBelow names (nameOf (some ("." ++ part))) = false := by
  have hne : "." ++ part ≠ "" := by simp
  have hroot : nameOf (some ("." ++ part)) ≠ rootName := by
    intro h
    have hlength := congrArg List.length (toList_nameOf hne)
    rw [h] at hlength
    simp only [List.length_reverse, List.length_append, rootEnd, List.length_cons] at hlength
    omega
  have hlast : part.toList.reverse.getLast?.all (· != '.') = true := by
    rw [List.getLast?_reverse]
    cases hhead : part.toList.head? with
    | none => rfl
    | some c =>
        have hc : c ≠ '.' := fun hc => hpart (by rw [hhead, hc])
        simpa using hc
  have hlist : ("." ++ part).toList.reverse ++ rootEnd =
      part.toList.reverse ++ '.' :: rootEnd := by simp
  rw [isBelow, toList_nameOf hne, hlist, climbs_dot_append hlast hname, Bool.or_false,
    beq_eq_false_iff_ne]
  exact hroot

end ApiPages.Logger
