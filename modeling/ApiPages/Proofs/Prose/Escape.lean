import ApiPages.Proofs.Markdown.Mark
import ApiPages.Prose.Renderer

namespace ApiPages

open Text

namespace Markdown

def markup : List Char := ['&', '<', '>']

def entity : Char → List Char
  | '&' => "&amp;".toList
  | '<' => "&lt;".toList
  | '>' => "&gt;".toList
  | c => [c]

-- A character of a text in which only characters of these kinds are escaped.
def escapedChar (kinds : List Char) (c : Char) : List Char := if c ∈ kinds then entity c else [c]

theorem exists_entity {c : Char} (h : c ∈ markup) :
    ∃ name, entity c = '&' :: name ∧ '&' ∉ name := by
  simp only [markup, List.mem_cons, List.not_mem_nil, or_false] at h
  rcases h with rfl | rfl | rfl
  all_goals exact ⟨_, rfl, by decide⟩

theorem startsWith_entity {c d : Char} (hc : c ∈ markup) (hd : d ∈ markup) (hne : c ≠ d)
    (rest : List Char) : startsWith (entity c) (entity d ++ rest) = false := by
  simp only [markup, List.mem_cons, List.not_mem_nil, or_false] at hc hd
  rcases hc with rfl | rfl | rfl <;> rcases hd with rfl | rfl | rfl
  all_goals first | exact absurd rfl hne | rfl

variable {kinds more : List Char} {c : Char}

-- One more kind is escaped, which does not occur in the entities so far.
theorem replaceFrom_escape (hmore : ∀ d, d ∈ more ↔ d = c ∨ d ∈ kinds)
    (habsent : ∀ d ∈ kinds, c ∉ entity d) (cs : List Char) :
    replaceFrom [c] (entity c) 0 (cs.flatMap (escapedChar kinds)) =
      cs.flatMap (escapedChar more) := by
  refine replaceFrom_flatMap (fun d rest => ?_) cs
  unfold escapedChar
  by_cases hkind : d ∈ kinds
  · rw [if_pos hkind, if_pos ((hmore d).mpr (.inr hkind)),
      replaceFrom_append_of_notMem (habsent d hkind)]
  · rw [if_neg hkind]
    by_cases hd : d = c
    · rw [if_pos ((hmore d).mpr (.inl hd)), hd, replaceFrom_occurrence (List.cons_ne_nil c [])]
    · have hother : d ∉ more := fun hm => ((hmore d).mp hm).elim hd hkind
      have hstays : c ∉ [d] := fun hm => hd (List.mem_singleton.mp hm).symm
      rw [if_neg hother, replaceFrom_append_of_notMem hstays]

-- One kind is taken back, as long as every ampersand belongs to an entity.
theorem replaceFrom_unescape (hnew : c ∉ kinds) (hmore : ∀ d, d ∈ more ↔ d = c ∨ d ∈ kinds)
    (hmarkup : more ⊆ markup) (hamp : '&' ∈ more) (cs : List Char) :
    replaceFrom (entity c) [c] 0 (cs.flatMap (escapedChar more)) =
      cs.flatMap (escapedChar kinds) := by
  have hc : c ∈ markup := hmarkup ((hmore c).mpr (.inl rfl))
  obtain ⟨name, hentity, -⟩ := exists_entity hc
  refine replaceFrom_flatMap (fun d rest => ?_) cs
  unfold escapedChar
  by_cases hkind : d ∈ kinds
  · have hd : d ∈ more := (hmore d).mpr (.inr hkind)
    have hne : c ≠ d := fun heq => hnew (heq ▸ hkind)
    have hstart := startsWith_entity hc (hmarkup hd) hne rest
    obtain ⟨other, hother, hamp⟩ := exists_entity (hmarkup hd)
    rw [hother, List.cons_append] at hstart
    rw [if_pos hd, if_pos hkind, hother, List.cons_append,
      replaceFrom_of_startsWith_eq_false hstart, hentity, replaceFrom_append_of_notMem hamp,
      List.cons_append]
  · rw [if_neg hkind]
    by_cases hd : d = c
    · have hne : entity c ≠ [] := by simp [hentity]
      rw [if_pos ((hmore d).mpr (.inl hd)), hd, replaceFrom_occurrence hne]
    · have hother : d ∉ more := fun hm => ((hmore d).mp hm).elim hd hkind
      have hstays : '&' ∉ [d] := fun hm => hother (List.mem_singleton.mp hm ▸ hamp)
      rw [if_neg hother, hentity, replaceFrom_append_of_notMem hstays]

theorem toList_escapeCode (s : String) :
    (escapeCode s).toList = s.toList.flatMap (escapedChar ['>', '<', '&']) := by
  have hnone : s.toList.flatMap (escapedChar []) = s.toList := List.flatMap_singleton' s.toList
  have hamp : replaceFrom ['&'] (entity '&') 0 (s.toList.flatMap (escapedChar [])) =
      s.toList.flatMap (escapedChar ['&']) :=
    replaceFrom_escape (by simp) (by simp) s.toList
  have hless : replaceFrom ['<'] (entity '<') 0 (s.toList.flatMap (escapedChar ['&'])) =
      s.toList.flatMap (escapedChar ['<', '&']) :=
    replaceFrom_escape (by simp) (List.forall_mem_singleton.mpr (by decide)) s.toList
  have hgreater : replaceFrom ['>'] (entity '>') 0 (s.toList.flatMap (escapedChar ['<', '&'])) =
      s.toList.flatMap (escapedChar ['>', '<', '&']) :=
    replaceFrom_escape (by simp)
      (List.forall_mem_cons.mpr ⟨by decide, List.forall_mem_singleton.mpr (by decide)⟩) s.toList
  rw [hnone] at hamp
  simp only [escapeCode, replaceAll, String.toList_ofList]
  rw [← hgreater, ← hless, ← hamp]
  rfl

-- All characters of markup are escaped, each on its own.
theorem toList_escapeCode_entity (s : String) :
    (escapeCode s).toList = s.toList.flatMap entity := by
  have hform : escapedChar ['>', '<', '&'] = entity := by
    funext c
    unfold escapedChar entity
    split <;> simp_all
  rw [toList_escapeCode, hform]

theorem unescapeCode_escapeCode (s : String) : unescapeCode (escapeCode s) = s := by
  have hless : replaceFrom (entity '<') ['<'] 0
      (s.toList.flatMap (escapedChar ['>', '<', '&'])) =
      s.toList.flatMap (escapedChar ['>', '&']) :=
    replaceFrom_unescape (by decide) (by simp [or_left_comm]) (by decide) (by decide) s.toList
  have hgreater : replaceFrom (entity '>') ['>'] 0 (s.toList.flatMap (escapedChar ['>', '&'])) =
      s.toList.flatMap (escapedChar ['&']) :=
    replaceFrom_unescape (by decide) (by simp) (by decide) (by decide) s.toList
  have hamp : replaceFrom (entity '&') ['&'] 0 (s.toList.flatMap (escapedChar ['&'])) =
      s.toList.flatMap (escapedChar []) :=
    replaceFrom_unescape (by decide) (by simp) (by decide) (by decide) s.toList
  have hnone : s.toList.flatMap (escapedChar []) = s.toList := List.flatMap_singleton' s.toList
  rw [← toList_escapeCode] at hless
  apply String.toList_inj.mp
  simp only [unescapeCode, replaceAll, String.toList_ofList]
  rw [← hnone, ← hamp, ← hgreater, ← hless]
  rfl

end Markdown

namespace Prose

open Markdown

-- Escaped or not, the text of code reads the same.
theorem plainText_escapeCode (s : String) :
    plainText true (escapeCode s).toList = plainText false s.toList := by
  simp only [plainText, String.ofList_toList, unescapeCode_escapeCode, reduceIte,
    Bool.false_eq_true]

-- Where nothing stands for anything else, the text is what it says.
theorem plainText_eq_self {s : String} {escaped : Bool} (hmark : IsUnmarked [] s.toList)
    (hescape : escaped = true → IsUnescaped s) : plainText escaped s.toList = s := by
  rw [plainText, String.ofList_toList]
  cases escaped with
  | false => rw [if_neg Bool.false_ne_true, hmark.restoreChars, String.ofList_toList]
  | true =>
      rw [if_pos rfl, (hescape rfl).unescapeCode, hmark.restoreChars, String.ofList_toList]

-- In the escaped form entities stand for the characters of markup. A text without marks of
-- characters comes back from it, whatever entities it holds itself; without ampersands it stays as
-- it is, whether it counts as escaped or not.
theorem plainText_of_unmarked (s : String) :
    (escapeCode s).toList = s.toList.flatMap entity ∧
      (IsUnmarked [] s.toList → plainText true (escapeCode s).toList = s ∧
        ('&' ∉ s.toList → ∀ escaped, plainText escaped s.toList = s)) := by
  refine ⟨toList_escapeCode_entity s, fun h => ?_⟩
  have hplain : plainText false s.toList = s := plainText_eq_self h nofun
  refine ⟨(plainText_escapeCode s).trans hplain, fun hamp escaped => ?_⟩
  exact plainText_eq_self h fun _ => isUnescaped_of_notMem hamp

theorem plainText_of_unmarked_entities :
    IsUnmarked [] "&amp;lt; &&lt;b&gt".toList ∧
      escapeCode "&amp;lt; &&lt;b&gt" = "&amp;amp;lt; &amp;&amp;lt;b&amp;gt" ∧
      plainText true "&amp;amp;lt; &amp;&amp;lt;b&amp;gt".toList = "&amp;lt; &&lt;b&gt" ∧
      IsUnmarked [] "a <b> lt;".toList ∧ '&' ∉ "a <b> lt;".toList ∧
      ∀ escaped, plainText escaped "a <b> lt;".toList = "a <b> lt;" := by
  have hentities : IsUnmarked [] "&amp;lt; &&lt;b&gt".toList := isUnmarked_of_notMem (by decide)
  have hplain : IsUnmarked [] "a <b> lt;".toList := isUnmarked_of_notMem (by decide)
  obtain ⟨hform, hback⟩ := plainText_of_unmarked "&amp;lt; &&lt;b&gt"
  have hescaped : escapeCode "&amp;lt; &&lt;b&gt" = "&amp;amp;lt; &amp;&amp;lt;b&amp;gt" :=
    String.toList_inj.mp (hform.trans (by decide))
  rw [hescaped] at hback
  have hstays := ((plainText_of_unmarked "a <b> lt;").2 hplain).2 (by decide)
  exact ⟨hentities, hescaped, (hback hentities).1, hplain, by decide, hstays⟩

end Prose

end ApiPages
