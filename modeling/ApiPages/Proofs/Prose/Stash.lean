import ApiPages.Proofs.Markdown.Mark
import ApiPages.Proofs.Text.Cut
import ApiPages.Prose.Renderer

namespace ApiPages.Prose

open Markdown Text

-- The number of a raw piece, as a mark writes it.
structure RawNumber where
  digits : List Char
  ne_nil : digits ≠ []
  isDigit : ∀ c ∈ digits, c.isDigit = true

namespace RawNumber

def written (number : RawNumber) : List Char := mark (rawName ++ number.digits)

def index (number : RawNumber) : Nat := numeral 10 number.digits

theorem areEnclosed_written : AreEnclosed markOpen markClose written where
  enclosed number := by
    have hdigits : ∀ c, c.isDigit = false → c ∉ number.digits := by
      intro c hc hm
      rw [number.isDigit c hm] at hc
      cases hc
    refine ⟨rawName ++ number.digits, rfl, ?_, ?_⟩
    · rw [List.mem_append, not_or]
      exact ⟨by decide, hdigits markOpen (by decide)⟩
    · rw [List.mem_append, not_or]
      exact ⟨by decide, hdigits markClose (by decide)⟩
  ne := by decide
  injective number number' h := by
    have hcontent := List.append_cancel_right (List.cons.inj h).2
    have hdigits := List.append_cancel_left hcontent
    cases number
    cases number'
    cases hdigits
    rfl

theorem reads_marked : Reads (marked? rawName) written index where
  reads number rest := marked?_mark rawName number.ne_nil number.isDigit rest
  only cs found h := by
    obtain ⟨digits, hne, hdigits, hcs⟩ := exists_mark_of_marked? h
    exact ⟨⟨digits, hne, hdigits⟩, found.2, hcs⟩

end RawNumber

-- The text between two marks, unless they touch.
def gapNodes (escaped : Bool) (gap : List Char) : List Node :=
  if gap = [] then [] else [.text (plainText escaped gap)]

-- A text has one cut at the marks of raw pieces, in which no gap holds such a mark. Whatever the
-- pieces are shown as, it stands between the gaps of this cut in the place of its mark.
theorem textNodes_cut (s : String) :
    ∃ cut : Cut RawNumber, cut.IsOf RawNumber.written s.toList ∧
      (∀ other : Cut RawNumber, other.IsOf RawNumber.written s.toList → other = cut) ∧
      ∀ (raw : Nat → List Node) (escaped : Bool), textNodes raw escaped s =
        cut.fill (gapNodes escaped) fun number => raw number.index := by
  obtain ⟨cut, hcut⟩ := RawNumber.areEnclosed_written.exists_cut s.toList
  refine ⟨cut, hcut, fun other hother => RawNumber.areEnclosed_written.cut_unique hcut hother, ?_⟩
  intro raw escaped
  rw [textNodes, Markdown.pieces,
    RawNumber.reads_marked.flatMap_pieces RawNumber.areEnclosed_written hcut]
  rfl

end ApiPages.Prose
