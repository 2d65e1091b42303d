import ApiPages.Proofs.Text.Piece
import ApiPages.Proofs.Text.Scan

namespace ApiPages.Text

variable {α β γ : Type}

-- What stands in a text in front of a character that is not in it stands on one side of it.
theorem isInfix_append_cons {part : List Char} {c : Char} (h : c ∉ part) {before after : List Char}
    (hpart : part <:+: before ++ c :: after) : part <:+: before ∨ part <:+: after := by
  rcases List.infix_append_iff.mp hpart with hbefore | hafter | ⟨start, rest, rfl, hstart, hrest⟩
  · exact .inl hbefore
  · rcases List.infix_cons_iff.mp hafter with hprefix | hafter
    · cases part with
      | nil => exact .inl (List.nil_infix)
      | cons d part =>
          obtain ⟨rfl, -⟩ := List.cons_prefix_cons.mp hprefix
          exact absurd List.mem_cons_self h
    · exact .inr hafter
  · cases rest with
    | nil =>
        rw [List.append_nil]
        exact .inl hstart.isInfix
    | cons d rest =>
        obtain ⟨rfl, -⟩ := List.cons_prefix_cons.mp hrest
        exact absurd (List.mem_append_right _ List.mem_cons_self) h

-- Tokens with a gap in front of them all and a gap behind each. A gap can be empty.
structure Cut (α : Type) where
  first : List Char
  rest : List (α × List Char)

namespace Cut

def gaps (cut : Cut α) : List (List Char) := cut.first :: cut.rest.map (·.2)

-- The cut with something in the place of each gap and of each token.
def fill (gap : List Char → List β) (token : α → List β) (cut : Cut α) : List β :=
  gap cut.first ++ cut.rest.flatMap fun (value, text) => token value ++ gap text

theorem fill_nil (gap : List Char → List β) (token : α → List β) (first : List Char) :
    (Cut.mk first []).fill gap token = gap first := by
  rw [fill, List.flatMap_nil, List.append_nil]

theorem fill_cons (gap : List Char → List β) (token : α → List β) (first next : List Char)
    (value : α) (rest : List (α × List Char)) :
    (Cut.mk first ((value, next) :: rest)).fill gap token =
      gap first ++ (token value ++ (Cut.mk next rest).fill gap token) := by
  simp only [fill, List.flatMap_cons, List.append_assoc]

theorem flatMap_fill (gap : List Char → List β) (token : α → List β) (f : β → List γ)
    (cut : Cut α) :
    (cut.fill gap token).flatMap f =
      cut.fill (fun text => (gap text).flatMap f) fun value => (token value).flatMap f := by
  simp only [fill, List.flatMap_append, List.flatMap_assoc]

-- The tokens and the gaps make up the text, and no token stands in a gap.
structure IsOf (write : α → List Char) (cs : List Char) (cut : Cut α) : Prop where
  fill_eq : cut.fill id write = cs
  free : ∀ gap ∈ cut.gaps, ∀ value, ¬ write value <:+: gap

variable {write : α → List Char} {cs first next : List Char} {value : α}
  {rest : List (α × List Char)}

theorem isOf_nil_iff :
    (Cut.mk first []).IsOf write cs ↔ first = cs ∧ ∀ value, ¬ write value <:+: first := by
  constructor
  · rintro ⟨hfill, hfree⟩
    exact ⟨(fill_nil _ _ _).symm.trans hfill, hfree first List.mem_cons_self⟩
  · rintro ⟨rfl, hfree⟩
    exact ⟨fill_nil _ _ _, List.forall_mem_singleton.mpr hfree⟩

theorem isOf_cons_iff :
    (Cut.mk first ((value, next) :: rest)).IsOf write cs ↔
      (∀ value, ¬ write value <:+: first) ∧
        ∃ after, (Cut.mk next rest).IsOf write after ∧ cs = first ++ (write value ++ after) := by
  constructor
  · rintro ⟨hfill, hfree⟩
    rw [fill_cons] at hfill
    have hgaps := List.forall_mem_cons.mp hfree
    exact ⟨hgaps.1, _, ⟨rfl, hgaps.2⟩, hfill.symm⟩
  · rintro ⟨hfirst, after, ⟨rfl, hfree⟩, rfl⟩
    exact ⟨fill_cons _ _ _ _ _ _, List.forall_mem_cons.mpr ⟨hfirst, hfree⟩⟩

-- A character in front belongs to the first gap, if no token begins with it.
theorem IsOf.cons_char {c : Char} (hstart : ∀ value, ¬ write value <+: c :: cs)
    (h : (Cut.mk first rest).IsOf write cs) : (Cut.mk (c :: first) rest).IsOf write (c :: cs) := by
  have hfill : (Cut.mk (c :: first) rest).fill id write = c :: cs := by
    rw [← h.fill_eq]
    rfl
  have hgaps := List.forall_mem_cons.mp h.free
  refine ⟨hfill, List.forall_mem_cons.mpr ⟨fun value hvalue => ?_, hgaps.2⟩⟩
  rcases List.infix_cons_iff.mp hvalue with hfirst | hinside
  · have hcs : c :: first <+: c :: cs := hfill ▸ List.prefix_append _ _
    exact hstart value (hfirst.trans hcs)
  · exact hgaps.1 value hinside

-- Texts that no token reaches into from either side bring no token about in the place of tokens.
theorem IsOf.not_isInfix_fill {cut : Cut α} {other : α → List Char} (h : cut.IsOf write cs)
    (hother : ∀ value, ∃ start body stop, other value = start :: (body ++ [stop]) ∧
      ∀ token, start ∉ write token ∧ stop ∉ write token ∧ ¬ write token <:+: body) (token : α) :
    ¬ write token <:+: cut.fill id other := by
  obtain ⟨first, rest⟩ := cut
  induction rest generalizing cs first with
  | nil =>
      rw [fill_nil]
      exact (isOf_nil_iff.mp h).2 token
  | cons entry rest ih =>
      obtain ⟨hfirst, after, hafter, -⟩ := isOf_cons_iff.mp h
      obtain ⟨start, body, stop, hvalue, hnone⟩ := hother entry.1
      obtain ⟨hstart, hstop, hbody⟩ := hnone token
      intro htoken
      rw [fill_cons, hvalue, List.cons_append, List.append_assoc] at htoken
      rcases isInfix_append_cons hstart htoken with htoken | htoken
      · exact hfirst token htoken
      · rcases isInfix_append_cons hstop htoken with htoken | htoken
        · exact hbody htoken
        · exact ih _ hafter htoken

end Cut

-- Tokens are written between two characters that they do not hold inside, each in its own way.
structure AreEnclosed (opener closer : Char) (write : α → List Char) : Prop where
  enclosed : ∀ value, ∃ body, write value = opener :: (body ++ [closer]) ∧ opener ∉ body ∧
    closer ∉ body
  ne : opener ≠ closer
  injective : Function.Injective write

-- What can stand behind a gap: nothing, or a token.
def IsTokenStart (write : α → List Char) (cs : List Char) : Prop :=
  cs = [] ∨ ∃ value rest, cs = write value ++ rest

namespace AreEnclosed

variable {opener closer : Char} {write : α → List Char} {cs gap rest : List Char}
  {cut other : Cut α}

theorem exists_tail (h : AreEnclosed opener closer write) (value : α) :
    ∃ tail, write value = opener :: tail ∧ opener ∉ tail := by
  obtain ⟨body, hwrite, hopener, -⟩ := h.enclosed value
  refine ⟨body ++ [closer], hwrite, ?_⟩
  rw [List.mem_append, List.mem_singleton, not_or]
  exact ⟨hopener, h.ne⟩

theorem write_ne_nil (h : AreEnclosed opener closer write) (value : α) : write value ≠ [] := by
  obtain ⟨tail, hwrite, -⟩ := h.exists_tail value
  simp [hwrite]

-- A token ends at the first character that can close it.
theorem append_inj (h : AreEnclosed opener closer write) {value value' : α} {rest rest' : List Char}
    (heq : write value ++ rest = write value' ++ rest') : value = value' ∧ rest = rest' := by
  obtain ⟨body, hwrite, -, hcloser⟩ := h.enclosed value
  obtain ⟨body', hwrite', -, hcloser'⟩ := h.enclosed value'
  simp only [hwrite, hwrite', List.cons_append, List.append_assoc, List.cons.injEq, true_and] at heq
  obtain ⟨rfl, hrest⟩ := append_inj_of_stop (p := (· = closer))
    (fun c hc => ne_of_mem_of_not_mem hc hcloser) (fun c hc => ne_of_mem_of_not_mem hc hcloser')
    (by simp) (by simp) heq
  exact ⟨h.injective (hwrite.trans hwrite'.symm), (List.cons.inj hrest).2⟩

theorem head_eq (h : AreEnclosed opener closer write) (hrest : IsTokenStart write rest)
    {c : Char} {part : List Char} (hpart : c :: part <+: rest) : c = opener := by
  rcases hrest with rfl | ⟨value, after, rfl⟩
  · exact absurd (List.prefix_nil.mp hpart) (List.cons_ne_nil c part)
  · obtain ⟨tail, hwrite, -⟩ := h.exists_tail value
    rw [hwrite, List.cons_append] at hpart
    exact (List.cons_prefix_cons.mp hpart).1

-- No token begins in a gap: it would have to hold the character that opens the next one.
theorem not_isPrefix (h : AreEnclosed opener closer write) (hgap : gap ≠ [])
    (hfree : ∀ value, ¬ write value <:+: gap) (hrest : IsTokenStart write rest) (value : α) :
    ¬ write value <+: gap ++ rest := by
  intro hprefix
  obtain ⟨tail, hwrite, hopener⟩ := h.exists_tail value
  rcases List.prefix_or_prefix_of_prefix hprefix (List.prefix_append gap rest) with hin | hout
  · exact hfree value hin.isInfix
  · obtain ⟨more, hmore⟩ := hout
    have hrest' : more <+: rest := by
      rw [← hmore] at hprefix
      exact (List.prefix_append_right_inj gap).mp hprefix
    cases more with
    | nil =>
        rw [List.append_nil] at hmore
        exact hfree value (hmore ▸ List.infix_rfl)
    | cons d more =>
        cases gap with
        | nil => exact hgap rfl
        | cons c gap =>
            rw [hwrite, List.cons_append] at hmore
            rw [← (List.cons.inj hmore).2, h.head_eq hrest hrest'] at hopener
            exact hopener (List.mem_append_right _ List.mem_cons_self)

-- A gap ends where the first token behind it begins.
theorem gap_append_inj (h : AreEnclosed opener closer write) {gap' rest' : List Char}
    (hfree : ∀ value, ¬ write value <:+: gap) (hfree' : ∀ value, ¬ write value <:+: gap')
    (hrest : IsTokenStart write rest) (hrest' : IsTokenStart write rest')
    (heq : gap ++ rest = gap' ++ rest') : gap = gap' ∧ rest = rest' := by
  have hnone : ∀ part tail, (∀ value, ¬ write value <:+: part) → IsTokenStart write tail →
      IsTokenStart write (part ++ tail) → part = [] := by
    intro part tail hpart htail hstart
    by_contra hne
    rcases hstart with hnil | ⟨value, after, hvalue⟩
    · exact hne (List.append_eq_nil_iff.mp hnil).1
    · exact h.not_isPrefix hne hpart htail value ⟨after, hvalue.symm⟩
  rcases List.append_eq_append_iff.mp heq with ⟨part, rfl, rfl⟩ | ⟨part, rfl, rfl⟩
  · have hpart := hnone part rest' (fun value hvalue =>
      hfree' value (hvalue.trans (List.suffix_append _ _).isInfix)) hrest' hrest
    simp [hpart]
  · have hpart := hnone part rest (fun value hvalue =>
      hfree value (hvalue.trans (List.suffix_append _ _).isInfix)) hrest hrest'
    simp [hpart]

-- By induction on the length: a token that the text begins with is cut off, else a character.
theorem exists_cut (h : AreEnclosed opener closer write) (cs : List Char) :
    ∃ cut : Cut α, cut.IsOf write cs := by
  induction hn : cs.length using Nat.strong_induction_on generalizing cs with
  | _ n ih =>
      subst hn
      by_cases htoken : ∃ value after, cs = write value ++ after
      · obtain ⟨value, after, rfl⟩ := htoken
        have hlength : after.length < (write value ++ after).length := by
          have hpos := List.length_pos_of_ne_nil (h.write_ne_nil value)
          rw [List.length_append]
          omega
        obtain ⟨⟨first, rest⟩, hcut⟩ := ih _ hlength after rfl
        refine ⟨⟨[], (value, first) :: rest⟩, Cut.isOf_cons_iff.mpr ⟨?_, after, hcut, rfl⟩⟩
        exact fun other hother => h.write_ne_nil other (List.infix_nil.mp hother)
      · cases cs with
        | nil =>
            refine ⟨⟨[], []⟩, Cut.isOf_nil_iff.mpr ⟨rfl, fun other hother => ?_⟩⟩
            exact h.write_ne_nil other (List.infix_nil.mp hother)
        | cons c cs =>
            obtain ⟨⟨first, rest⟩, hcut⟩ := ih _ (Nat.lt_succ_self _) cs rfl
            refine ⟨⟨c :: first, rest⟩, hcut.cons_char ?_⟩
            rintro value ⟨after, hafter⟩
            exact htoken ⟨value, after, hafter.symm⟩

-- By induction on the tokens of one cut, which the other one has to have at the same places.
theorem cut_unique (h : AreEnclosed opener closer write) (hcut : cut.IsOf write cs)
    (hother : other.IsOf write cs) : other = cut := by
  obtain ⟨first, rest⟩ := cut
  obtain ⟨first', rest'⟩ := other
  induction rest generalizing cs first first' rest' with
  | nil =>
      obtain ⟨rfl, hfree⟩ := Cut.isOf_nil_iff.mp hcut
      cases rest' with
      | nil => rw [(Cut.isOf_nil_iff.mp hother).1]
      | cons entry rest' =>
          obtain ⟨-, after, -, hfirst⟩ := Cut.isOf_cons_iff.mp hother
          exact absurd (hfirst ▸ List.infix_append' _ _ _) (hfree entry.1)
  | cons entry rest ih =>
      obtain ⟨hfree, after, hafter, hcs⟩ := Cut.isOf_cons_iff.mp hcut
      cases rest' with
      | nil =>
          obtain ⟨rfl, hfree'⟩ := Cut.isOf_nil_iff.mp hother
          exact absurd (hcs ▸ List.infix_append' _ _ _) (hfree' entry.1)
      | cons entry' rest' =>
          obtain ⟨hfree', after', hafter', hcs'⟩ := Cut.isOf_cons_iff.mp hother
          obtain ⟨rfl, htoken⟩ := h.gap_append_inj hfree hfree' (.inr ⟨_, _, rfl⟩)
            (.inr ⟨_, _, rfl⟩) (hcs.symm.trans hcs')
          obtain ⟨hvalue, rfl⟩ := h.append_inj htoken
          obtain ⟨hnext, rfl⟩ := Cut.mk.inj (ih _ hafter _ _ hafter')
          rw [Prod.ext hvalue hnext.symm]

end AreEnclosed

-- A reader finds a token where one begins and nowhere else, and tells something of it.
structure Reads (read? : List Char → Option (β × List Char)) (write : α → List Char)
    (told : α → β) : Prop where
  reads : ∀ value rest, read? (write value ++ rest) = some (told value, rest)
  only : ∀ cs found, read? cs = some found → ∃ value rest, cs = write value ++ rest

def gapPieces (gap : List Char) : List (Piece β) := if gap = [] then [] else [.gap gap]

namespace Reads

variable {read? : List Char → Option (β × List Char)} {write : α → List Char} {told : α → β}
  {opener closer : Char} {cs gap rest : List Char}
  {shorter : ∀ cs value rest, read? cs = some (value, rest) → rest.length < cs.length}

theorem pieces_gap (hreads : Reads read? write told) (h : AreEnclosed opener closer write)
    (hfree : ∀ value, ¬ write value <:+: gap) (hrest : IsTokenStart write rest) :
    pieces read? shorter (gap ++ rest) = gapPieces gap ++ pieces read? shorter rest := by
  induction gap with
  | nil => rfl
  | cons c gap ih =>
      have hnone : read? (c :: (gap ++ rest)) = none := by
        cases hfound : read? (c :: (gap ++ rest)) with
        | none => rfl
        | some found =>
            obtain ⟨value, after, hvalue⟩ := hreads.only _ _ hfound
            have hprefix := h.not_isPrefix (List.cons_ne_nil c gap) hfree hrest value
            exact absurd ⟨after, hvalue.symm⟩ hprefix
      have htail := ih fun value hvalue =>
        hfree value (hvalue.trans (List.suffix_cons c gap).isInfix)
      rw [List.cons_append, pieces_of_none hnone, htail]
      cases gap with
      | cons d gap => rfl
      | nil =>
          -- What follows the character is no gap, so that the gap ends with it.
          rcases hrest with rfl | ⟨value, after, rfl⟩
          · rw [pieces_nil]
            rfl
          · rw [pieces_of_some (hreads.reads value after)]
            rfl

-- The pieces of a text are those of its cut.
theorem pieces_eq (hreads : Reads read? write told) (h : AreEnclosed opener closer write)
    {cut : Cut α} (hcut : cut.IsOf write cs) :
    pieces read? shorter cs = cut.fill gapPieces fun value => [.token (told value)] := by
  obtain ⟨first, rest⟩ := cut
  induction rest generalizing cs first with
  | nil =>
      obtain ⟨rfl, hfree⟩ := Cut.isOf_nil_iff.mp hcut
      have hgap : pieces read? shorter (first ++ []) = gapPieces first ++ pieces read? shorter [] :=
        hreads.pieces_gap h hfree (.inl rfl)
      rw [pieces_nil, List.append_nil, List.append_nil] at hgap
      rw [hgap, Cut.fill_nil]
  | cons entry rest ih =>
      obtain ⟨hfree, after, hafter, rfl⟩ := Cut.isOf_cons_iff.mp hcut
      rw [hreads.pieces_gap h hfree (.inr ⟨_, _, rfl⟩), pieces_of_some (hreads.reads _ _),
        ih _ hafter, Cut.fill_cons, List.singleton_append]

theorem flatMap_pieces (hreads : Reads read? write told) (h : AreEnclosed opener closer write)
    {cut : Cut α} (hcut : cut.IsOf write cs) (f : Piece β → List γ) :
    (pieces read? shorter cs).flatMap f =
      cut.fill (fun gap => if gap = [] then [] else f (.gap gap)) fun value =>
        f (.token (told value)) := by
  have hgap : ∀ gap : List Char, (gapPieces gap).flatMap f =
      if gap = [] then [] else f (.gap gap) := by
    intro gap
    rw [gapPieces]
    split
    · rfl
    · rw [List.flatMap_singleton]
  simp only [hreads.pieces_eq h hcut, Cut.flatMap_fill, hgap, List.flatMap_singleton]

end Reads

end ApiPages.Text
