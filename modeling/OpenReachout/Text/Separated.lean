import Mathlib.Data.List.Infix

/-!
# Texts cut at a mark

What does not have the mark itself occurs in a text as it occurs in a piece of it, and
what is left out of a text is left out of its pieces.
-/

namespace Text

set_option autoImplicit false

variable {mark : Char}

/-- A text is built of pieces without the mark. -/
theorem pieces_induction (mark : Char) {holds : List Char → Prop} (single : ∀ text, mark ∉ text → holds text)
    (joined : ∀ first rest, mark ∉ first → holds rest → holds (first ++ mark :: rest))
    (text : List Char) : holds text := by
  have bounded : ∀ count, ∀ other : List Char, other.length ≤ count → holds other := by
    intro count
    induction count with
    | zero =>
        intro other empty
        rw [List.length_eq_zero_iff.1 (Nat.le_zero.1 empty)]
        exact single [] List.not_mem_nil
    | succ count induction =>
        intro other short
        by_cases present : mark ∈ other
        · obtain ⟨first, rest, split, absent⟩ := List.eq_append_cons_of_mem present
          rw [split] at short ⊢
          apply joined first rest absent
          apply induction
          rw [List.length_append, List.length_cons] at short
          omega
        · exact single other present
  exact bounded text.length text (Nat.le_refl _)

/-- What does not have the mark does not reach over it. -/
theorem infix_around {needle before after : List Char} (absent : mark ∉ needle) :
    needle <:+: before ++ mark :: after ↔ needle <:+: before ∨ needle <:+: after := by
  constructor
  · rintro ⟨front, back, whole⟩
    rcases List.append_eq_append_iff.1 whole with ⟨gap, before_eq, -⟩ | ⟨gap, front_eq, after_eq⟩
    · left
      exact ⟨front, gap, before_eq.symm⟩
    · cases gap with
      | nil =>
          left
          rw [List.append_nil] at front_eq
          exact ⟨front, [], by rw [List.append_nil, front_eq]⟩
      | cons char gap =>
          rw [List.cons_append] at after_eq
          obtain ⟨rfl, rest⟩ := List.cons.inj after_eq
          rcases List.append_eq_append_iff.1 front_eq with ⟨cut, -, needle_eq⟩ | ⟨cut, -, tail_eq⟩
          · exfalso
            apply absent
            rw [needle_eq]
            exact List.mem_append_right _ List.mem_cons_self
          · right
            cases cut with
            | nil =>
                exfalso
                apply absent
                rw [← List.nil_append needle, ← tail_eq]
                exact List.mem_cons_self
            | cons first cut =>
                rw [List.cons_append] at tail_eq
                rw [rest, (List.cons.inj tail_eq).2]
                exact ⟨cut, back, rfl⟩
  · rintro (inside | inside)
    · exact inside.trans (List.prefix_append _ _).isInfix
    · exact inside.trans ((List.suffix_cons _ _).trans (List.suffix_append _ _)).isInfix

theorem infix_iff_piece {needle : List Char} (absent : mark ∉ needle) (text : List Char) :
    needle <:+: text ↔ ∃ piece ∈ text.splitOn mark, needle <:+: piece := by
  induction text using pieces_induction mark with
  | single text alone =>
      rw [List.splitOn_eq_singleton alone]
      simp
  | joined first rest whole induction =>
      rw [infix_around absent, induction, List.splitOn_append_cons_self_of_not_mem whole]
      simp

/-- What is left out of a text, other than the mark, is left out of its pieces. -/
theorem splitOn_filter {keeps : Char → Bool} (kept : keeps mark = true) (text : List Char) :
    (text.filter keeps).splitOn mark = (text.splitOn mark).map (List.filter keeps) := by
  have bare : ∀ piece : List Char, mark ∉ piece → mark ∉ piece.filter keeps :=
    fun piece absent member => absent (List.mem_of_mem_filter member)
  induction text using pieces_induction mark with
  | single text alone =>
      rw [List.splitOn_eq_singleton alone, List.splitOn_eq_singleton (bare text alone)]
      rfl
  | joined first rest whole induction =>
      rw [List.filter_append, List.filter_cons, if_pos kept,
        List.splitOn_append_cons_self_of_not_mem whole,
        List.splitOn_append_cons_self_of_not_mem (bare first whole), induction]
      rfl

theorem filter_dropWhile {keeps drops : Char → Bool} {text : List Char}
    (left_out : ∀ char ∈ text, drops char = true → keeps char = false) :
    (text.dropWhile drops).filter keeps = text.filter keeps := by
  induction text with
  | nil => rfl
  | cons char rest induction =>
      rw [List.dropWhile_cons]
      by_cases dropped : drops char = true
      · rw [if_pos dropped, List.filter_cons, left_out char List.mem_cons_self dropped]
        exact induction fun other member => left_out other (List.mem_cons_of_mem _ member)
      · rw [if_neg dropped]

end Text
