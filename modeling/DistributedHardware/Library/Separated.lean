import Mathlib.Data.List.Infix
import Mathlib.Tactic.Common

/-!
Keys composed of two parts with a separator between them.

A composed key can be taken apart in another way exactly where the separator also
occurs across the end of the first part, or across the beginning of the second.
Nothing here depends on what the symbols are.
-/

universe u

namespace Separated
variable {α : Type u} {sep d h : List α}

/-- An earlier split is an occurrence of the separator in the first part, the
separator's own symbols but the last one counted to it. -/
theorem infix_left_iff (nonempty : sep ≠ []) :
    sep <:+: d ++ sep.dropLast ↔
      ∃ d' h', d ++ sep ++ h = d' ++ sep ++ h' ∧ d'.length < d.length := by
  have hlen : sep.dropLast.length < sep.length := by
    rw [List.length_dropLast]
    have := List.length_pos_iff.mpr nonempty
    omega
  constructor
  · rintro ⟨d', t, heq⟩
    refine ⟨d', t ++ [sep.getLast nonempty] ++ h, ?_, ?_⟩
    · calc d ++ sep ++ h
          = d ++ sep.dropLast ++ [sep.getLast nonempty] ++ h := by
            rw [List.append_assoc d sep.dropLast, List.dropLast_append_getLast nonempty]
        _ = d' ++ sep ++ (t ++ [sep.getLast nonempty] ++ h) := by
            rw [← heq]
            simp only [List.append_assoc]
    · have := congrArg List.length heq
      simp only [List.length_append] at this
      omega
  · rintro ⟨d', h', heq, hlt⟩
    have first : d ++ sep.dropLast <+: d ++ sep ++ h := by
      rw [List.append_assoc]
      exact List.prefix_append_right_inj d |>.mpr
        ((List.dropLast_prefix sep).trans (List.prefix_append sep h))
    have second : d' ++ sep <+: d ++ sep ++ h := heq ▸ List.prefix_append (d' ++ sep) h'
    have shorter : (d' ++ sep).length ≤ (d ++ sep.dropLast).length := by
      simp only [List.length_append, List.length_dropLast]
      omega
    obtain ⟨t, ht⟩ := List.prefix_of_prefix_length_le second first shorter
    exact ⟨d', t, ht⟩

/-- A later split with a second part is an occurrence in the second part, the
separator's own symbols but the first one counted to it. -/
theorem infix_right_iff (nonempty : sep ≠ []) (hh : h ≠ []) :
    sep <:+: sep.tail ++ h.dropLast ↔
      ∃ d' h', d ++ sep ++ h = d' ++ sep ++ h' ∧ d.length < d'.length ∧ h' ≠ [] := by
  constructor
  · rintro ⟨s, t, heq⟩
    refine ⟨d ++ [sep.head nonempty] ++ s, t ++ [h.getLast hh], ?_, ?_, by simp⟩
    · calc d ++ sep ++ h
          = d ++ [sep.head nonempty] ++ (sep.tail ++ h.dropLast) ++ [h.getLast hh] := by
            simp only [List.append_assoc, List.dropLast_append_getLast hh,
              ← List.append_assoc [sep.head nonempty], List.singleton_append,
              List.cons_head_tail nonempty]
        _ = d ++ [sep.head nonempty] ++ s ++ sep ++ (t ++ [h.getLast hh]) := by
            rw [← heq]
            simp only [List.append_assoc]
    · simp only [List.length_append, List.length_singleton]
      omega
  · rintro ⟨d', h', heq, hlt, hh'⟩
    have first : sep.tail ++ h <:+ d ++ sep ++ h := by
      rw [List.append_assoc]
      refine List.IsSuffix.trans ?_ (List.suffix_append d (sep ++ h))
      obtain ⟨s, hs⟩ := List.tail_suffix sep
      exact ⟨s, by rw [← List.append_assoc, hs]⟩
    have second : sep ++ h' <:+ d ++ sep ++ h := by
      rw [heq, List.append_assoc]
      exact List.suffix_append d' (sep ++ h')
    have shorter : (sep ++ h').length ≤ (sep.tail ++ h).length := by
      have := congrArg List.length heq
      simp only [List.length_append, List.length_tail] at this ⊢
      have := List.length_pos_iff.mpr nonempty
      omega
    obtain ⟨t, ht⟩ := List.suffix_of_suffix_length_le second first shorter
    refine ⟨t, h'.dropLast, ?_⟩
    rw [List.append_assoc, ← List.dropLast_append_of_ne_nil hh',
      ← List.dropLast_append_of_ne_nil (by simp [hh']), ht, List.dropLast_append_of_ne_nil hh]

/-- Where the separator is one symbol, and the second parts do not have it, a key can be
taken apart in one way only. -/
theorem parts_unique {a a' b b' : List α} {c : α} (hb : c ∉ b) (hb' : c ∉ b')
    (h : a ++ [c] ++ b = a' ++ [c] ++ b') : a = a' ∧ b = b' := by
  -- Otherwise the separator would occur in the longer of the second parts.
  have same {a a' b b' : List α} (hb : c ∉ b) (l : List α) (first : a' = a ++ l)
      (second : c :: b = l ++ c :: b') : a = a' ∧ b = b' := by
    cases l with
    | nil => exact ⟨by rw [first, List.append_nil], (List.cons.inj second).2⟩
    | cons d l =>
        rw [(List.cons.inj second).2] at hb
        exact absurd (List.mem_append_right l List.mem_cons_self) hb
  rw [List.append_assoc, List.append_assoc, List.append_eq_append_iff] at h
  obtain ⟨l, first, second⟩ | ⟨l, first, second⟩ := h
  · exact same hb l first second
  · obtain ⟨rfl, rfl⟩ := same hb' l first second
    exact ⟨rfl, rfl⟩

end Separated
