import Mathlib.Data.List.Basic
import Mathlib.Data.List.Infix

namespace Occurrence

variable {α : Type} {c : α} {xs ys pre post : List α}

/-- A list is split at its first mark in one way. -/
theorem append_mark_inj {xs' ys' : List α} (hxs : c ∉ xs) (hxs' : c ∉ xs')
    (heq : xs ++ c :: ys = xs' ++ c :: ys') : xs = xs' ∧ ys = ys' := by
  induction xs generalizing xs' with
  | nil =>
    cases xs' with
    | nil => exact ⟨rfl, (List.cons.inj heq).2⟩
    | cons d xs' => exact absurd (List.cons.inj heq).1 (fun hc => hxs' (hc ▸ List.mem_cons_self))
  | cons d xs ih =>
    cases xs' with
    | nil => exact absurd (List.cons.inj heq).1 (fun hc => hxs (hc ▸ List.mem_cons_self))
    | cons d' xs' =>
      obtain ⟨rfl, hrest⟩ := List.cons.inj heq
      obtain ⟨rfl, hys⟩ := ih (fun hmem => hxs (List.mem_cons_of_mem d hmem))
        (fun hmem => hxs' (List.mem_cons_of_mem d hmem)) hrest
      exact ⟨rfl, hys⟩

/-- A text with a mark stands at the first mark, or after it. -/
theorem infix_mark_iff (hxs : c ∉ xs) (hpre : c ∉ pre) :
    pre ++ c :: post <:+: xs ++ c :: ys ↔ (pre <:+ xs ∧ post <+: ys) ∨ pre ++ c :: post <:+: ys := by
  constructor
  · rintro ⟨s, t, heq⟩
    by_cases hs : c ∈ s
    · obtain ⟨s₁, s₂, rfl, hs₁⟩ := List.eq_append_cons_of_mem hs
      rw [List.append_assoc, List.append_assoc, List.cons_append] at heq
      obtain ⟨-, hrest⟩ := append_mark_inj hs₁ hxs heq
      exact .inr ⟨s₂, t, by rw [← hrest, List.append_assoc]⟩
    · rw [List.append_assoc, List.append_assoc, List.cons_append, ← List.append_assoc] at heq
      obtain ⟨hfront, hback⟩ := append_mark_inj (by simp [hs, hpre]) hxs heq
      exact .inl ⟨⟨s, hfront⟩, ⟨t, hback⟩⟩
  · rintro (⟨⟨s, rfl⟩, ⟨t, rfl⟩⟩ | hlater)
    · exact ⟨s, t, by simp⟩
    · exact hlater.trans ⟨xs ++ [c], [], by simp⟩

/-- A text with a mark at the start of a list with that mark. -/
theorem prefix_mark_iff (hxs : c ∉ xs) (hpre : c ∉ pre) :
    pre ++ c :: post <+: xs ++ c :: ys ↔ pre = xs ∧ post <+: ys := by
  constructor
  · rintro ⟨t, heq⟩
    rw [List.append_assoc, List.cons_append] at heq
    obtain ⟨hfront, hback⟩ := append_mark_inj hpre hxs heq
    exact ⟨hfront, t, hback⟩
  · rintro ⟨rfl, t, rfl⟩
    exact ⟨t, by simp⟩

/-- A text without the mark at the start of a list ends before the mark. -/
theorem prefix_before_mark_iff (hpre : c ∉ pre) : pre <+: xs ++ c :: ys ↔ pre <+: xs := by
  constructor
  · intro hprefix
    rcases Nat.le_total pre.length xs.length with hle | hle
    · exact List.prefix_of_prefix_length_le hprefix (List.prefix_append xs _) hle
    · obtain ⟨rest, rfl⟩ := List.prefix_of_prefix_length_le (List.prefix_append xs _) hprefix hle
      obtain rfl | ⟨t, rfl, -⟩ := List.prefix_cons_iff.mp ((List.prefix_append_right_inj xs).mp hprefix)
      · rw [List.append_nil]
      · exact absurd (by simp) hpre
  · exact fun hprefix => hprefix.trans (List.prefix_append xs _)

/-- A text with a mark at the end of a list with that mark. -/
theorem suffix_mark_iff (hys : c ∉ ys) (hpost : c ∉ post) :
    pre ++ c :: post <:+ xs ++ c :: ys ↔ pre <:+ xs ∧ post = ys := by
  rw [← List.reverse_prefix, List.reverse_append, List.reverse_cons, List.append_assoc, List.singleton_append,
    List.reverse_append, List.reverse_cons, List.append_assoc, List.singleton_append,
    prefix_mark_iff (by simpa using hys) (by simpa using hpost), List.reverse_prefix, List.reverse_inj, and_comm]

theorem not_infix_of_not_mem (hmem : c ∈ pre) (hxs : c ∉ xs) : ¬ pre <:+: xs :=
  fun hoccurs => hxs (hoccurs.subset hmem)

/-- The last element of the list does not matter to a text without it. -/
theorem infix_concat_iff_of_not_mem (hpre : c ∉ pre) : pre <:+: xs ++ [c] ↔ pre <:+: xs := by
  rw [List.infix_concat_iff, or_iff_right_iff_imp]
  intro hsuffix
  rcases List.eq_nil_or_concat pre with rfl | ⟨init, d, rfl⟩
  · exact List.nil_infix
  · obtain ⟨s, heq⟩ := hsuffix
    rw [List.concat_eq_append, ← List.append_assoc] at heq
    obtain ⟨-, hd⟩ := List.append_inj' heq rfl
    cases hd
    exact absurd (by simp) hpre

end Occurrence
