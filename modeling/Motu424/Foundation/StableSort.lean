import Mathlib.Data.List.Sort

namespace StableSort

variable {α β : Type} [LinearOrder β] (key : α → β)

/-- The items in the order of their keys. -/
abbrev sorted (items : List α) : List α := items.insertionSort fun a b => key a ≤ key b

theorem perm_sorted (items : List α) : (sorted key items).Perm items := List.perm_insertionSort _ items

theorem pairwise_sorted (items : List α) : (sorted key items).Pairwise fun a b => key a ≤ key b := by
  have htotal : Std.Total fun a b => key a ≤ key b := ⟨fun a b => le_total (key a) (key b)⟩
  have htrans : IsTrans α fun a b => key a ≤ key b := ⟨fun _ _ _ => le_trans⟩
  exact List.pairwise_insertionSort _ items

/-- A change of the items that keeps their keys keeps their places. -/
theorem map_sorted {γ : Type} (f : γ → α) (items : List γ) :
    (sorted (fun c => key (f c)) items).map f = sorted key (items.map f) :=
  List.map_insertionSort _ _ f items fun _ _ _ _ => Iff.rfl

/-- A sort moves no item past one with the same key. -/
theorem filter_sorted (items : List α) (k : β) :
    ((sorted key items).filter fun a => key a = k) = items.filter fun a => key a = k := by
  have hties : (items.filter fun a => key a = k).Pairwise fun a b => key a ≤ key b := by
    apply List.pairwise_of_forall_mem_list
    intro a ha b hb
    simp only [List.mem_filter, decide_eq_true_eq] at ha hb
    rw [ha.2, hb.2]
  have hsub := (List.sublist_insertionSort hties List.filter_sublist).filter fun a => key a = k
  rw [List.filter_filter] at hsub
  simp only [Bool.and_self] at hsub
  have hlength := ((perm_sorted key items).filter fun a => key a = k).length_eq
  exact (hsub.eq_of_length hlength.symm).symm

/-- Sorted items split at a key. -/
theorem split_of_pairwise {items : List α} (hitems : items.Pairwise fun a b => key a ≤ key b) (k : β) :
    items = (items.filter fun a => key a < k) ++ (items.filter fun a => key a = k) ++
      items.filter fun a => k < key a := by
  induction items with
  | nil => rfl
  | cons a rest ih =>
    obtain ⟨hfirst, hrest⟩ := List.pairwise_cons.mp hitems
    have hsplit := ih hrest
    rcases lt_trichotomy (key a) k with hlt | heq | hgt
    · rw [List.filter_cons_of_pos (by simpa using hlt), List.filter_cons_of_neg (by simpa using hlt.ne),
        List.filter_cons_of_neg (by simpa using hlt.le), List.cons_append, List.cons_append, ← hsplit]
    · have hbefore : (rest.filter fun b => key b < k) = [] := by
        rw [List.filter_eq_nil_iff]
        intro b hb
        simpa [← heq] using hfirst b hb
      rw [hbefore, List.nil_append] at hsplit
      rw [List.filter_cons_of_neg (by simp [heq]), List.filter_cons_of_pos (by simpa using heq),
        List.filter_cons_of_neg (by simp [heq]), hbefore, List.nil_append, List.cons_append, ← hsplit]
    · have hlater : (rest.filter fun b => k < key b) = rest := by
        rw [List.filter_eq_self]
        intro b hb
        simpa using hgt.trans_le (hfirst b hb)
      have hbefore : (rest.filter fun b => key b < k) = [] := by
        rw [List.filter_eq_nil_iff]
        intro b hb
        simpa using hgt.le.trans (hfirst b hb)
      have hsame : (rest.filter fun b => key b = k) = [] := by
        rw [List.filter_eq_nil_iff]
        intro b hb
        simpa using (hgt.trans_le (hfirst b hb)).ne'
      rw [List.filter_cons_of_neg (by simpa using hgt.le), List.filter_cons_of_neg (by simpa using hgt.ne'),
        List.filter_cons_of_pos (by simpa using hgt), hbefore, hsame, hlater]
      rfl

/-- The items with a key stand together, in their order, between those with lower
and those with higher keys. -/
theorem split_sorted (items : List α) (k : β) : ∃ before after,
    sorted key items = before ++ (items.filter fun a => key a = k) ++ after ∧
      (∀ a ∈ before, key a < k) ∧ ∀ a ∈ after, k < key a := by
  have hsplit := split_of_pairwise key (pairwise_sorted key items) k
  rw [filter_sorted] at hsplit
  refine ⟨_, _, hsplit, fun a ha => ?_, fun a ha => ?_⟩
  · exact of_decide_eq_true (List.mem_filter.mp ha).2
  · exact of_decide_eq_true (List.mem_filter.mp ha).2

/-- The last item with a key stands behind all items with that key or a lower one. -/
theorem getElem?_last (items : List α) {k : β} (hk : (items.filter fun a => key a = k) ≠ []) :
    (sorted key items)[(items.countP fun a => key a ≤ k) - 1]? =
      (items.filter fun a => key a = k).getLast? := by
  obtain ⟨before, after, hsplit, hbefore, hafter⟩ := split_sorted key items k
  have hlow : (before ++ items.filter fun a => key a = k).countP (fun a => key a ≤ k) =
      (before ++ items.filter fun a => key a = k).length := by
    apply List.countP_eq_length.mpr
    intro a ha
    rw [List.mem_append, List.mem_filter, decide_eq_true_iff] at ha
    rw [decide_eq_true_iff]
    rcases ha with ha | ⟨_, heq⟩
    · exact (hbefore a ha).le
    · exact heq.le
  have hhigh : after.countP (fun a => key a ≤ k) = 0 := by
    apply List.countP_eq_zero.mpr
    intro a ha
    simpa using hafter a ha
  have hcount := congrArg (List.countP fun a => key a ≤ k) hsplit
  rw [(perm_sorted key items).countP_eq, List.countP_append, hlow, hhigh, Nat.add_zero] at hcount
  have hlast : 0 < (items.filter fun a => key a = k).length := List.length_pos_iff.mpr hk
  rw [hsplit, hcount, List.getElem?_append_left, ← List.getLast?_eq_getElem?,
    List.getLast?_append_of_ne_nil _ hk]
  rw [List.length_append]
  omega

end StableSort
