import Mathlib.Tactic.Common

/-- A regular expression as a backtracking matcher runs it: character classes,
greedy repetition of a class, and capturing groups. -/
inductive Regex where
  | empty
  | char (p : Char → Bool)
  | star (p : Char → Bool)
  | seq (r k : Regex)
  | group (r : Regex)

namespace Regex

/-- One way to match: the captured texts, and what is left of the input. -/
abbrev Result := List (List Char) × List Char

@[simp] def star_results (p : Char → Bool) : List Char → List Result
  | [] => [([], [])]
  | c :: s => if p c then star_results p s ++ [([], c :: s)] else [([], c :: s)]

/-- All ways to match at the start of the input, in the order in which
backtracking comes to them. -/
@[simp] def results : Regex → List Char → List Result
  | empty, s => [([], s)]
  | char _, [] => []
  | char p, c :: s => if p c then [([], s)] else []
  | star p, s => star_results p s
  | seq r k, s => (r.results s).flatMap fun m => (k.results m.2).map fun n => (m.1 ++ n.1, n.2)
  | group r, s => (r.results s).map fun m => (s.take (s.length - m.2.length) :: m.1, m.2)

/-- The way that a matcher returns. -/
def first (r : Regex) (s : List Char) : Option Result := (r.results s).head?

/-- The way at the first place in the input where there is one. -/
def search (r : Regex) : List Char → Option Result
  | [] => r.first []
  | c :: s => (r.first (c :: s)).or (search r s)

/-- The characters of a word, in order. -/
def lit : List Char → Regex
  | [] => empty
  | c :: word => seq (char (· = c)) (lit word)

/-- One or more characters of a class. -/
def plus (p : Char → Bool) : Regex := seq (char p) (star p)

/-- One expression after the other. -/
def concat : List Regex → Regex
  | [] => empty
  | r :: rs => seq r (concat rs)

/-- The expression can match with these captures and this rest. -/
def Matches (r : Regex) (s : List Char) (groups : List (List Char)) (rest : List Char) : Prop :=
  (groups, rest) ∈ r.results s

variable {p q : Char → Bool} {r k : Regex} {s t : List Char} {groups : List (List Char)}

theorem matches_empty : empty.Matches s groups t ↔ groups = [] ∧ s = t := by
  rw [Matches, results, List.mem_singleton, Prod.mk.injEq]
  exact and_congr_right fun _ => eq_comm

theorem matches_char : (char p).Matches s groups t ↔ groups = [] ∧ ∃ c, p c = true ∧ s = c :: t := by
  cases s with
  | nil => simp [Matches, results]
  | cons c s =>
    rw [Matches, results]
    constructor
    · intro hmem
      split at hmem
      · cases List.mem_singleton.mp hmem
        exact ⟨rfl, c, ‹_›, rfl⟩
      · cases hmem
    · rintro ⟨rfl, d, hd, hs⟩
      cases hs
      rw [if_pos hd, List.mem_singleton]

/-- A run goes on with the next character, or it stops before it. -/
theorem matches_star_cons {c : Char} : (star p).Matches (c :: s) groups t ↔
    (p c = true ∧ (star p).Matches s groups t) ∨ (groups = [] ∧ c :: s = t) := by
  rw [Matches, results, star_results, @eq_comm _ (c :: s)]
  by_cases hc : p c = true
  · rw [if_pos hc, List.mem_append, List.mem_singleton, Prod.mk.injEq, and_iff_right hc]
    exact Iff.rfl
  · rw [if_neg hc, List.mem_singleton, Prod.mk.injEq]
    exact (or_iff_right fun h => hc h.1).symm

theorem matches_star :
    (star p).Matches s groups t ↔ groups = [] ∧ ∃ run, (∀ c ∈ run, p c = true) ∧ s = run ++ t := by
  induction s with
  | nil =>
    rw [Matches, results, star_results, List.mem_singleton, Prod.mk.injEq]
    refine and_congr_right fun _ => ⟨fun ht => ⟨[], by simp, ht.symm⟩, ?_⟩
    rintro ⟨run, _, hs⟩
    exact (List.append_eq_nil_iff.mp hs.symm).2
  | cons c s ih =>
    rw [matches_star_cons]
    constructor
    · rintro (⟨hc, hlonger⟩ | ⟨rfl, rfl⟩)
      · obtain ⟨hgroups, run, hrun, rfl⟩ := ih.mp hlonger
        exact ⟨hgroups, c :: run, by simpa [hc] using hrun, rfl⟩
      · exact ⟨rfl, [], by simp, rfl⟩
    · rintro ⟨rfl, run, hrun, hs⟩
      cases run with
      | nil => exact .inr ⟨rfl, hs⟩
      | cons d run =>
        cases hs
        have hrest := ih.mpr ⟨rfl, run, fun d hd => hrun d (by simp [hd]), rfl⟩
        exact .inl ⟨hrun c (by simp), hrest⟩

theorem matches_seq : (seq r k).Matches s groups t ↔
    ∃ before mid after, r.Matches s before mid ∧ k.Matches mid after t ∧ groups = before ++ after := by
  rw [Matches, results, List.mem_flatMap]
  constructor
  · rintro ⟨⟨before, mid⟩, hbefore, hmem⟩
    obtain ⟨⟨after, rest⟩, hafter, heq⟩ := List.mem_map.mp hmem
    cases heq
    exact ⟨before, mid, after, hbefore, hafter, rfl⟩
  · rintro ⟨before, mid, after, hbefore, hafter, rfl⟩
    exact ⟨(before, mid), hbefore, List.mem_map.mpr ⟨(after, t), hafter, rfl⟩⟩

/-- What is left is a suffix of the input. -/
theorem Matches.suffix (hmatch : r.Matches s groups t) : ∃ word, s = word ++ t := by
  induction r generalizing s groups t with
  | empty => exact ⟨[], (matches_empty.mp hmatch).2⟩
  | char p =>
    obtain ⟨_, c, _, hs⟩ := matches_char.mp hmatch
    exact ⟨[c], hs⟩
  | star p =>
    obtain ⟨_, run, _, hs⟩ := matches_star.mp hmatch
    exact ⟨run, hs⟩
  | seq r k ihr ihk =>
    obtain ⟨before, mid, after, hbefore, hafter, _⟩ := matches_seq.mp hmatch
    obtain ⟨first, hfirst⟩ := ihr hbefore
    obtain ⟨second, hsecond⟩ := ihk hafter
    exact ⟨first ++ second, by rw [hfirst, hsecond, List.append_assoc]⟩
  | group r ih =>
    obtain ⟨⟨inner, rest⟩, hinner, heq⟩ := List.mem_map.mp hmatch
    cases heq
    exact ih hinner

theorem matches_group : (group r).Matches s groups t ↔
    ∃ word inner, r.Matches s inner t ∧ s = word ++ t ∧ groups = word :: inner := by
  have htake (word : List Char) : (word ++ t).take ((word ++ t).length - t.length) = word := by
    rw [List.length_append, Nat.add_sub_cancel, List.take_left]
  rw [Matches, results, List.mem_map]
  constructor
  · rintro ⟨⟨inner, rest⟩, hinner, heq⟩
    cases heq
    obtain ⟨word, rfl⟩ := Matches.suffix hinner
    exact ⟨word, inner, hinner, rfl, by rw [htake]⟩
  · rintro ⟨word, inner, hinner, rfl, rfl⟩
    exact ⟨(inner, t), hinner, by rw [htake]⟩

theorem matches_lit {word : List Char} : (lit word).Matches s groups t ↔ groups = [] ∧ s = word ++ t := by
  induction word generalizing s groups with
  | nil => exact matches_empty
  | cons c word ih =>
    rw [lit, matches_seq]
    constructor
    · rintro ⟨_, mid, _, hchar, hword, rfl⟩
      obtain ⟨rfl, d, hd, rfl⟩ := matches_char.mp hchar
      obtain ⟨rfl, rfl⟩ := ih.mp hword
      exact ⟨rfl, by rw [of_decide_eq_true hd, List.cons_append]⟩
    · rintro ⟨rfl, rfl⟩
      exact ⟨[], word ++ t, [], matches_char.mpr ⟨rfl, c, by simp, rfl⟩, ih.mpr ⟨rfl, rfl⟩, rfl⟩

theorem matches_plus : (plus p).Matches s groups t ↔
    groups = [] ∧ ∃ run, run ≠ [] ∧ (∀ c ∈ run, p c = true) ∧ s = run ++ t := by
  rw [plus, matches_seq]
  constructor
  · rintro ⟨_, mid, _, hchar, hstar, rfl⟩
    obtain ⟨rfl, c, hc, rfl⟩ := matches_char.mp hchar
    obtain ⟨rfl, run, hrun, rfl⟩ := matches_star.mp hstar
    exact ⟨rfl, c :: run, nofun, by simpa [hc] using hrun, rfl⟩
  · rintro ⟨rfl, run, hne, hrun, rfl⟩
    cases run with
    | nil => exact absurd rfl hne
    | cons c run =>
      refine ⟨[], run ++ t, [], matches_char.mpr ⟨rfl, c, hrun c (by simp), rfl⟩, ?_, rfl⟩
      exact matches_star.mpr ⟨rfl, run, fun d hd => hrun d (by simp [hd]), rfl⟩

/-- A word after a run that may be empty. -/
theorem matches_star_lit {word : List Char} : (seq (star p) (seq (lit word) k)).Matches s groups t ↔
    ∃ run mid, (∀ c ∈ run, p c = true) ∧ s = run ++ (word ++ mid) ∧ k.Matches mid groups t := by
  rw [matches_seq]
  constructor
  · rintro ⟨_, _, _, hstar, hrest, rfl⟩
    obtain ⟨rfl, run, hrun, rfl⟩ := matches_star.mp hstar
    obtain ⟨_, mid, _, hword, hk, rfl⟩ := matches_seq.mp hrest
    obtain ⟨rfl, rfl⟩ := matches_lit.mp hword
    exact ⟨run, mid, hrun, rfl, hk⟩
  · rintro ⟨run, mid, hrun, rfl, hk⟩
    refine ⟨[], word ++ mid, groups, matches_star.mpr ⟨rfl, run, hrun, rfl⟩, ?_, rfl⟩
    exact matches_seq.mpr ⟨[], mid, groups, matches_lit.mpr ⟨rfl, rfl⟩, hk, rfl⟩

/-- A captured word after a run that may be empty. -/
theorem matches_star_group : (seq (star p) (seq (group r) k)).Matches s groups t ↔
    ∃ run word mid inner after, (∀ c ∈ run, p c = true) ∧ s = run ++ (word ++ mid) ∧
      r.Matches (word ++ mid) inner mid ∧ k.Matches mid after t ∧ groups = word :: (inner ++ after) := by
  rw [matches_seq]
  constructor
  · rintro ⟨_, _, _, hstar, hrest, rfl⟩
    obtain ⟨rfl, run, hrun, rfl⟩ := matches_star.mp hstar
    obtain ⟨_, mid, after, hgroup, hk, rfl⟩ := matches_seq.mp hrest
    obtain ⟨word, inner, hinner, rfl, rfl⟩ := matches_group.mp hgroup
    exact ⟨run, word, mid, inner, after, hrun, rfl, hinner, hk, rfl⟩
  · rintro ⟨run, word, mid, inner, after, hrun, rfl, hinner, hk, rfl⟩
    refine ⟨[], word ++ mid, _, matches_star.mpr ⟨rfl, run, hrun, rfl⟩, ?_, rfl⟩
    exact matches_seq.mpr ⟨word :: inner, mid, after, matches_group.mpr ⟨word, inner, hinner, rfl, rfl⟩, hk, rfl⟩

/-- There is at most one way to match. -/
def Unambiguous (r : Regex) : Prop :=
  ∀ s m n, m ∈ r.results s → n ∈ r.results s → m = n

/-- Only one way to match `r` lets `k` match after it. -/
def Determined (r k : Regex) : Prop :=
  ∀ s m n, m ∈ r.results s → n ∈ r.results s → k.results m.2 ≠ [] → k.results n.2 ≠ [] → m = n

/-- The expression never matches at a character of the class. -/
def Rejects (p : Char → Bool) (r : Regex) : Prop := ∀ c s, p c = true → r.results (c :: s) = []

theorem Unambiguous.empty : Unambiguous empty := by
  intro s m n hm hn
  rw [List.mem_singleton.mp hm, List.mem_singleton.mp hn]

theorem Unambiguous.seq (hr : Determined r k) (hk : Unambiguous k) : Unambiguous (seq r k) := by
  rintro s ⟨_, t⟩ ⟨_, t'⟩ hm hn
  obtain ⟨before, mid, after, hbefore, hafter, rfl⟩ := matches_seq.mp hm
  obtain ⟨before', mid', after', hbefore', hafter', rfl⟩ := matches_seq.mp hn
  cases hr s _ _ hbefore hbefore' (List.ne_nil_of_mem hafter) (List.ne_nil_of_mem hafter')
  cases hk mid _ _ hafter hafter'
  rfl

theorem Determined.empty : Determined empty k := fun s m n hm hn _ _ =>
  Unambiguous.empty s m n hm hn

theorem Determined.char : Determined (char p) k := by
  rintro s ⟨_, t⟩ ⟨_, t'⟩ hm hn _ _
  obtain ⟨rfl, c, _, rfl⟩ := matches_char.mp hm
  obtain ⟨rfl, d, _, heq⟩ := matches_char.mp hn
  cases heq
  rfl

/-- A greedy run ends where the rest can go on. -/
theorem Determined.star (hk : Rejects p k) : Determined (star p) k := by
  intro s m n hm hn hkm hkn
  rw [results] at hm hn
  induction s with
  | nil => rw [List.mem_singleton.mp hm, List.mem_singleton.mp hn]
  | cons c s ih =>
    rw [star_results] at hm hn
    split at hm
    · rw [if_pos ‹_›] at hn
      have hlonger (x : Result) (hx : x ∈ star_results p s ++ [([], c :: s)]) (hkx : k.results x.2 ≠ []) :
          x ∈ star_results p s := by
        rcases List.mem_append.mp hx with hlonger | hstop
        · exact hlonger
        · rw [List.mem_singleton.mp hstop] at hkx
          exact absurd (hk c s ‹_›) hkx
      exact ih (hlonger m hm hkm) (hlonger n hn hkn)
    · rw [if_neg ‹_›] at hn
      rw [List.mem_singleton.mp hm, List.mem_singleton.mp hn]

theorem Determined.seq {r' : Regex} (hr : Determined r (seq r' k)) (hr' : Determined r' k) :
    Determined (seq r r') k := by
  rintro s ⟨_, t⟩ ⟨_, t'⟩ hm hn hkm hkn
  obtain ⟨before, mid, after, hbefore, hafter, rfl⟩ := matches_seq.mp hm
  obtain ⟨before', mid', after', hbefore', hafter', rfl⟩ := matches_seq.mp hn
  have hgoes {mid t : List Char} {after : List (List Char)} (hafter : r'.Matches mid after t)
      (hkt : k.results t ≠ []) : (Regex.seq r' k).results mid ≠ [] := by
    obtain ⟨⟨last, rest⟩, hlast⟩ := List.exists_mem_of_ne_nil _ hkt
    exact List.ne_nil_of_mem (matches_seq.mpr ⟨after, t, last, hafter, hlast, rfl⟩)
  cases hr s _ _ hbefore hbefore' (hgoes hafter hkm) (hgoes hafter' hkn)
  cases hr' mid _ _ hafter hafter' hkm hkn
  rfl

theorem Determined.group (hr : Determined r k) : Determined (group r) k := by
  intro s m n hm hn hkm hkn
  obtain ⟨x, hx, rfl⟩ := List.mem_map.mp hm
  obtain ⟨y, hy, rfl⟩ := List.mem_map.mp hn
  rw [hr s x y hx hy hkm hkn]

theorem Determined.lit {word : List Char} : Determined (lit word) k := by
  induction word with
  | nil => exact Determined.empty
  | cons c word ih => exact Determined.char.seq ih

theorem Determined.plus (hk : Rejects p k) : Determined (plus p) k :=
  Determined.char.seq (Determined.star hk)

theorem Rejects.char (hpq : ∀ c, p c = true → q c = false) : Rejects p (char q) := by
  intro c s hc
  rw [results, if_neg (by rw [hpq c hc]; decide)]

theorem Rejects.seq (hr : Rejects p r) : Rejects p (seq r k) := by
  intro c s hc
  rw [results, hr c s hc, List.flatMap_nil]

theorem Rejects.group (hr : Rejects p r) : Rejects p (group r) := by
  intro c s hc
  rw [results, hr c s hc, List.map_nil]

theorem Rejects.lit {c : Char} {word : List Char} (hc : p c = false) : Rejects p (lit (c :: word)) := by
  refine Rejects.seq (Rejects.char fun d hd => decide_eq_false ?_)
  rintro rfl
  rw [hc] at hd
  cases hd

theorem Rejects.plus (hpq : ∀ c, p c = true → q c = false) : Rejects p (plus q) :=
  Rejects.seq (Rejects.char hpq)

/-- A run may be empty, so both the run and what follows have to reject. -/
theorem Rejects.star_seq (hpq : ∀ c, p c = true → q c = false) (hk : Rejects p k) :
    Rejects p (Regex.seq (star q) k) := by
  intro c s hc
  rw [results, results, star_results, if_neg (by rw [hpq c hc]; decide), List.flatMap_singleton,
    hk c s hc, List.map_nil]

/-- An unambiguous expression is matched in the one way there is. -/
theorem Unambiguous.first_eq_some_iff (hr : Unambiguous r) {m : Result} :
    r.first s = some m ↔ r.Matches s m.1 m.2 := by
  constructor
  · exact List.mem_of_mem_head?
  · intro hm
    cases hresults : r.results s with
    | nil =>
      rw [Matches, hresults] at hm
      cases hm
    | cons n rest =>
      have hn : n ∈ r.results s := by simp [hresults]
      rw [first, hresults, List.head?_cons, hr s n m hn hm]

end Regex
