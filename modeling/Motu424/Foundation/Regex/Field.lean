import Motu424.Foundation.Regex

namespace Regex

variable {p : Char → Bool} {r r' k : Regex} {run s : List Char}

/-- The text does not go on with a character of the class. -/
def Stops (p : Char → Bool) (s : List Char) : Prop := ∀ c rest, s = c :: rest → p c = false

theorem Stops.nil : Stops p [] := by
  intro c rest hs
  cases hs

theorem Stops.cons {c : Char} (hc : p c = false) : Stops p (c :: s) := by
  intro d rest hs
  cases hs
  exact hc

/-- A field that has been captured stands before what the rest captures. -/
def capture (word : List Char) (m : Result) : Result := (word :: m.1, m.2)

theorem results_empty_seq : (seq empty k).results s = k.results s := by simp

theorem results_assoc : (seq (seq r r') k).results s = (seq r (seq r' k)).results s := by
  simp [List.flatMap_assoc, List.flatMap_map, List.map_flatMap, Function.comp_def]

theorem results_seq_congr {k' : Regex} (hk : ∀ s, k.results s = k'.results s) :
    (seq r k).results s = (seq r k').results s := by
  rw [results, results]
  simp only [hk]

/-- The expressions of a list are run one after the other, and then what follows. -/
theorem results_concat_seq (rs : List Regex) : (seq (concat rs) k).results s = (rs.foldr seq k).results s := by
  induction rs generalizing s with
  | nil => exact results_empty_seq
  | cons r rs ih => rw [concat, results_assoc, List.foldr_cons, results_seq_congr fun s => ih]

theorem results_char_seq {c : Char} : (seq (char p) k).results (c :: s) = if p c then k.results s else [] := by
  by_cases hc : p c = true
  · simp [hc]
  · simp [hc]

/-- A word of the expression that stands in the text. -/
theorem results_lit_seq {word : List Char} : (seq (lit word) k).results (word ++ s) = k.results s := by
  induction word with
  | nil => exact results_empty_seq
  | cons c word ih => rw [lit, results_assoc, List.cons_append, results_char_seq, if_pos (decide_eq_true rfl), ih]

/-- A word that does not. -/
theorem results_lit_seq_of_stops {c : Char} {word : List Char} (hs : Stops (· = c) s) :
    (seq (lit (c :: word)) k).results s = [] := by
  rw [lit, results_assoc]
  cases s with
  | nil => rfl
  | cons d s => rw [results_char_seq, if_neg (Bool.eq_false_iff.mp (hs d s rfl))]

/-- The word is not found in a text without its first character. -/
theorem search_lit_seq_of_not_mem {c : Char} {word : List Char} (hc : c ∉ s) :
    (seq (lit (c :: word)) k).search s = none := by
  induction s with
  | nil => rfl
  | cons d s ih =>
    rw [List.mem_cons, not_or] at hc
    rw [search, first, results_lit_seq_of_stops (Stops.cons (decide_eq_false (Ne.symm hc.1))), List.head?_nil,
      ih hc.2, Option.or_none]

/-- A text that goes on otherwise after a part of the word. -/
theorem results_lit_seq_of_differ {shared word rest : List Char} {c d : Char} (hcd : d ≠ c) :
    (seq (lit (shared ++ c :: word)) k).results (shared ++ d :: rest) = [] := by
  induction shared with
  | nil => exact results_lit_seq_of_stops (Stops.cons (decide_eq_false hcd))
  | cons e shared ih =>
    rw [List.cons_append, List.cons_append, lit, results_assoc, results_char_seq, if_pos (decide_eq_true rfl), ih]

theorem first_lit_of_differ {rs : List Regex} {shared word rest : List Char} {c d : Char} (hcd : d ≠ c) :
    (concat (lit (shared ++ c :: word) :: rs)).first (shared ++ d :: rest) = none := by
  rw [first, concat, results_lit_seq_of_differ hcd, List.head?_nil]

/-- A greedy run, when what follows cannot start inside it. -/
theorem flatMap_star_results {β : Type} {f : Result → List β} (hf : ∀ c s, p c = true → f ([], c :: s) = [])
    (hrun : ∀ c ∈ run, p c = true) (hstop : Stops p s) :
    (star_results p (run ++ s)).flatMap f = f ([], s) := by
  induction run with
  | nil =>
    cases s with
    | nil => simp
    | cons c s => simp [hstop c s rfl]
  | cons c run ih =>
    have hc : p c = true := hrun c List.mem_cons_self
    rw [List.cons_append, star_results, if_pos hc, List.flatMap_append,
      ih fun d hd => hrun d (List.mem_cons_of_mem c hd), List.flatMap_singleton, hf c _ hc, List.append_nil]

theorem results_plus {c : Char} : (plus p).results (c :: s) = if p c then star_results p s else [] := by
  rw [plus, results_char_seq, results]

theorem results_plus_of_stops (hs : Stops p s) : (plus p).results s = [] := by
  cases s with
  | nil => rfl
  | cons c s => rw [results_plus, hs c s rfl, if_neg Bool.false_ne_true]

theorem flatMap_plus_results {β : Type} {f : Result → List β} (hf : ∀ c s, p c = true → f ([], c :: s) = [])
    (hne : run ≠ []) (hrun : ∀ c ∈ run, p c = true) (hstop : Stops p s) :
    ((plus p).results (run ++ s)).flatMap f = f ([], s) := by
  cases run with
  | nil => exact absurd rfl hne
  | cons c run =>
    rw [List.cons_append, results_plus, if_pos (hrun c List.mem_cons_self)]
    exact flatMap_star_results hf (fun d hd => hrun d (List.mem_cons_of_mem c hd)) hstop

/-- A field of the class. -/
theorem results_plus_seq (hk : Rejects p k) (hne : run ≠ []) (hrun : ∀ c ∈ run, p c = true)
    (hstop : Stops p s) : (seq (plus p) k).results (run ++ s) = k.results s := by
  rw [results, flatMap_plus_results _ hne hrun hstop]
  · simp
  · intro c s hc
    rw [hk c s hc, List.map_nil]

/-- A run that may be empty. -/
theorem results_star_seq (hk : Rejects p k) (hrun : ∀ c ∈ run, p c = true) (hstop : Stops p s) :
    (seq (star p) k).results (run ++ s) = k.results s := by
  rw [results, results, flatMap_star_results _ hrun hstop]
  · simp
  · intro c s hc
    rw [hk c s hc, List.map_nil]

/-- A captured field of the class. -/
theorem results_group_plus_seq (hk : Rejects p k) (hne : run ≠ []) (hrun : ∀ c ∈ run, p c = true)
    (hstop : Stops p s) :
    (seq (group (plus p)) k).results (run ++ s) = (k.results s).map (capture run) := by
  rw [results, results, List.flatMap_map, flatMap_plus_results _ hne hrun hstop]
  · have htake : (run ++ s).take ((run ++ s).length - s.length) = run := by
      rw [List.length_append, Nat.add_sub_cancel, List.take_left]
    rw [htake]
    rfl
  · intro c s hc
    rw [hk c s hc, List.map_nil]

/-- A captured field that an expression matches in one way. -/
theorem results_group_seq {word : List Char} (hr : r.results (word ++ s) = [([], s)]) :
    (seq (group r) k).results (word ++ s) = (k.results s).map (capture word) := by
  have htake : (word ++ s).take ((word ++ s).length - s.length) = word := by
    rw [List.length_append, Nat.add_sub_cancel, List.take_left]
  rw [results, results, hr, List.map_singleton, List.flatMap_singleton, htake]
  rfl

theorem results_group_seq_of_none (hr : r.results s = []) : (seq (group r) k).results s = [] := by
  rw [results, results, hr]
  rfl

/-- The word ends a field of the class: it begins with another character. -/
def Delimits (p : Char → Bool) (word : List Char) : Prop := ∃ c rest, word = c :: rest ∧ p c = false

theorem Delimits.stops {word : List Char} (hword : Delimits p word) : Stops p (word ++ s) := by
  obtain ⟨c, rest, rfl, hc⟩ := hword
  exact Stops.cons hc

theorem Delimits.rejects {word : List Char} (hword : Delimits p word) : Rejects p (lit word) := by
  obtain ⟨c, rest, rfl, hc⟩ := hword
  exact Rejects.lit hc

/-- A field and the word after it. -/
theorem results_plus_lit_seq {word : List Char} (hword : Delimits p word) (hne : run ≠ [])
    (hrun : ∀ c ∈ run, p c = true) :
    (seq (plus p) (seq (lit word) k)).results (run ++ (word ++ s)) = k.results s := by
  rw [results_plus_seq hword.rejects.seq hne hrun hword.stops, results_lit_seq]

/-- A captured field and the word after it. -/
theorem results_group_plus_lit_seq {word : List Char} (hword : Delimits p word) (hne : run ≠ [])
    (hrun : ∀ c ∈ run, p c = true) :
    (seq (group (plus p)) (seq (lit word) k)).results (run ++ (word ++ s)) =
      (k.results s).map (capture run) := by
  rw [results_group_plus_seq hword.rejects.seq hne hrun hword.stops, results_lit_seq]

/-- A field that breaks off before a character at which nothing goes on. -/
theorem results_plus_seq_of_break {d : Char} (hk : Rejects p k) (hrun : ∀ c ∈ run, p c = true)
    (hd : p d = false) (hbreak : k.results (d :: s) = []) : (seq (plus p) k).results (run ++ d :: s) = [] := by
  by_cases hne : run = []
  · rw [hne, List.nil_append, results, results_plus_of_stops (Stops.cons hd), List.flatMap_nil]
  · rw [results_plus_seq hk hne hrun (Stops.cons hd), hbreak]

theorem results_star_lit_seq {word : List Char} (hword : Delimits p word) (hrun : ∀ c ∈ run, p c = true) :
    (seq (star p) (seq (lit word) k)).results (run ++ (word ++ s)) = k.results s := by
  rw [results_star_seq hword.rejects.seq hrun hword.stops, results_lit_seq]

/-- A run is taken as far as it goes. -/
theorem star_results_head (hrun : ∀ c ∈ run, p c = true) : (star_results p run).head? = some ([], []) := by
  induction run with
  | nil => rfl
  | cons c run ih =>
    rw [star_results, if_pos (hrun c List.mem_cons_self), List.head?_append,
      ih fun d hd => hrun d (List.mem_cons_of_mem c hd), Option.some_or]

/-- A captured field at the end of the text. -/
theorem first_group_plus_end (hne : run ≠ []) (hrun : ∀ c ∈ run, p c = true) :
    (seq (group (plus p)) empty).first run = some ([run], []) := by
  have hplus : ((plus p).results run).head? = some ([], []) := by
    cases run with
    | nil => exact absurd rfl hne
    | cons c run =>
      rw [results_plus, if_pos (hrun c List.mem_cons_self)]
      exact star_results_head fun d hd => hrun d (List.mem_cons_of_mem c hd)
  simp [first, hplus]

/-- A text up to a word: the class has to take all of it. -/
theorem results_plus_seq_until {c : Char} {word : List Char} (hc : p c = false) (hne : run ≠ [])
    (hrun : c ∉ run) :
    (seq (plus p) (seq (lit (c :: word)) k)).results (run ++ (c :: word ++ s)) =
      if run.all p then k.results s else [] := by
  by_cases hall : run.all p = true
  · have hword : Delimits p (c :: word) := ⟨c, word, rfl, hc⟩
    rw [if_pos hall, results_plus_lit_seq hword hne (List.all_eq_true.mp hall)]
  · rw [if_neg hall]
    obtain ⟨d, hfind⟩ : ∃ d, run.find? (fun d => !p d) = some d := by
      rw [← Option.isSome_iff_exists, List.find?_isSome]
      simpa using hall
    obtain ⟨hd, before, after, rfl, hbefore⟩ := List.find?_eq_some_iff_append.mp hfind
    have hk : Rejects p (seq (lit (c :: word)) k) := (Rejects.lit hc).seq
    rw [List.append_assoc, List.cons_append]
    apply results_plus_seq_of_break hk (by simpa using hbefore) (by simpa using hd)
    apply results_lit_seq_of_stops
    apply Stops.cons
    apply decide_eq_false
    rintro rfl
    exact hrun (by simp)

/-- No run leads up to a character that is missing. -/
theorem flatMap_star_results_of_not_mem {β : Type} {f : Result → List β} {c : Char}
    (hf : ∀ s, Stops (· = c) s → f ([], s) = []) (hs : c ∉ s) : (star_results p s).flatMap f = [] := by
  induction s with
  | nil => simpa using hf [] Stops.nil
  | cons d s ih =>
    have hd : f ([], d :: s) = [] := hf _ (Stops.cons (decide_eq_false fun heq => hs (heq ▸ List.mem_cons_self)))
    have hrest := ih fun hmem => hs (List.mem_cons_of_mem d hmem)
    rw [star_results]
    split
    · rw [List.flatMap_append, hrest, List.flatMap_singleton, hd, List.append_nil]
    · rw [List.flatMap_singleton, hd]

/-- A greedy run, when what follows can only start at a character that stands in the
text once. -/
theorem flatMap_star_results_once {β : Type} {f : Result → List β} {c : Char}
    (hf : ∀ s, Stops (· = c) s → f ([], s) = []) (hall : ∀ d ∈ run, p d = true) (hrun : c ∉ run) (hs : c ∉ s) :
    (star_results p (run ++ c :: s)).flatMap f = f ([], c :: s) := by
  induction run with
  | nil =>
    rw [List.nil_append, star_results]
    split
    · rw [List.flatMap_append, flatMap_star_results_of_not_mem hf hs, List.nil_append, List.flatMap_singleton]
    · rw [List.flatMap_singleton]
  | cons d run ih =>
    have hd : f ([], d :: (run ++ c :: s)) = [] :=
      hf _ (Stops.cons (decide_eq_false fun heq => hrun (heq ▸ List.mem_cons_self)))
    rw [List.cons_append, star_results, if_pos (hall d List.mem_cons_self), List.flatMap_append,
      ih (fun e he => hall e (List.mem_cons_of_mem d he)) (fun hmem => hrun (List.mem_cons_of_mem d hmem)),
      List.flatMap_singleton, hd, List.append_nil]

/-- A greedy run goes back to a word that stands in the text once, even if it could
go on through the word. -/
theorem results_star_lit_seq_once {c : Char} {word : List Char} (hall : ∀ d ∈ run, p d = true) (hrun : c ∉ run)
    (hs : c ∉ word ++ s) :
    (seq (star p) (seq (lit (c :: word)) k)).results (run ++ (c :: word ++ s)) = k.results s := by
  rw [results, results, List.cons_append, flatMap_star_results_once _ hall hrun hs]
  · rw [← List.cons_append, results_lit_seq]
    simp
  · intro t ht
    rw [results_lit_seq_of_stops ht, List.map_nil]

/-- A run is taken as far as it goes, and a longest one comes first. -/
theorem plus_results_head (hne : run ≠ []) (hrun : ∀ c ∈ run, p c = true) (hstop : Stops p s) :
    ((plus p).results (run ++ s)).head? = some ([], s) := by
  have hstar (run : List Char) (hrun : ∀ c ∈ run, p c = true) :
      (star_results p (run ++ s)).head? = some ([], s) := by
    induction run with
    | nil =>
      cases s with
      | nil => rfl
      | cons c s => rw [List.nil_append, star_results, hstop c s rfl, if_neg Bool.false_ne_true, List.head?_cons]
    | cons c run ih =>
      rw [List.cons_append, star_results, if_pos (hrun c List.mem_cons_self), List.head?_append,
        ih fun d hd => hrun d (List.mem_cons_of_mem c hd), Option.some_or]
  cases run with
  | nil => exact absurd rfl hne
  | cons c run =>
    rw [List.cons_append, results_plus, if_pos (hrun c List.mem_cons_self)]
    exact hstar run fun d hd => hrun d (List.mem_cons_of_mem c hd)

/-- A captured field that ends the expression. -/
theorem first_group_empty {word : List Char} (hr : (r.results (word ++ s)).head? = some ([], s)) :
    (seq (group r) empty).first (word ++ s) = some ([word], s) := by
  obtain ⟨m, hm⟩ : ∃ m, r.results (word ++ s) = ([], s) :: m := by
    rw [List.head?_eq_some_iff] at hr
    exact hr
  rw [first, results, results, hm]
  simp

end Regex
