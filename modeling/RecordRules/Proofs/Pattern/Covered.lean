/-
  What it means that an expression is found in a text. The sets of places that are computed hold the
  ends of all stretches that the expression covers, so that it is found exactly where it covers some
  stretch of the text.
-/
import Mathlib.Data.Nat.Bitwise
import Mathlib.Logic.Function.Iterate
import RecordRules.Pattern.Expr

namespace RecordRules.Pattern

/-- The condition that a repetition is not asked for more than it may take. -/
def Expr.Ordered {σ κ : Type} : Expr σ κ → Prop
  | empty | one _ | look _ => True
  | capture e => e.Ordered
  | seq a b | alt a b => a.Ordered ∧ b.Ordered
  | rep least most e => (∀ m, most = some m → least ≤ m) ∧ e.Ordered

namespace Expr

/-! ## Repeated steps -/

/-- A number of steps, one after another. -/
inductive Times (step : Nat → Nat → Prop) : Nat → Nat → Nat → Prop
  | zero {i : Nat} : Times step 0 i i
  | succ {n i j k : Nat} : step i j → Times step n j k → Times step (n + 1) i k

namespace Times

variable {step : Nat → Nat → Prop}

theorem zero_iff {i j : Nat} : Times step 0 i j ↔ i = j := by
  constructor
  · rintro ⟨⟩
    rfl
  · rintro rfl
    exact .zero

theorem succ_iff {n i k : Nat} : Times step (n + 1) i k ↔ ∃ j, step i j ∧ Times step n j k := by
  constructor
  · rintro (_ | ⟨here, later⟩)
    exact ⟨_, here, later⟩
  · rintro ⟨j, here, later⟩
    exact .succ here later

theorem add_iff {m n i k : Nat} :
    Times step (m + n) i k ↔ ∃ j, Times step m i j ∧ Times step n j k := by
  induction m generalizing i with
  | zero => simp [zero_iff]
  | succ m ih =>
    rw [Nat.succ_add]
    simp only [succ_iff, ih]
    constructor
    · rintro ⟨j, here, l, more, later⟩
      exact ⟨l, ⟨j, here, more⟩, later⟩
    · rintro ⟨l, ⟨j, here, more⟩, later⟩
      exact ⟨j, here, l, more, later⟩

/-- Steps that stay where they are can be left out. The others go forward, and not past an end. -/
theorem thin {size : Nat} (forward : ∀ i j, step i j → i = j ∨ i < j ∧ j ≤ size) {n i j : Nat}
    (steps : Times step n i j) : ∃ m ≤ size, Times step m i j := by
  suffices ∃ m, Times step m i j ∧ (m = 0 ∨ i + m ≤ j ∧ j ≤ size) by
    obtain ⟨m, taken, bound⟩ := this
    exact ⟨m, by omega, taken⟩
  induction steps with
  | zero => exact ⟨0, .zero, .inl rfl⟩
  | succ here _ ih =>
    obtain ⟨m, taken, bound⟩ := ih
    obtain rfl | ⟨less, inside⟩ := forward _ _ here
    · exact ⟨m, taken, bound⟩
    · refine ⟨m + 1, .succ here taken, .inr ?_⟩
      obtain rfl | within := bound
      · rw [zero_iff] at taken
        omega
      · omega

end Times

/-! ## Stretches -/

section

variable {σ κ : Type} {take : σ → Nat → Prop} {holds : κ → Nat → Prop}

/-- A stretch does not end before it starts, and not past the last character that can be taken. -/
theorem Matches.forward {size : Nat} (inside : ∀ s i, take s i → i < size) {e : Expr σ κ}
    {i j : Nat} (covered : Matches take holds e i j) : i = j ∨ i < j ∧ j ≤ size := by
  induction covered with
  | empty | look | done => exact .inl rfl
  | one taken =>
    have := inside _ _ taken
    omega
  | capture _ ih | first _ ih | second _ ih => exact ih
  | seq _ _ ih ih' | again _ _ _ ih ih' => omega

/-- A repetition covers as many stretches, one after another, as it allows. -/
theorem matches_rep_iff {e : Expr σ κ} {least : Nat} {most : Option Nat} {i k : Nat} :
    Matches take holds (.rep least most e) i k ↔
      ∃ n, least ≤ n ∧ (∀ m, most = some m → n ≤ m) ∧ Times (Matches take holds e) n i k := by
  constructor
  · intro covered
    generalize repeated : Expr.rep least most e = whole at covered
    induction covered generalizing least most with
    | done =>
      cases repeated
      exact ⟨0, le_rfl, fun _ _ => Nat.zero_le _, .zero⟩
    | again some_left here _ _ ih =>
      cases repeated
      obtain ⟨n, enough, few, later⟩ := ih rfl
      refine ⟨n + 1, by omega, ?_, .succ here later⟩
      rintro m rfl
      have fewer := few (m - 1) rfl
      have : m ≠ 0 := fun none_left => some_left (none_left ▸ rfl)
      omega
    | _ => cases repeated
  · rintro ⟨n, enough, few, times⟩
    induction n generalizing i least most with
    | zero =>
      obtain rfl := Times.zero_iff.mp times
      obtain rfl := Nat.le_zero.mp enough
      exact .done
    | succ n ih =>
      obtain ⟨j, here, later⟩ := Times.succ_iff.mp times
      refine .again ?_ here (ih (by omega) ?_ later)
      · rintro rfl
        exact absurd (few 0 rfl) (by omega)
      · intro m given
        obtain ⟨more, rfl, rfl⟩ := Option.map_eq_some_iff.mp given
        have := few more rfl
        omega

theorem matches_seq_iff {a b : Expr σ κ} {i k : Nat} :
    Matches take holds (.seq a b) i k ↔
      ∃ j, Matches take holds a i j ∧ Matches take holds b j k := by
  constructor
  · rintro (_ | _ | _ | _ | ⟨before, after⟩)
    exact ⟨_, before, after⟩
  · rintro ⟨j, before, after⟩
    exact .seq before after

theorem matches_alt_iff {a b : Expr σ κ} {i j : Nat} :
    Matches take holds (.alt a b) i j ↔ Matches take holds a i j ∨ Matches take holds b i j := by
  constructor
  · intro covered
    cases covered with
    | first there => exact .inl there
    | second there => exact .inr there
  · rintro (there | there)
    · exact .first there
    · exact .second there

theorem matches_capture_iff {e : Expr σ κ} {i j : Nat} :
    Matches take holds (.capture e) i j ↔ Matches take holds e i j := by
  constructor
  · rintro ⟨⟩
    assumption
  · exact .capture

theorem matches_one_iff {s : σ} {i j : Nat} :
    Matches take holds (.one s) i j ↔ take s i ∧ j = i + 1 := by
  constructor
  · rintro ⟨⟩
    exact ⟨by assumption, rfl⟩
  · rintro ⟨taken, rfl⟩
    exact .one taken

theorem matches_look_iff {l : κ} {i j : Nat} :
    Matches take holds (.look l) i j ↔ holds l i ∧ i = j := by
  constructor
  · rintro ⟨⟩
    exact ⟨by assumption, rfl⟩
  · rintro ⟨there, rfl⟩
    exact .look there

theorem matches_empty_iff {i j : Nat} : Matches take holds .empty i j ↔ i = j := by
  constructor
  · rintro ⟨⟩
    rfl
  · rintro rfl
    exact .empty

/-- An empty expression leaves no trace because it makes no difference. -/
theorem matches_andThen_iff {a b : Expr σ κ} {i k : Nat} :
    Matches take holds (a.andThen b) i k ↔
      ∃ j, Matches take holds a i j ∧ Matches take holds b j k := by
  unfold andThen
  split <;> simp [matches_seq_iff, matches_empty_iff]

end

/-! ## Sets of places -/

/-- A step between sets of places that takes each place to all places it is related to. -/
def Spreads (step : Nat → Nat) (related : Nat → Nat → Prop) : Prop :=
  ∀ places j, (step places).testBit j = true ↔ ∃ i, places.testBit i = true ∧ related i j

section

variable {step : Nat → Nat} {related : Nat → Nat → Prop}

theorem iterate_eq (step : Nat → Nat) (n places : Nat) :
    iterate step n places = step^[n] places := by
  induction n generalizing places with
  | zero => rfl
  | succ n ih =>
    rw [iterate]
    split
    · rename_i same
      exact (Function.iterate_fixed same (n + 1)).symm
    · rw [ih, Function.iterate_succ_apply]

theorem Spreads.iterate (spreads : Spreads step related) (n : Nat) :
    Spreads (iterate step n) (Times related n) := by
  intro places j
  rw [iterate_eq]
  induction n generalizing places with
  | zero => simp [Times.zero_iff]
  | succ n ih =>
    rw [Function.iterate_succ_apply, ih]
    simp only [spreads places, Times.succ_iff]
    constructor
    · rintro ⟨k, ⟨i, there, here⟩, later⟩
      exact ⟨i, there, k, here, later⟩
    · rintro ⟨i, there, k, here, later⟩
      exact ⟨k, ⟨i, there, here⟩, later⟩

theorem Spreads.reach (spreads : Spreads step related) (n : Nat) :
    Spreads (reach step n) fun i j => ∃ m ≤ n, Times related m i j := by
  have either : Spreads (fun p => p ||| step p) fun i j => i = j ∨ related i j := by
    intro places j
    simp only [Nat.testBit_or, Bool.or_eq_true, spreads places]
    constructor
    · rintro (there | ⟨i, there, here⟩)
      · exact ⟨j, there, .inl rfl⟩
      · exact ⟨i, there, .inr here⟩
    · rintro ⟨i, there, rfl | here⟩
      · exact .inl there
      · exact .inr ⟨i, there, here⟩
  intro places j
  rw [Expr.reach, either.iterate n places]
  refine exists_congr fun i => and_congr_right fun there => ?_
  clear there
  constructor
  · intro steps
    induction steps with
    | zero => exact ⟨0, le_rfl, .zero⟩
    | succ here _ ih =>
      obtain ⟨m, few, taken⟩ := ih
      obtain rfl | here := here
      · exact ⟨m, by omega, taken⟩
      · exact ⟨m + 1, by omega, .succ here taken⟩
  · rintro ⟨m, few, taken⟩
    obtain ⟨spare, rfl⟩ := Nat.exists_eq_add_of_le few
    have stay : Times (fun i j => i = j ∨ related i j) spare j j := by
      clear few
      induction spare with
      | zero => exact .zero
      | succ spare ih => exact .succ (.inl rfl) ih
    refine Times.add_iff.mpr ⟨j, ?_, stay⟩
    clear few stay
    induction taken with
    | zero => exact .zero
    | succ here _ ih => exact .succ (.inr here) ih

end

section

variable {σ κ : Type} {take : σ → Nat → Prop} {holds : κ → Nat → Prop}

/-- The places that are computed are the ends of the stretches that start at the given places. -/
theorem spreads_ends {size : Nat} {f : σ → Nat} {g : κ → Nat}
    (taken : ∀ s i, (f s).testBit i = true ↔ take s i)
    (held : ∀ l i, (g l).testBit i = true ↔ holds l i) (inside : ∀ s i, take s i → i < size)
    {e : Expr σ κ} (ordered : e.Ordered) :
    Spreads ((e.map f g).ends size) (Matches take holds e) := by
  induction e with
  | empty => simp [Spreads, map, ends, matches_empty_iff]
  | one s =>
    intro places j
    rw [map, ends, Nat.testBit_shiftLeft]
    simp only [Nat.testBit_and, Bool.and_eq_true, decide_eq_true_eq, taken, matches_one_iff]
    constructor
    · rintro ⟨positive, there, here⟩
      exact ⟨j - 1, there, here, by omega⟩
    · rintro ⟨i, there, here, rfl⟩
      exact ⟨by omega, there, here⟩
  | look l => simp [Spreads, map, ends, matches_look_iff, held, and_comm]
  | capture e ih =>
    simp only [Spreads, matches_capture_iff]
    exact ih ordered
  | seq a b ihA ihB =>
    intro places j
    rw [map, ends, ihB ordered.2]
    simp only [ihA ordered.1 places, matches_seq_iff]
    constructor
    · rintro ⟨k, ⟨i, there, before⟩, after⟩
      exact ⟨i, there, k, before, after⟩
    · rintro ⟨i, there, k, before, after⟩
      exact ⟨k, ⟨i, there, before⟩, after⟩
  | alt a b ihA ihB =>
    intro places j
    rw [map, ends, Nat.testBit_or, Bool.or_eq_true, ihA ordered.1, ihB ordered.2]
    simp only [matches_alt_iff, and_or_left, exists_or]
  | rep least most e ih =>
    have step := ih ordered.2
    intro places j
    have from_start (n : Nat) :
        (reach ((e.map f g).ends size) n
          (iterate ((e.map f g).ends size) least places)).testBit j = true ↔
        ∃ i, places.testBit i = true ∧ ∃ m ≤ n, Times (Matches take holds e) (least + m) i j := by
      rw [step.reach n]
      simp only [step.iterate least places, Times.add_iff]
      constructor
      · rintro ⟨k, ⟨i, there, first⟩, m, few, later⟩
        exact ⟨i, there, m, few, k, first, later⟩
      · rintro ⟨i, there, m, few, k, first, later⟩
        exact ⟨k, ⟨i, there, first⟩, m, few, later⟩
    cases most with
    | some m =>
      rw [map, ends]
      have least_le := ordered.1 m rfl
      rw [from_start]
      refine exists_congr fun i => and_congr_right fun _ => ?_
      rw [matches_rep_iff]
      constructor
      · rintro ⟨n, few, times⟩
        exact ⟨least + n, by omega, by rintro _ ⟨⟩; omega, times⟩
      · rintro ⟨n, enough, few, times⟩
        obtain ⟨extra, rfl⟩ := Nat.exists_eq_add_of_le enough
        have := few m rfl
        exact ⟨extra, by omega, times⟩
    | none =>
      rw [map, ends]
      rw [from_start]
      refine exists_congr fun i => and_congr_right fun _ => ?_
      rw [matches_rep_iff]
      constructor
      · rintro ⟨n, _, times⟩
        exact ⟨least + n, by omega, nofun, times⟩
      · rintro ⟨n, enough, _, times⟩
        obtain ⟨extra, rfl⟩ := Nat.exists_eq_add_of_le enough
        -- the steps after the least number of them count only where they go forward
        obtain ⟨k, first, more⟩ := Times.add_iff.mp times
        obtain ⟨m, few, thinned⟩ := more.thin fun _ _ covered => covered.forward inside
        exact ⟨m, by omega, Times.add_iff.mpr ⟨k, first, thinned⟩⟩

end

end Expr

/-! ## Places of a text -/

open RecordRules.Unicode (CharSet)

theorem testBit_place {here : Bool} {place i : Nat} :
    (if here then 1 <<< place else 0).testBit i = true ↔ i = place ∧ here = true := by
  cases here <;> simp [Nat.one_shiftLeft, Nat.testBit_two_pow, eq_comm]

theorem testBit_placesOf {set : CharSet} {start : Nat} {text : List Char} {i : Nat} :
    (placesOf set start text).testBit i = true ↔
      start ≤ i ∧ ∃ c, text[i - start]? = some c ∧ set.mem c = true := by
  induction text generalizing start with
  | nil => simp [placesOf]
  | cons c cs ih =>
    rw [placesOf, Nat.testBit_or, Bool.or_eq_true, ih, testBit_place]
    obtain less | rfl | more := Nat.lt_trichotomy i start
    · simp only [show ¬ i = start by omega, show ¬ start + 1 ≤ i by omega,
        show ¬ start ≤ i by omega, false_and, or_self]
    · simp
    · have next : i - start = i - (start + 1) + 1 := by omega
      simp only [show ¬ i = start by omega, show start + 1 ≤ i by omega, show start ≤ i by omega,
        next, List.getElem?_cons_succ, false_and, true_and, false_or]

theorem testBit_placesWhere {l : Look} {start : Nat} {before : Option Char} {text : List Char}
    {i : Nat} :
    (placesWhere l start before text).testBit i = true ↔
      start ≤ i ∧ i ≤ start + text.length ∧
        l.holds (if i = start then before else text[i - start - 1]?) text[i - start]? = true := by
  induction text generalizing start before with
  | nil =>
    rw [placesWhere, testBit_place, List.length_nil, Nat.add_zero]
    constructor
    · rintro ⟨rfl, there⟩
      exact ⟨le_rfl, le_rfl, by simpa using there⟩
    · rintro ⟨least, most, there⟩
      obtain rfl := Nat.le_antisymm least most
      exact ⟨rfl, by simpa using there⟩
  | cons c cs ih =>
    rw [placesWhere, Nat.testBit_or, Bool.or_eq_true, ih, testBit_place, List.length_cons]
    obtain less | rfl | more := Nat.lt_trichotomy i start
    · simp only [show ¬ i = start by omega, show ¬ start + 1 ≤ i by omega,
        show ¬ start ≤ i by omega, false_and, or_self]
    · simp
    · have next : i - start = i - (start + 1) + 1 := by omega
      have inside : i ≤ start + 1 + cs.length ↔ i ≤ start + (cs.length + 1) := by omega
      simp only [show ¬ i = start by omega, show start + 1 ≤ i by omega, show start ≤ i by omega,
        next, List.getElem?_cons_succ, false_and, true_and, false_or, inside, if_false,
        Nat.add_sub_cancel]
      obtain rfl | later := Nat.eq_or_lt_of_le (show start + 1 ≤ i by omega)
      · simp
      · have before : i - (start + 1) = i - (start + 1) - 1 + 1 := by omega
        rw [if_neg (by omega), before, List.getElem?_cons_succ, Nat.add_sub_cancel]

/-! ## Finding -/

/-- The meaning of an expression in a text: the stretch from one place to another is covered. -/
def Matcher.Covers (e : Matcher) (text : List Char) : Nat → Nat → Prop :=
  e.Matches (fun set i => ∃ c, text[i]? = some c ∧ set.mem c = true)
    (fun l i => i ≤ text.length ∧ l.holds (charBefore text i) text[i]? = true)

theorem Matcher.spreads_ends {e : Matcher} (ordered : e.Ordered) (text : List Char) :
    Expr.Spreads ((e.map (placesOf · 0 text) (placesWhere · 0 none text)).ends text.length)
      (e.Covers text) := by
  refine Expr.spreads_ends (fun set i => ?_) (fun l i => ?_) ?_ ordered
  · simp [testBit_placesOf]
  · simp [testBit_placesWhere, charBefore]
  · rintro set i ⟨c, there, _⟩
    exact (List.getElem?_eq_some_iff.mp there).1

/-- An expression is found in a text if it covers some stretch of it. -/
theorem Matcher.findsIn_iff {e : Matcher} (ordered : e.Ordered) (text : String) :
    e.findsIn text = true ↔ ∃ i ≤ text.toList.length, ∃ j, e.Covers text.toList i j := by
  have spreads := spreads_ends ordered text.toList (2 ^ (text.toList.length + 1) - 1)
  simp only [Nat.testBit_two_pow_sub_one, decide_eq_true_eq, Nat.lt_succ_iff] at spreads
  have found : e.findsIn text = true ↔
      (e.map (placesOf · 0 text.toList) (placesWhere · 0 none text.toList)).ends text.toList.length
        (2 ^ (text.toList.length + 1) - 1) ≠ 0 := bne_iff_ne
  rw [found]
  constructor
  · intro some_place
    obtain ⟨j, here, _⟩ := Nat.exists_most_significant_bit some_place
    obtain ⟨i, inside, covered⟩ := (spreads j).mp here
    exact ⟨i, inside, j, covered⟩
  · rintro ⟨i, inside, j, covered⟩ none
    have here := (spreads j).mpr ⟨i, inside, covered⟩
    rw [none, Nat.zero_testBit] at here
    cases here

/-! ## Whole texts -/

theorem Expr.Ordered.andThen {σ κ : Type} {a b : Expr σ κ} (first : a.Ordered)
    (second : b.Ordered) : (a.andThen b).Ordered := by
  unfold Expr.andThen
  split
  · exact second
  · exact first
  · exact ⟨first, second⟩

/-- The start of a text lies before its first character. -/
theorem Look.holds_start_iff {text : List Char} {i : Nat} :
    i ≤ text.length ∧ Look.start.holds (charBefore text i) text[i]? = true ↔ i = 0 := by
  cases i with
  | zero => simp [Look.holds, charBefore]
  | succ i =>
    rw [Look.holds, charBefore, if_neg (Nat.succ_ne_zero i), Nat.add_sub_cancel,
      Option.isNone_iff_eq_none, List.getElem?_eq_none_iff]
    omega

/-- The end of a text lies after its last character. -/
theorem Look.holds_stop_iff {text : List Char} {i : Nat} :
    i ≤ text.length ∧ Look.stop.holds (charBefore text i) text[i]? = true ↔ i = text.length := by
  rw [Look.holds, Option.isNone_iff_eq_none, List.getElem?_eq_none_iff, Nat.le_antisymm_iff]

/-- An expression that stands between the start and the end of a text is found where it covers the
    text from its first to its last character. -/
theorem Matcher.findsIn_whole {e : Matcher} (ordered : e.Ordered) (text : String) :
    Matcher.findsIn (.concat [.look .start, e, .look .stop]) text = true ↔
      e.Covers text.toList 0 text.toList.length := by
  have whole : Expr.Ordered (.concat [.look .start, e, .look .stop] : Matcher) :=
    .andThen trivial (ordered.andThen (.andThen trivial trivial))
  rw [findsIn_iff whole]
  simp only [Covers, Expr.concat, List.foldr_cons, List.foldr_nil, Expr.matches_andThen_iff,
    Expr.matches_look_iff, Expr.matches_empty_iff, Look.holds_start_iff, Look.holds_stop_iff]
  constructor
  · rintro ⟨_, _, _, _, ⟨rfl, rfl⟩, _, covered, _, ⟨rfl, rfl⟩, rfl⟩
    exact covered
  · intro covered
    exact ⟨0, Nat.zero_le _, _, _, ⟨rfl, rfl⟩, _, covered, _, ⟨rfl, rfl⟩, rfl⟩

end RecordRules.Pattern
