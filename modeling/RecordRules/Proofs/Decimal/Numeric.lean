/-
  Which texts are read as numbers. A number is written as a sign or none, digits with at most one
  point among them, and a power of ten or none. Since one plus sign is dropped before the sign is
  read, and the point is taken out before that, there are texts with a sign out of place that are
  read as well: with a plus sign before the sign, or with the sign right after a leading point, where
  it counts as a decimal place.

  1. `integer?_eq_some_iff`, `splitExponent_eq_some_iff`, `exists_of_dropPoint`: what each part of the
     reader takes apart.
  2. `parse?_eq_some_iff`: which characters are read, whatever their scale.
  3. `Stray.not_numeric`: no text with a sign out of place is written as a number.
  4. `read_iff_numeric_or_stray`: which texts are read, and as which numbers.
-/
import RecordRules.Proofs.Digits

namespace RecordRules.Decimal

/-- A sign or none, and the factor that it stands for. -/
inductive Sign : List Char → Int → Prop
  | absent : Sign [] 1
  | plus : Sign ['+'] 1
  | minus : Sign ['-'] (-1)

/-- Digits, with one point before, between or after them or without one, and how many of the digits
    are after it. -/
inductive Mantissa : List Char → Digits → Nat → Prop
  | whole {ds : Digits} : ds ≠ [] → Mantissa ds.chars ds 0
  | point {ds es : Digits} :
      ds ++ es ≠ [] → Mantissa (ds.chars ++ '.' :: es.chars) (ds ++ es) es.length

/-- A power of ten: a mark, a sign or none, and digits. -/
inductive TenPower : List Char → Int → Prop
  | absent : TenPower [] 0
  | marked {mark : Char} {sign : List Char} {factor : Int} {ds : Digits} :
      isExponentMark mark = true → Sign sign factor → ds ≠ [] →
      TenPower (mark :: (sign ++ ds.chars)) (factor * ds.value)

/-- A number without a sign: its digits, and the decimal places less the exponent. -/
inductive Magnitude : List Char → Nat → Int → Prop
  | of {base power : List Char} {ds : Digits} {places : Nat} {e : Int} :
      Mantissa base ds places → TenPower power e → Magnitude (base ++ power) ds.value (places - e)

/-- A number in plain or scientific notation. -/
inductive Numeric : List Char → Decimal → Prop
  | of {sign cs : List Char} {factor : Int} {n : Nat} {scale : Int} :
      Sign sign factor → Magnitude cs n scale → Numeric (sign ++ cs) ⟨factor * n, scale⟩

/-- A leading point with a sign after it, which counts as a decimal place. -/
inductive PointSigned : List Char → Decimal → Prop
  | of {mark : Char} {factor : Int} {ds : Digits} {power : List Char} {e : Int} :
      Sign [mark] factor → ds ≠ [] → TenPower power e →
      PointSigned ('.' :: mark :: (ds.chars ++ power))
        ⟨factor * ds.value, ((ds.length + 1 : Nat) : Int) - e⟩

/-- A number with a sign out of place: after a plus sign, or after a leading point. -/
inductive Stray : List Char → Decimal → Prop
  | second {mark : Char} {factor : Int} {cs : List Char} {n : Nat} {scale : Int} :
      Sign [mark] factor → Magnitude cs n scale → Stray ('+' :: mark :: cs) ⟨factor * n, scale⟩
  | inside {cs : List Char} {d : Decimal} : PointSigned cs d → Stray cs d
  | insideAfterPlus {cs : List Char} {d : Decimal} : PointSigned cs d → Stray ('+' :: cs) d

/-! ## Parts of a number -/

section

variable {cs base power sign : List Char} {ds : Digits} {places n : Nat} {e factor scale : Int}

theorem Sign.integer?_append (signed : Sign sign factor) (nonempty : ds ≠ []) :
    integer? (sign ++ ds.chars) = some (factor * ds.value) := by
  cases signed with
  | absent =>
    obtain ⟨d, more, rfl⟩ := List.exists_cons_of_ne_nil nonempty
    rw [List.nil_append, Digits.chars_cons, integer?_of_unsigned d.char_ne_sign,
      ← Digits.chars_cons, Digits.natOf?_chars nonempty, Int.one_mul]
    rfl
  | plus =>
    rw [List.singleton_append, integer?, Digits.natOf?_chars nonempty, Int.one_mul]
    rfl
  | minus =>
    rw [List.singleton_append, integer?, Digits.natOf?_chars nonempty, Int.neg_one_mul]
    rfl

theorem integer?_eq_some_iff {z : Int} :
    integer? cs = some z ↔
      ∃ sign factor ds, Sign sign factor ∧ ds ≠ [] ∧ cs = sign ++ Digits.chars ds ∧
        factor * Digits.value ds = z := by
  constructor
  · intro read
    unfold integer? at read
    split at read
    · obtain ⟨_, digits, rfl⟩ := Option.map_eq_some_iff.mp read
      obtain ⟨ds, nonempty, rfl, rfl⟩ := Digits.natOf?_eq_some_iff.mp digits
      exact ⟨_, _, ds, .plus, nonempty, rfl, Int.one_mul _⟩
    · obtain ⟨_, digits, rfl⟩ := Option.map_eq_some_iff.mp read
      obtain ⟨ds, nonempty, rfl, rfl⟩ := Digits.natOf?_eq_some_iff.mp digits
      exact ⟨_, _, ds, .minus, nonempty, rfl, Int.neg_one_mul _⟩
    · obtain ⟨_, digits, rfl⟩ := Option.map_eq_some_iff.mp read
      obtain ⟨ds, nonempty, rfl, rfl⟩ := Digits.natOf?_eq_some_iff.mp digits
      exact ⟨_, _, ds, .absent, nonempty, rfl, Int.one_mul _⟩
  · rintro ⟨sign, factor, ds, signed, nonempty, rfl, rfl⟩
    exact signed.integer?_append nonempty

/-- An exponent is split off from what is before its mark. -/
theorem splitExponent_append {rest : List Char} (plain : ∀ c ∈ cs, isExponentMark c = false) :
    splitExponent (cs ++ rest) = (splitExponent rest).map fun (base, e) => (cs ++ base, e) := by
  induction cs with
  | nil => simp
  | cons c cs ih =>
    rw [List.forall_mem_cons] at plain
    rw [List.cons_append, splitExponent, plain.1, ih plain.2]
    simp [Option.map_map, Function.comp_def]

theorem TenPower.splitExponent_eq (exponent : TenPower power e) :
    splitExponent power = some ([], e) := by
  cases exponent with
  | absent => rfl
  | marked mark signed nonempty =>
    rw [splitExponent, if_pos mark, signed.integer?_append nonempty]
    rfl

theorem splitExponent_eq_some_iff :
    splitExponent cs = some (base, e) ↔
      (∀ c ∈ base, isExponentMark c = false) ∧ ∃ power, TenPower power e ∧ cs = base ++ power := by
  constructor
  · intro split
    induction cs generalizing base with
    | nil =>
      cases split
      exact ⟨nofun, [], .absent, rfl⟩
    | cons c cs ih =>
      rw [splitExponent] at split
      split at split
      · next mark =>
        obtain ⟨_, read, same⟩ := Option.map_eq_some_iff.mp split
        cases same
        obtain ⟨sign, factor, ds, signed, nonempty, rfl, rfl⟩ := integer?_eq_some_iff.mp read
        exact ⟨nofun, _, .marked mark signed nonempty, rfl⟩
      · next plain =>
        obtain ⟨⟨before, _⟩, read, same⟩ := Option.map_eq_some_iff.mp split
        cases same
        obtain ⟨unmarked, power, exponent, rfl⟩ := ih read
        rw [List.forall_mem_cons]
        exact ⟨⟨Bool.eq_false_iff.mpr plain, unmarked⟩, power, exponent, rfl⟩
  · rintro ⟨unmarked, power, exponent, rfl⟩
    rw [splitExponent_append unmarked, exponent.splitExponent_eq]
    simp only [Option.map_some, List.append_nil]

theorem dropPoint_append {rest : List Char} (plain : ∀ c ∈ cs, c ≠ '.') :
    dropPoint (cs ++ '.' :: rest) = (cs ++ rest, rest.length) := by
  induction cs with
  | nil => rfl
  | cons c cs ih =>
    rw [List.forall_mem_cons] at plain
    rw [List.cons_append, dropPoint, if_neg plain.1, ih plain.2]
    rfl

theorem Sign.plain (signed : Sign sign factor) :
    ∀ c ∈ sign, isExponentMark c = false ∧ c ≠ '.' := by
  cases signed with
  | absent => exact nofun
  | plus | minus => exact List.forall_mem_singleton.mpr (by decide)

theorem Mantissa.unmarked (mantissa : Mantissa cs ds places) :
    ∀ c ∈ cs, isExponentMark c = false := by
  have digits (ds : Digits) : ∀ c ∈ ds.chars, isExponentMark c = false :=
    Digits.forall_mem_chars (fun d => d.char_ne_mark.1) ds
  cases mantissa with
  | whole => exact digits ds
  | point =>
    rw [List.forall_mem_append, List.forall_mem_cons]
    exact ⟨digits _, rfl, digits _⟩

theorem Sign.unblank (signed : Sign sign factor) : ∀ c ∈ sign, Text.isBlank c = false := by
  cases signed with
  | absent => exact nofun
  | plus | minus => exact List.forall_mem_singleton.mpr (by decide)

theorem Mantissa.unblank (mantissa : Mantissa cs ds places) : ∀ c ∈ cs, Text.isBlank c = false := by
  have digits (ds : Digits) : ∀ c ∈ ds.chars, Text.isBlank c = false :=
    Digits.forall_mem_chars Digit.isBlank_char ds
  cases mantissa with
  | whole => exact digits ds
  | point =>
    rw [List.forall_mem_append, List.forall_mem_cons]
    exact ⟨digits _, by decide, digits _⟩

theorem TenPower.unblank (exponent : TenPower power e) :
    ∀ c ∈ power, Text.isBlank c = false := by
  cases exponent with
  | absent => exact nofun
  | @marked mark _ _ ds marked signed _ =>
    have small : mark = 'e' ∨ mark = 'E' := by simpa [isExponentMark] using marked
    rw [List.forall_mem_cons, List.forall_mem_append]
    refine ⟨?_, signed.unblank, Digits.forall_mem_chars Digit.isBlank_char ds⟩
    rcases small with rfl | rfl <;> decide

theorem pointless_chars (ds : Digits) : ∀ c ∈ ds.chars, c ≠ '.' :=
  Digits.forall_mem_chars (fun d => d.char_ne_mark.2) ds

theorem dropPoint_signed (signed : Sign sign factor) (mantissa : Mantissa cs ds places) :
    ds ≠ [] ∧ dropPoint (sign ++ cs) = (sign ++ ds.chars, places) := by
  have noPoint : ∀ c ∈ sign, c ≠ '.' := fun c there => (signed.plain c there).2
  cases mantissa with
  | whole nonempty =>
    exact ⟨nonempty, dropPoint_of_plain (List.forall_mem_append.mpr ⟨noPoint, pointless_chars ds⟩)⟩
  | @point ds es nonempty =>
    have before : ∀ c ∈ sign ++ ds.chars, c ≠ '.' :=
      List.forall_mem_append.mpr ⟨noPoint, pointless_chars ds⟩
    rw [← List.append_assoc, dropPoint_append before, Digits.length_chars, List.append_assoc,
      Digits.chars_append]
    exact ⟨nonempty, rfl⟩

theorem Sign.not_digit {mark : Char} (signed : Sign [mark] factor) : Digit.ofChar? mark = none := by
  cases signed <;> rfl

theorem Sign.length_le (signed : Sign sign factor) : sign.length ≤ 1 := by
  cases signed <;> decide

theorem Sign.eq_nil_of_append {before after : List Char} {mark : Char}
    (signed : Sign (before ++ mark :: after) factor) : before = [] ∧ after = [] := by
  have short := signed.length_le
  rw [List.length_append, List.length_cons] at short
  exact ⟨List.length_eq_zero_iff.mp (by omega), List.length_eq_zero_iff.mp (by omega)⟩

/-- Where the point can have been in a signed number: nowhere, among the digits, or before the
    sign. -/
theorem exists_of_dropPoint (signed : Sign sign factor) (nonempty : ds ≠ [])
    (drop : dropPoint base = (sign ++ ds.chars, places)) :
    (∃ cs, Mantissa cs ds places ∧ base = sign ++ cs) ∨
      ∃ mark, sign = [mark] ∧ base = '.' :: mark :: ds.chars ∧ places = ds.length + 1 := by
  by_cases point : '.' ∈ base
  · obtain ⟨before, after, rfl, noPoint⟩ := List.eq_append_cons_of_mem point
    rw [dropPoint_append fun c there same => noPoint (same ▸ there), Prod.mk.injEq] at drop
    obtain ⟨together, rfl⟩ := drop
    rcases List.append_eq_append_iff.mp together with ⟨missing, rfl, rfl⟩ | ⟨more, rfl, split⟩
    · cases missing with
      | nil =>
        rw [List.nil_append, Digits.length_chars, List.append_nil]
        exact .inl ⟨'.' :: ds.chars, @Mantissa.point [] ds nonempty, rfl⟩
      | cons mark missing =>
        -- a sign has one character, so nothing of it is before the point
        obtain ⟨rfl, rfl⟩ := signed.eq_nil_of_append
        refine .inr ⟨mark, rfl, rfl, ?_⟩
        rw [List.length_append, Digits.length_chars, List.length_singleton, Nat.add_comm]
    · obtain ⟨ds, es, rfl, rfl, rfl⟩ := List.map_eq_append_iff.mp split
      refine .inl ⟨Digits.chars ds ++ '.' :: Digits.chars es, ?_, List.append_assoc ..⟩
      rw [List.length_map]
      exact .point nonempty
  · have noPoint : ∀ c ∈ base, c ≠ '.' := fun c there same => point (same ▸ there)
    rw [dropPoint_of_plain noPoint, Prod.mk.injEq] at drop
    obtain ⟨rfl, rfl⟩ := drop
    exact .inl ⟨ds.chars, .whole nonempty, rfl⟩

end

/-! ## Numbers of any scale -/

/-- The number of characters after a plus sign, whatever its scale. -/
def parse? (cs : List Char) : Option Decimal := do
  let (base, exponent) ← splitExponent cs
  let (plain, places) := dropPoint base
  let digits ← integer? plain
  return ⟨digits, places - exponent⟩

theorem ofChars?_eq (cs : List Char) :
    ofChars? cs = (parse? (dropPlus cs)).filter fun d => d.scale.natAbs ≤ scaleLimit := by
  unfold ofChars? parse?
  cases splitExponent (dropPlus cs) with
  | none => rfl
  | some parts =>
    obtain ⟨base, e⟩ := parts
    simp only [Option.bind_eq_bind, Option.bind_some]
    cases integer? (dropPoint base).1 with
    | none => rfl
    | some digits => simp [Option.filter]

section

variable {cs : List Char} {mark : Char} {d d' : Decimal} {n : Nat} {scale factor : Int}

theorem Numeric.parse?_eq (numeric : Numeric cs d) : parse? cs = some d := by
  obtain @⟨sign, _, _, _, _, signed, @⟨base, power, _, _, _, mantissa, exponent⟩⟩ := numeric
  have unmarked : ∀ c ∈ sign ++ base, isExponentMark c = false :=
    List.forall_mem_append.mpr ⟨fun c there => (signed.plain c there).1, mantissa.unmarked⟩
  obtain ⟨nonempty, drop⟩ := dropPoint_signed signed mantissa
  rw [← List.append_assoc, parse?, splitExponent_append unmarked, exponent.splitExponent_eq]
  simp only [Option.map_some, List.append_nil, Option.bind_eq_bind, Option.bind_some, drop,
    signed.integer?_append nonempty]
  rfl

/-- There is no white space in a number. -/
theorem Numeric.unblank (numeric : Numeric cs d) : ∀ c ∈ cs, Text.isBlank c = false := by
  obtain ⟨signed, ⟨mantissa, exponent⟩⟩ := numeric
  rw [List.forall_mem_append, List.forall_mem_append]
  exact ⟨signed.unblank, mantissa.unblank, exponent.unblank⟩

theorem PointSigned.parse?_eq (stray : PointSigned cs d) : parse? cs = some d := by
  obtain @⟨mark, _, ds, power, _, signed, nonempty, exponent⟩ := stray
  have unmarked : ∀ c ∈ '.' :: mark :: Digits.chars ds, isExponentMark c = false := by
    rw [List.forall_mem_cons, List.forall_mem_cons]
    exact ⟨rfl, (signed.plain mark (List.mem_singleton_self mark)).1,
      (Mantissa.whole nonempty).unmarked⟩
  have drop : dropPoint ('.' :: mark :: Digits.chars ds) =
      (mark :: Digits.chars ds, ds.length + 1) := by
    rw [dropPoint, if_pos rfl, List.length_cons, Digits.length_chars]
  have digits := signed.integer?_append nonempty
  rw [List.singleton_append] at digits
  rw [← List.cons_append, ← List.cons_append, parse?, splitExponent_append unmarked,
    exponent.splitExponent_eq]
  simp only [Option.map_some, List.append_nil, Option.bind_eq_bind, Option.bind_some, drop, digits]
  rfl

theorem numeric_or_pointSigned (read : parse? cs = some d) : Numeric cs d ∨ PointSigned cs d := by
  obtain ⟨⟨base, e⟩, split, read⟩ := Option.bind_eq_some_iff.mp read
  obtain ⟨_, digits, same⟩ := Option.bind_eq_some_iff.mp read
  cases same
  obtain ⟨_, power, exponent, rfl⟩ := splitExponent_eq_some_iff.mp split
  obtain ⟨sign, factor, ds, signed, nonempty, plain, rfl⟩ := integer?_eq_some_iff.mp digits
  have drop : dropPoint base = (sign ++ Digits.chars ds, (dropPoint base).2) := by rw [← plain]
  rcases exists_of_dropPoint signed nonempty drop with
    ⟨mantissa, written, rfl⟩ | ⟨mark, rfl, rfl, places⟩
  · rw [List.append_assoc]
    exact .inl (.of signed (.of written exponent))
  · rw [places]
    exact .inr (.of signed nonempty exponent)

/-- Characters are read as the number that they write, or as one whose sign is after the point. -/
theorem parse?_eq_some_iff : parse? cs = some d ↔ Numeric cs d ∨ PointSigned cs d := by
  constructor
  · exact numeric_or_pointSigned
  · rintro (numeric | stray)
    · exact numeric.parse?_eq
    · exact stray.parse?_eq

/-! ## Signs out of place -/

theorem Magnitude.exists_cons (magnitude : Magnitude cs n scale) :
    ∃ c rest, cs = c :: rest ∧ (c = '.' ∨ ∃ d : Digit, c = d.char) := by
  obtain ⟨mantissa, _⟩ := magnitude
  cases mantissa with
  | whole nonempty =>
    obtain ⟨d, ds, rfl⟩ := List.exists_cons_of_ne_nil nonempty
    exact ⟨d.char, _, rfl, .inr ⟨d, rfl⟩⟩
  | @point ds es _ =>
    cases ds with
    | nil => exact ⟨'.', _, rfl, .inl rfl⟩
    | cons d ds => exact ⟨d.char, _, rfl, .inr ⟨d, rfl⟩⟩

/-- A number without a sign does not start with one. -/
theorem Magnitude.not_signed (magnitude : Magnitude (mark :: cs) n scale) :
    ¬ Sign [mark] factor := by
  intro signed
  obtain ⟨_, _, same, first⟩ := magnitude.exists_cons
  cases same
  rcases first with rfl | ⟨d, rfl⟩
  · exact (signed.plain '.' (List.mem_singleton_self _)).2 rfl
  · have digit := signed.not_digit
    rw [Digit.ofChar?_char] at digit
    cases digit

theorem Numeric.magnitude_of_plus (numeric : Numeric ('+' :: cs) d) :
    ∃ n scale, Magnitude cs n scale ∧ d = ⟨n, scale⟩ := by
  generalize same : '+' :: cs = whole at numeric
  obtain ⟨signed, magnitude⟩ := numeric
  cases signed with
  | absent =>
    rw [List.nil_append] at same
    exact absurd .plus (same ▸ magnitude).not_signed
  | plus =>
    cases same
    exact ⟨_, _, magnitude, by rw [Int.one_mul]⟩
  | minus => cases same

/-- After a leading point comes a digit. -/
theorem Magnitude.exists_digit (magnitude : Magnitude ('.' :: cs) n scale) :
    ∃ (d : Digit) (rest : List Char), cs = d.char :: rest := by
  generalize same : '.' :: cs = whole at magnitude
  obtain ⟨mantissa, _⟩ := magnitude
  have absurdPoint {d : Digit} {ds rest : List Char} : '.' :: cs ≠ d.char :: ds ++ rest :=
    fun same => d.char_ne_mark.2 (List.cons.inj same).1.symm
  cases mantissa with
  | whole nonempty =>
    obtain ⟨d, ds, rfl⟩ := List.exists_cons_of_ne_nil nonempty
    exact absurd same absurdPoint
  | @point ds es nonempty =>
    cases ds with
    | nil =>
      obtain ⟨d, es, rfl⟩ := List.exists_cons_of_ne_nil nonempty
      cases same
      exact ⟨d, _, rfl⟩
    | cons d ds => exact absurd same absurdPoint

theorem PointSigned.not_magnitude (stray : PointSigned cs d) : ¬ Magnitude cs n scale := by
  intro magnitude
  obtain ⟨signed, _, _⟩ := stray
  obtain ⟨_, _, same⟩ := magnitude.exists_digit
  cases same
  have digit := signed.not_digit
  rw [Digit.ofChar?_char] at digit
  cases digit

theorem PointSigned.not_numeric (stray : PointSigned cs d) : ¬ Numeric cs d' := by
  rintro @⟨sign, _, _, _, _, signed, magnitude⟩
  cases signed with
  | absent => exact stray.not_magnitude magnitude
  | plus | minus => cases stray

/-- No text with a sign out of place is written as a number. -/
theorem Stray.not_numeric (stray : Stray cs d) : ¬ Numeric cs d' := by
  cases stray with
  | second signed =>
    intro numeric
    obtain ⟨_, _, magnitude, _⟩ := numeric.magnitude_of_plus
    exact magnitude.not_signed signed
  | inside stray => exact stray.not_numeric
  | insideAfterPlus stray =>
    intro numeric
    obtain ⟨_, _, magnitude, _⟩ := numeric.magnitude_of_plus
    exact stray.not_magnitude magnitude

/-! ## Texts -/

theorem numeric_or_stray_iff :
    Numeric (dropPlus cs) d ∨ PointSigned (dropPlus cs) d ↔ Numeric cs d ∨ Stray cs d := by
  by_cases plus : ∃ rest, cs = '+' :: rest
  · obtain ⟨rest, rfl⟩ := plus
    have dropped : dropPlus ('+' :: rest) = rest := rfl
    rw [dropped]
    constructor
    · rintro (@⟨sign, cs, factor, n, scale, signed, magnitude⟩ | stray)
      · cases signed with
        | absent => exact .inl (.of .plus magnitude)
        | plus => exact .inr (.second .plus magnitude)
        | minus => exact .inr (.second .minus magnitude)
      · exact .inr (.insideAfterPlus stray)
    · rintro (numeric | stray)
      · obtain ⟨n, scale, magnitude, rfl⟩ := numeric.magnitude_of_plus
        have unsigned : Numeric ([] ++ rest) ⟨1 * n, scale⟩ := .of .absent magnitude
        rw [Int.one_mul] at unsigned
        exact .inl unsigned
      · cases stray with
        | second signed magnitude => exact .inl (.of signed magnitude)
        | inside stray => cases stray
        | insideAfterPlus stray => exact .inr stray
  · have kept : dropPlus cs = cs := by
      cases cs with
      | nil => rfl
      | cons c cs => exact dropPlus_eq_self (fun same => plus ⟨cs, same ▸ rfl⟩) cs
    rw [kept]
    constructor
    · rintro (numeric | stray)
      · exact .inl numeric
      · exact .inr (.inside stray)
    · rintro (numeric | stray)
      · exact .inl numeric
      · cases stray with
        | second | insideAfterPlus => exact absurd ⟨_, rfl⟩ plus
        | inside stray => exact .inr stray

/-- A number is read if its scale is within the limit. -/
theorem Numeric.ofChars?_eq (numeric : Numeric cs d) :
    ofChars? cs = if d.scale.natAbs ≤ scaleLimit then some d else none := by
  have read : parse? (dropPlus cs) = some d :=
    parse?_eq_some_iff.mpr (numeric_or_stray_iff.mpr (.inl numeric))
  rw [Decimal.ofChars?_eq, read, Option.filter_some]
  simp only [decide_eq_true_eq]

theorem ofChars?_eq_some_iff :
    ofChars? cs = some d ↔ (Numeric cs d ∨ Stray cs d) ∧ d.scale.natAbs ≤ scaleLimit := by
  rw [ofChars?_eq, Option.filter_eq_some_iff, parse?_eq_some_iff, numeric_or_stray_iff,
    decide_eq_true_iff]

end

/-- A text is read as a number exactly if, without the white space around it, it is written as this
    number or has a sign out of place, and its decimal places less its exponent are within the limit.
    What is written as a number has no sign out of place. -/
theorem read_iff_numeric_or_stray (s : String) :
    (∀ d, ofText? s = some d ↔
      (Numeric (Text.trimChars s.toList) d ∨ Stray (Text.trimChars s.toList) d) ∧
        d.scale.natAbs ≤ scaleLimit) ∧
    ¬ ∃ d e, Numeric (Text.trimChars s.toList) d ∧ Stray (Text.trimChars s.toList) e := by
  constructor
  · intro d
    exact ofChars?_eq_some_iff
  · rintro ⟨d, e, numeric, stray⟩
    exact stray.not_numeric numeric

/-- A minus sign after a plus sign is not how a number is written, but it is read as one; and so is
    a minus sign after a leading point, of which a decimal place is made. -/
theorem minus_after_plus_read :
    (ofText? "+-5" = some ⟨-5, 0⟩ ∧ ∀ d, ¬ Numeric (Text.trimChars "+-5".toList) d) ∧
      ofText? ".-5" = some ⟨-5, 2⟩ ∧ ∀ d, ¬ Numeric (Text.trimChars ".-5".toList) d := by
  have five : ([5] : Digits) ≠ [] := by decide
  have second : Stray ['+', '-', '5'] ⟨-5, 0⟩ := .second .minus (.of (.whole five) .absent)
  have inside : Stray ['.', '-', '5'] ⟨-5, 2⟩ := .inside (.of .minus five .absent)
  exact ⟨⟨by decide, fun d => second.not_numeric⟩, by decide, fun d => inside.not_numeric⟩

end RecordRules.Decimal
