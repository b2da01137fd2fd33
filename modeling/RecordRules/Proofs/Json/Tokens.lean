/-
  Texts and numbers of JSON are read back as they are printed: a text whatever follows it, a number
  if what follows cannot go on with it.

  1. `escape_cases`: what stands for a character between quotes.
  2. `textBody_escape_append`: it is read as this character.
  3. `textAfterQuote_append`: a text between quotes is read back.
  4. `number_chars_append`: the same of a number with the digits that a reader asks for.
-/
import RecordRules.Json.Print
import RecordRules.Json.Token
import RecordRules.Proofs.Digits
import RecordRules.Proofs.FirstError

namespace RecordRules

namespace JsonText

theorem skipSpace_cons {c : Char} (plain : isSpace c = false) (rest : List Char) :
    skipSpace (c :: rest) = c :: rest := by
  rw [skipSpace, List.dropWhile_cons_of_neg (by simp [plain])]

/-! ## Texts -/

theorem hexValue?_hexDigit {n : Nat} (small : n < 16) : hexValue? (Json.hexDigit n) = some n := by
  have all : ∀ n < 16, hexValue? (Json.hexDigit n) = some n := by decide
  exact all n small

/-- The number of a control character in four hexadecimal digits. -/
theorem hexFour?_control {c : Char} (control : c.toNat < 0x20) :
    hexFour? '0' '0' (Json.hexDigit (c.toNat / 16)) (Json.hexDigit (c.toNat % 16)) =
      some c.toNat := by
  have high : hexValue? (Json.hexDigit (c.toNat / 16)) = some (c.toNat / 16) :=
    hexValue?_hexDigit (by omega)
  have low : hexValue? (Json.hexDigit (c.toNat % 16)) = some (c.toNat % 16) :=
    hexValue?_hexDigit (by omega)
  have zero : hexValue? '0' = some 0 := by decide
  have value : ((0 * 16 + 0) * 16 + c.toNat / 16) * 16 + c.toNat % 16 = c.toNat := by omega
  simp only [hexFour?, zero, high, low, Option.bind_eq_bind, Option.bind_some, Option.pure_def,
    value]

/-- What stands for a character: a slash and a letter, the number of a control character, or the
    character itself. -/
theorem escape_cases (c : Char) :
    (∃ letter, Json.escape c = ['\\', letter] ∧ escaped? letter = some c ∧ letter ≠ 'u') ∨
    (Json.escape c = ['\\', 'u', '0', '0', Json.hexDigit (c.toNat / 16),
        Json.hexDigit (c.toNat % 16)] ∧ c.toNat < 0x20) ∨
    (Json.escape c = [c] ∧ c ≠ '"' ∧ c ≠ '\\' ∧ ¬ c.toNat < 0x20) := by
  unfold Json.escape
  split
  · next same => exact .inl ⟨_, rfl, congrArg some same.symm, by decide⟩
  split
  · next same => exact .inl ⟨_, rfl, congrArg some same.symm, by decide⟩
  split
  · next same => exact .inl ⟨_, rfl, congrArg some same.symm, by decide⟩
  split
  · next same => exact .inl ⟨_, rfl, congrArg some same.symm, by decide⟩
  split
  · next same => exact .inl ⟨_, rfl, congrArg some same.symm, by decide⟩
  split
  · next same => exact .inl ⟨_, rfl, congrArg some same.symm, by decide⟩
  split
  · next same => exact .inl ⟨_, rfl, congrArg some same.symm, by decide⟩
  split
  · next control => exact .inr (.inl ⟨rfl, control⟩)
  · next quote slash _ _ _ _ _ seen => exact .inr (.inr ⟨rfl, quote, slash, seen⟩)

theorem textBody_letter {letter c : Char} (stands : escaped? letter = some c) (other : letter ≠ 'u')
    (rest : List Char) : textBody ('\\' :: letter :: rest) = consText c (textBody rest) := by
  rw [textBody]
  · simp only [stands]
  · exact fun _ _ _ _ _ same => absurd same other
  · exact fun same => absurd same other

theorem textBody_control {c : Char} (control : c.toNat < 0x20) (rest : List Char) :
    textBody ('\\' :: 'u' :: '0' :: '0' :: Json.hexDigit (c.toNat / 16) ::
      Json.hexDigit (c.toNat % 16) :: rest) = consText c (textBody rest) := by
  -- a control character is no half of a pair of escapes
  have low : isLowHalf c.toNat = false := by
    simp only [isLowHalf, Bool.and_eq_false_iff, decide_eq_false_iff_not]
    omega
  have high : isHighHalf c.toNat = false := by
    simp only [isHighHalf, Bool.and_eq_false_iff, decide_eq_false_iff_not]
    omega
  rw [textBody]
  simp only [hexFour?_control control, low, high, Char.ofNat_toNat, Bool.false_eq_true, if_false]

theorem textBody_plain {c : Char} (quote : c ≠ '"') (slash : c ≠ '\\') (seen : ¬ c.toNat < 0x20)
    (rest : List Char) : textBody (c :: rest) = consText c (textBody rest) := by
  rw [textBody]
  · exact if_neg seen
  · exact quote
  · exact fun same => absurd same slash
  · exact fun _ _ _ _ _ same => absurd same slash
  · exact fun _ same => absurd same slash
  · exact fun _ _ same => absurd same slash

/-- What stands for a character is read as this character. -/
theorem textBody_escape_append (c : Char) (rest : List Char) :
    textBody (Json.escape c ++ rest) = consText c (textBody rest) := by
  rcases escape_cases c with ⟨letter, same, stands, other⟩ | ⟨same, control⟩ |
    ⟨same, quote, slash, seen⟩
  · rw [same]
    exact textBody_letter stands other rest
  · rw [same]
    exact textBody_control control rest
  · rw [same]
    exact textBody_plain quote slash seen rest

theorem textBody_append (s rest : List Char) :
    textBody (s.flatMap Json.escape ++ '"' :: rest) = .ok (s, rest) := by
  induction s with
  | nil => rfl
  | cons c s ih =>
    rw [List.flatMap_cons, List.append_assoc, textBody_escape_append, ih]
    rfl

/-- A text between quotes is read back, after its opening quote. -/
theorem textAfterQuote_append (s : String) (rest : List Char) :
    textAfterQuote (s.toList.flatMap Json.escape ++ '"' :: rest) = .ok (s, rest) := by
  rw [textAfterQuote, textBody_append]
  exact congrArg (fun s => Except.ok (s, rest)) String.ofList_toList

end JsonText

/-! ## Numbers -/

namespace Numeral

/-- The digits are there that a reader asks for, and none of them is a leading zero. -/
structure WellFormed (n : Numeral) : Prop where
  whole : n.whole ≠ []
  noZero : n.whole.head? = some 0 → n.whole = [0]
  fraction : n.fraction ≠ some []
  exponent : ∀ e, n.exponent = some e → e.digits ≠ []

theorem wellFormed_ofNat (n : Nat) : (ofNat n).WellFormed where
  whole := Digits.ofNat_ne_nil n
  noZero := Digits.ofNat_eq_of_head_zero
  fraction := nofun
  exponent := nofun

/-- The characters of a fraction, if there is one. -/
def fractionPart : Option Digits → List Char
  | some ds => '.' :: ds.chars
  | none => []

/-- The characters of an exponent, if there is one. -/
def exponentPart : Option Exponent → List Char
  | some e => exponentChars e
  | none => []

theorem chars_eq (n : Numeral) :
    n.chars = (if n.negative then ['-'] else []) ++
      (n.whole.chars ++ (fractionPart n.fraction ++ exponentPart n.exponent)) := by
  simp only [chars, List.append_assoc]
  cases n.fraction <;> cases n.exponent <;> rfl

end Numeral

/-- No number goes on with this: it starts with no digit, point or exponent. -/
def Ends (rest : List Char) : Prop :=
  ∀ c ∈ rest.head?, Digit.ofChar? c = none ∧ c ≠ '.' ∧ c ≠ 'e' ∧ c ≠ 'E'

namespace JsonText

variable (atEnd : Cause) {rest : List Char}

theorem exponentDigits_append {ds : Digits} (nonempty : ds ≠ []) (negative : Bool)
    (stop : ∀ c ∈ rest.head?, Digit.ofChar? c = none) :
    exponentDigits atEnd negative (ds.chars ++ rest) = .ok (⟨negative, ds⟩, rest) := by
  cases ds with
  | nil => exact absurd rfl nonempty
  | cons d ds =>
    have read := Digits.span_chars_append (d :: ds) stop
    rw [Digits.chars_cons, List.cons_append] at read ⊢
    simp only [exponentDigits, read]

theorem exponent_append {e : Option Exponent} (digits : ∀ e', e = some e' → e'.digits ≠ [])
    (ends : Ends rest) : exponent atEnd (Numeral.exponentPart e ++ rest) = .ok (e, rest) := by
  cases e with
  | none =>
    cases rest with
    | nil => rfl
    | cons c rest =>
      obtain ⟨_, _, small, large⟩ := ends c rfl
      simp [Numeral.exponentPart, exponent, small, large]
  | some e =>
    obtain ⟨negative, ds⟩ := e
    have read := exponentDigits_append atEnd (digits _ rfl) negative
      fun c head => (ends c head).1
    cases negative with
    | false => exact bind_eq_ok_iff.mpr ⟨_, read, rfl⟩
    | true => exact bind_eq_ok_iff.mpr ⟨_, read, rfl⟩

theorem fraction_append {f : Option Digits} (digits : f ≠ some [])
    (stop : ∀ c ∈ rest.head?, Digit.ofChar? c = none ∧ c ≠ '.') :
    fraction atEnd (Numeral.fractionPart f ++ rest) = .ok (f, rest) := by
  match f with
  | none =>
    cases rest with
    | nil => rfl
    | cons c rest =>
      rw [Numeral.fractionPart, List.nil_append, fraction]
      exact fun _ same => (stop c rfl).2 (List.cons.inj same).1
  | some [] => exact absurd rfl digits
  | some (d :: ds) =>
    have read := Digits.span_chars_append (d :: ds) fun c head => (stop c head).1
    simp only [Numeral.fractionPart, List.cons_append, fraction, read]

theorem whole_append {ds : Digits} (nonempty : ds ≠ []) (noZero : ds.head? = some 0 → ds = [0])
    (stop : ∀ c ∈ rest.head?, Digit.ofChar? c = none) :
    whole atEnd (ds.chars ++ rest) = .ok (ds, rest) := by
  match ds with
  | [] => exact absurd rfl nonempty
  | [d] =>
    have read := Digits.span_chars_append [d] stop
    rw [Digits.chars_cons, List.cons_append] at read ⊢
    simp only [whole, read]
  | d :: e :: ds =>
    have first : d ≠ 0 := by
      rintro rfl
      cases noZero rfl
    have read := Digits.span_chars_append (d :: e :: ds) stop
    rw [Digits.chars_cons, List.cons_append] at read ⊢
    simp only [whole, read, if_neg first]

theorem head_exponentPart_append {e : Option Exponent} (ends : Ends rest) :
    ∀ c ∈ (Numeral.exponentPart e ++ rest).head?, Digit.ofChar? c = none ∧ c ≠ '.' := by
  cases e with
  | none => exact fun c head => ⟨(ends c head).1, (ends c head).2.1⟩
  | some e =>
    rintro c ⟨⟩
    decide

theorem head_fractionPart_append {f : Option Digits}
    (stop : ∀ c ∈ rest.head?, Digit.ofChar? c = none ∧ c ≠ '.') :
    ∀ c ∈ (Numeral.fractionPart f ++ rest).head?, Digit.ofChar? c = none := by
  cases f with
  | none => exact fun c head => (stop c head).1
  | some ds =>
    rintro c ⟨⟩
    decide

theorem unsigned_append {n : Numeral} (formed : n.WellFormed) (ends : Ends rest) :
    unsigned atEnd n.negative
      (n.whole.chars ++ (Numeral.fractionPart n.fraction ++ Numeral.exponentPart n.exponent) ++
        rest) = .ok (n, rest) := by
  have power := exponent_append atEnd formed.exponent ends
  have afterFraction := head_exponentPart_append (e := n.exponent) ends
  have part := fraction_append atEnd formed.fraction afterFraction
  have digits := whole_append atEnd formed.whole formed.noZero
    (head_fractionPart_append (f := n.fraction) afterFraction)
  simp only [List.append_assoc, unsigned, digits, part, power, bind, Except.bind, pure, Except.pure]

/-- A number is read back, if what follows ends it. -/
theorem number_chars_append {n : Numeral} (formed : n.WellFormed) (ends : Ends rest) :
    number atEnd (n.chars ++ rest) = .ok (n, rest) := by
  have read := unsigned_append atEnd formed ends
  rw [Numeral.chars_eq]
  cases sign : n.negative with
  | true =>
    rw [sign] at read
    exact read
  | false =>
    rw [sign] at read
    -- the first character is a digit, which is not taken for a sign
    obtain ⟨d, ds, digits⟩ := List.exists_cons_of_ne_nil formed.whole
    rw [digits] at read ⊢
    have first : ∀ d : Digit, d.char ≠ '-' := by decide
    simp only [Bool.false_eq_true, if_false, List.nil_append, Digits.chars_cons, List.cons_append]
      at read ⊢
    rw [number, read]
    exact fun _ same => absurd (List.cons.inj same).1 (first d)

end JsonText

end RecordRules
