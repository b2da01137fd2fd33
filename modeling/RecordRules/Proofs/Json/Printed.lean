/-
  A printed JSON value is one line, and it is read back: of a value whose numbers are spelled as a
  reader asks for, whose keys are distinct, and whose brackets are not nested too deep.

  1. `noControls_chars`: a printed value has no control character, and so no line break.
  2. `items_append`, `members_append`: lists and objects are read back if what is in them is.
  3. `Readable.reads`: a readable value is read back, whatever follows.
  4. `read_print`: the text of a readable value is read as this value.
-/
import Mathlib.Data.Fintype.Basic
import Mathlib.Tactic.FinCases
import RecordRules.Json.Read
import RecordRules.Proofs.Entries
import RecordRules.Proofs.Json.Tokens

namespace RecordRules

open JsonText (value items members afterItem afterMember skipSpace isSpace)

/-! ## One line -/

/-- No control character is among these, so neither is a line break. -/
def NoControls (cs : List Char) : Prop := ∀ c ∈ cs, ¬ c.toNat < 0x20

@[simp] theorem noControls_nil : NoControls [] := List.forall_mem_nil _

@[simp] theorem noControls_cons {c : Char} {cs : List Char} :
    NoControls (c :: cs) ↔ ¬ c.toNat < 0x20 ∧ NoControls cs := List.forall_mem_cons

@[simp] theorem noControls_append {cs ds : List Char} :
    NoControls (cs ++ ds) ↔ NoControls cs ∧ NoControls ds := List.forall_mem_append

theorem noControls_digits (ds : Digits) : NoControls ds.chars :=
  Digits.forall_mem_chars (by decide) ds

theorem noControls_numeral (n : Numeral) : NoControls n.chars := by
  rw [Numeral.chars_eq, noControls_append, noControls_append, noControls_append]
  refine ⟨?_, noControls_digits _, ?_, ?_⟩
  · split <;> simp
  · cases n.fraction with
    | none => exact noControls_nil
    | some ds => exact noControls_cons.mpr ⟨by decide, noControls_digits ds⟩
  · cases n.exponent with
    | none => exact noControls_nil
    | some e =>
      refine noControls_cons.mpr ⟨by decide, noControls_cons.mpr ⟨?_, noControls_digits e.digits⟩⟩
      split <;> decide

/-- The letter after a slash is no control character. -/
theorem not_control_of_escaped? {letter c : Char} (stands : JsonText.escaped? letter = some c) :
    ¬ letter.toNat < 0x20 := by
  have letters : ∀ l ∈ ['"', '\\', '/', 'b', 'f', 'n', 'r', 't'], ¬ l.toNat < 0x20 := by simp
  have listed : letter ∈ ['"', '\\', '/', 'b', 'f', 'n', 'r', 't'] := by
    by_contra other
    simp only [List.mem_cons, List.not_mem_nil, or_false, not_or] at other
    simp [JsonText.escaped?, other] at stands
  exact letters letter listed

theorem noControls_escape (c : Char) : NoControls (Json.escape c) := by
  have hex : ∀ n < 16, ¬ (Json.hexDigit n).toNat < 0x20 := by decide
  rcases JsonText.escape_cases c with ⟨letter, same, stands, _⟩ | ⟨same, control⟩ |
    ⟨same, _, _, seen⟩
  · have letter := not_control_of_escaped? stands
    simp [same, letter]
  · have high := hex (c.toNat / 16) (by omega)
    have low := hex (c.toNat % 16) (by omega)
    simp [same, high, low]
  · simp [same, seen]

theorem noControls_quoted (s : String) : NoControls (Json.quoted s) := by
  have escaped : NoControls (s.toList.flatMap Json.escape) := by
    intro c there
    obtain ⟨d, _, here⟩ := List.mem_flatMap.mp there
    exact noControls_escape d c here
  simp [Json.quoted, escaped]

mutual

/-- A printed value has no control character. -/
theorem noControls_chars : ∀ json : Json, NoControls json.chars
  | .null => by simp [Json.chars]
  | .bool true => by simp [Json.chars]
  | .bool false => by simp [Json.chars]
  | .number n => noControls_numeral n
  | .text s => noControls_quoted s
  | .array [] => by simp [Json.chars]
  | .array (item :: items) => by
    have first := noControls_chars item
    have more := noControls_itemsChars items
    simp [Json.chars, first, more]
  | .object [] => by simp [Json.chars]
  | .object ((key, json) :: members) => by
    have name := noControls_quoted key
    have first := noControls_chars json
    have more := noControls_membersChars members
    simp [Json.chars, name, first, more]

theorem noControls_itemsChars : ∀ items : List Json, NoControls (Json.itemsChars items)
  | [] => noControls_nil
  | item :: items => by
    have first := noControls_chars item
    have more := noControls_itemsChars items
    simp [Json.itemsChars, first, more]

theorem noControls_membersChars :
    ∀ members : List (String × Json), NoControls (Json.membersChars members)
  | [] => noControls_nil
  | (key, json) :: members => by
    have name := noControls_quoted key
    have first := noControls_chars json
    have more := noControls_membersChars members
    simp [Json.membersChars, name, first, more]

end

theorem newline_not_mem_chars (json : Json) : '\n' ∉ json.chars := fun there =>
  noControls_chars json '\n' there (by decide)

/-! ## Values that are read back -/

/-- The value is read back from its characters, with any fuel that is enough for them. -/
def Reads (depth : Nat) (json : Json) : Prop :=
  ∀ fuel rest, json.chars.length ≤ fuel → Ends rest →
    value fuel depth (json.chars ++ rest) = .ok (json, rest)

/-- A value that can be read back inside so many brackets as the depth allows. -/
inductive Readable : Nat → Json → Prop
  | null {depth : Nat} : Readable depth .null
  | bool {depth : Nat} (b : Bool) : Readable depth (.bool b)
  | number {depth : Nat} {n : Numeral} : n.WellFormed → Readable depth (.number n)
  | text {depth : Nat} (s : String) : Readable depth (.text s)
  | array {depth : Nat} {items : List Json} :
      (∀ item ∈ items, Readable (depth + 1) item) → Readable (depth + 2) (.array items)
  | object {depth : Nat} {members : List (String × Json)} :
      (members.map Prod.fst).Nodup → (∀ member ∈ members, Readable (depth + 1) member.2) →
      Readable (depth + 2) (.object members)

variable {depth fuel : Nat} {rest : List Char}

theorem readable_texts {members : List (String × Json)} (distinct : (members.map Prod.fst).Nodup)
    (texts : ∀ member ∈ members, ∃ s, member.2 = .text s) :
    Readable (depth + 2) (.object members) := by
  refine .object distinct fun member listed => ?_
  obtain ⟨s, same⟩ := texts member listed
  rw [same]
  exact .text s

theorem ends_cons {c : Char} (mark : c = ',' ∨ c = ']' ∨ c = '\x7d') : Ends (c :: rest) := by
  rintro _ ⟨⟩
  rcases mark with rfl | rfl | rfl <;> decide

/-! ## Words, texts and numbers -/

theorem reads_null : Reads depth .null := by
  intro fuel rest enough _
  obtain ⟨fuel, rfl⟩ := Nat.exists_eq_succ_of_ne_zero (Nat.ne_zero_of_lt enough)
  rfl

theorem reads_bool (b : Bool) : Reads depth (.bool b) := by
  intro fuel rest enough _
  cases b with
  | true =>
    obtain ⟨fuel, rfl⟩ := Nat.exists_eq_succ_of_ne_zero (Nat.ne_zero_of_lt enough)
    rfl
  | false =>
    obtain ⟨fuel, rfl⟩ := Nat.exists_eq_succ_of_ne_zero (Nat.ne_zero_of_lt enough)
    rfl

theorem reads_text (s : String) : Reads depth (.text s) := by
  intro fuel rest enough _
  obtain ⟨fuel, rfl⟩ := Nat.exists_eq_succ_of_ne_zero (Nat.ne_zero_of_lt enough)
  have read := JsonText.textAfterQuote_append s rest
  have opened : (Json.text s).chars ++ rest =
      '"' :: (s.toList.flatMap Json.escape ++ '"' :: rest) := by
    simp [Json.chars, Json.quoted]
  rw [opened, value, JsonText.skipSpace_cons (by decide)]
  simp only [read, bind, Except.bind, pure, Except.pure]

/-- What starts like a number is read as one. -/
theorem value_eq_number {c : Char} (numeric : c = '-' ∨ ∃ d : Digit, c = d.char) :
    value (fuel + 1) depth (c :: rest) = (do
      let (n, rest) ← JsonText.number .endInValue (c :: rest)
      return (.number n, rest)) := by
  have digit (d : Digit) : value (fuel + 1) depth (d.char :: rest) = (do
      let (n, rest) ← JsonText.number .endInValue (d.char :: rest)
      return (.number n, rest)) := by
    fin_cases d <;> rfl
  rcases numeric with rfl | ⟨d, rfl⟩
  · rfl
  · exact digit d

theorem numeral_chars_eq_cons {n : Numeral} (formed : n.WellFormed) :
    ∃ c cs, n.chars = c :: cs ∧ (c = '-' ∨ ∃ d : Digit, c = d.char) := by
  rw [Numeral.chars_eq]
  cases n.negative with
  | true => exact ⟨_, _, rfl, .inl rfl⟩
  | false =>
    obtain ⟨d, ds, digits⟩ := List.exists_cons_of_ne_nil formed.whole
    rw [digits]
    exact ⟨_, _, rfl, .inr ⟨d, rfl⟩⟩

theorem reads_number {n : Numeral} (formed : n.WellFormed) : Reads depth (.number n) := by
  intro fuel rest enough ends
  obtain ⟨c, cs, starts, numeric⟩ := numeral_chars_eq_cons formed
  rw [Json.chars, starts] at enough
  obtain ⟨fuel, rfl⟩ := Nat.exists_eq_succ_of_ne_zero (Nat.ne_zero_of_lt enough)
  have read := JsonText.number_chars_append .endInValue formed ends
  rw [starts, List.cons_append] at read
  rw [Json.chars, starts, List.cons_append, value_eq_number numeric, read]
  rfl

/-! ## Lists -/

/-- A printed value starts with a character that neither is a blank nor closes a list. -/
theorem chars_eq_cons {json : Json} (readable : Readable depth json) :
    ∃ c cs, json.chars = c :: cs ∧ isSpace c = false ∧ c ≠ ']' := by
  have digit : ∀ d : Digit, isSpace d.char = false ∧ d.char ≠ ']' := by decide
  cases readable with
  | null => exact ⟨_, _, rfl, by decide, by decide⟩
  | bool b => cases b <;> exact ⟨_, _, rfl, by decide, by decide⟩
  | number formed =>
    obtain ⟨c, cs, starts, numeric⟩ := numeral_chars_eq_cons formed
    refine ⟨c, cs, starts, ?_⟩
    rcases numeric with rfl | ⟨d, rfl⟩
    · decide
    · exact digit d
  | text => exact ⟨_, _, rfl, by decide, by decide⟩
  | @array _ items => cases items <;> exact ⟨_, _, rfl, by decide, by decide⟩
  | @object _ members => cases members <;> exact ⟨_, _, rfl, by decide, by decide⟩

theorem afterItem_comma {c : Char} (plain : isSpace c = false) (open' : c ≠ ']') :
    afterItem (',' :: c :: rest) = .ok (true, c :: rest) := by
  rw [afterItem, JsonText.skipSpace_cons (by decide)]
  simp only [JsonText.skipSpace_cons plain]
  split
  · next same => cases same
  · next same => exact absurd (List.cons.inj same).1 open'
  · rfl

/-- A list is read back from its first item on, if each item is. -/
theorem items_append {list : List Json} {first : Json}
    (readable : ∀ item ∈ first :: list, Readable depth item)
    (reads : ∀ item ∈ first :: list, Reads depth item)
    (enough : (first.chars ++ Json.itemsChars list).length < fuel) :
    items fuel depth (first.chars ++ Json.itemsChars list ++ ']' :: rest) =
      .ok (first :: list, rest) := by
  induction list generalizing first fuel with
  | nil =>
    obtain ⟨fuel, rfl⟩ := Nat.exists_eq_succ_of_ne_zero (Nat.ne_zero_of_lt enough)
    rw [Json.itemsChars, List.append_nil] at enough ⊢
    have read := reads first (List.mem_cons_self ..) fuel (']' :: rest) (by omega)
      (ends_cons (.inr (.inl rfl)))
    rw [items, read]
    rfl
  | cons next list ih =>
    obtain ⟨fuel, rfl⟩ := Nat.exists_eq_succ_of_ne_zero (Nat.ne_zero_of_lt enough)
    rw [List.forall_mem_cons] at readable reads
    rw [Json.itemsChars, List.length_append, List.length_cons] at enough
    have read := reads.1 fuel (',' :: (next.chars ++ Json.itemsChars list ++ ']' :: rest))
      (by omega) (ends_cons (.inl rfl))
    -- the comma pays for the step from this item to the rest
    have more : items fuel depth (next.chars ++ Json.itemsChars list ++ ']' :: rest) =
        .ok (next :: list, rest) := ih readable.2 reads.2 (by omega)
    obtain ⟨c, cs, starts, plain, open'⟩ := chars_eq_cons (readable.2 next (List.mem_cons_self ..))
    have comma : afterItem (',' :: (next.chars ++ Json.itemsChars list ++ ']' :: rest)) =
        .ok (true, next.chars ++ Json.itemsChars list ++ ']' :: rest) := by
      rw [starts]
      exact afterItem_comma plain open'
    have whole : first.chars ++ Json.itemsChars (next :: list) ++ ']' :: rest =
        first.chars ++ ',' :: (next.chars ++ Json.itemsChars list ++ ']' :: rest) := by
      simp only [Json.itemsChars, List.append_assoc, List.cons_append]
    simp only [whole, items, read, comma, more, bind, Except.bind, pure, Except.pure]

theorem value_eq_items {c : Char} (plain : isSpace c = false) (open' : c ≠ ']') :
    value (fuel + 1) (depth + 2) ('[' :: c :: rest) = (do
      let (list, rest) ← items fuel (depth + 1) (c :: rest)
      return (.array list, rest)) := by
  have deeper : JsonText.deeper (depth + 2) ('[' :: c :: rest) = .ok (depth + 1) :=
    if_neg (by omega)
  rw [value, JsonText.skipSpace_cons (by decide)]
  simp only [deeper, JsonText.skipSpace_cons plain, bind, Except.bind]
  split
  · next same => cases same
  · next same => exact absurd (List.cons.inj same).1 open'
  · rfl

theorem reads_array {list : List Json} (readable : ∀ item ∈ list, Readable (depth + 1) item)
    (reads : ∀ item ∈ list, Reads (depth + 1) item) : Reads (depth + 2) (.array list) := by
  intro fuel rest enough _
  cases list with
  | nil =>
    obtain ⟨fuel, rfl⟩ := Nat.exists_eq_succ_of_ne_zero (Nat.ne_zero_of_lt enough)
    rfl
  | cons first list =>
    obtain ⟨fuel, rfl⟩ := Nat.exists_eq_succ_of_ne_zero (Nat.ne_zero_of_lt enough)
    have whole : (Json.array (first :: list)).chars ++ rest =
        '[' :: (first.chars ++ Json.itemsChars list ++ ']' :: rest) := by
      simp [Json.chars]
    -- the brackets pay for the steps to the list and to its first item
    have enough' : (first.chars ++ Json.itemsChars list).length < fuel := by
      simp only [Json.chars, List.length_cons, List.length_append] at enough ⊢
      omega
    have read : items fuel (depth + 1) (first.chars ++ Json.itemsChars list ++ ']' :: rest) =
        .ok (first :: list, rest) := items_append readable reads enough'
    obtain ⟨c, cs, starts, plain, open'⟩ := chars_eq_cons (readable first (List.mem_cons_self ..))
    rw [starts] at read whole
    rw [whole, List.cons_append, List.cons_append, value_eq_items plain open']
    exact bind_eq_ok_iff.mpr ⟨_, read, rfl⟩

/-! ## Objects -/

theorem membersChars_cons_append (key : String) (json : Json) (list : List (String × Json))
    (rest : List Char) :
    Json.membersChars ((key, json) :: list) ++ rest =
      ',' :: '"' :: (key.toList.flatMap Json.escape ++
        '"' :: ':' :: (json.chars ++ (Json.membersChars list ++ rest))) := by
  simp [Json.membersChars, Json.quoted]

theorem object_chars_append (key : String) (json : Json) (list : List (String × Json))
    (rest : List Char) :
    (Json.object ((key, json) :: list)).chars ++ rest =
      '\x7b' :: '"' :: (key.toList.flatMap Json.escape ++
        '"' :: ':' :: (json.chars ++ (Json.membersChars list ++ '\x7d' :: rest))) := by
  simp [Json.chars, Json.quoted]

/-- What comes of a member depends on whether there is a further one. -/
theorem members_eq {key : String} {json : Json} {more : Bool} {next : List Char}
    (reads : Reads depth json) (enough : json.chars.length ≤ fuel) (ends : Ends rest)
    (after : afterMember rest = .ok (more, next)) (known : Entries Json) :
    members (fuel + 1) depth known
        (key.toList.flatMap Json.escape ++ '"' :: ':' :: (json.chars ++ rest)) =
      if more then members fuel depth (known.insert key json) next
      else .ok (known.insert key json, next) := by
  have colon : JsonText.afterColon (':' :: (json.chars ++ rest)) = .ok (json.chars ++ rest) := rfl
  have read := reads fuel rest enough ends
  rw [members, JsonText.textAfterQuote_append]
  cases more with
  | true => simp only [bind, Except.bind, colon, read, after, if_true]
  | false => simp [bind, Except.bind, colon, read, after, pure, Except.pure]

/-- Members are read back from inside the first key on, if each value is, and are laid over those
    that are known. -/
theorem members_append {list : List (String × Json)} {key : String} {json : Json}
    {known : Entries Json} (reads : ∀ member ∈ (key, json) :: list, Reads depth member.2)
    (enough : (json.chars ++ Json.membersChars list).length < fuel) :
    members fuel depth known (key.toList.flatMap Json.escape ++
        '"' :: ':' :: (json.chars ++ (Json.membersChars list ++ '\x7d' :: rest))) =
      .ok (known.insertAll ((key, json) :: list), rest) := by
  induction list generalizing key json known fuel with
  | nil =>
    obtain ⟨fuel, rfl⟩ := Nat.exists_eq_succ_of_ne_zero (Nat.ne_zero_of_lt enough)
    rw [Json.membersChars, List.append_nil] at enough
    rw [Json.membersChars, List.nil_append, members_eq (reads (key, json) (List.mem_cons_self ..))
      (Nat.le_of_lt_succ enough) (ends_cons (.inr (.inr rfl))) rfl]
    rfl
  | cons next list ih =>
    obtain ⟨name, value⟩ := next
    obtain ⟨fuel, rfl⟩ := Nat.exists_eq_succ_of_ne_zero (Nat.ne_zero_of_lt enough)
    rw [List.forall_mem_cons] at reads
    simp only [Json.membersChars, List.length_append, List.length_cons] at enough
    have enough' : (value.chars ++ Json.membersChars list).length < fuel := by
      rw [List.length_append]
      omega
    have here : Reads depth json := reads.1
    rw [membersChars_cons_append, members_eq here (by omega) (ends_cons (.inl rfl)) rfl]
    exact ih reads.2 enough'

theorem value_eq_members (rest : List Char) :
    value (fuel + 1) (depth + 2) ('\x7b' :: '"' :: rest) = (do
      let (entries, rest) ← members fuel (depth + 1) .empty rest
      return (.object entries.list, rest)) := by
  rfl

theorem reads_object {list : List (String × Json)} (distinct : (list.map Prod.fst).Nodup)
    (reads : ∀ member ∈ list, Reads (depth + 1) member.2) : Reads (depth + 2) (.object list) := by
  intro fuel rest enough _
  cases list with
  | nil =>
    obtain ⟨fuel, rfl⟩ := Nat.exists_eq_succ_of_ne_zero (Nat.ne_zero_of_lt enough)
    rfl
  | cons first list =>
    obtain ⟨key, json⟩ := first
    obtain ⟨fuel, rfl⟩ := Nat.exists_eq_succ_of_ne_zero (Nat.ne_zero_of_lt enough)
    simp only [Json.chars, Json.quoted, List.length_cons, List.length_append] at enough
    have enough' : (json.chars ++ Json.membersChars list).length < fuel := by
      rw [List.length_append]
      omega
    rw [object_chars_append, value_eq_members]
    refine bind_eq_ok_iff.mpr ⟨_, members_append reads enough', ?_⟩
    have same : (Entries.empty.insertAll ((key, json) :: list)).list = (key, json) :: list :=
      Entries.list_ofList distinct
    exact congrArg (fun members => Except.ok (Json.object members, rest)) same

/-! ## All values -/

/-- A readable value is read back, whatever follows. -/
theorem Readable.reads {json : Json} (readable : Readable depth json) : Reads depth json := by
  induction readable with
  | null => exact reads_null
  | bool b => exact reads_bool b
  | number formed => exact reads_number formed
  | text s => exact reads_text s
  | array readable ih => exact reads_array readable ih
  | object distinct _ ih => exact reads_object distinct ih

/-- The text of a readable value is read as this value. -/
theorem read_print {json : Json} (readable : Readable JsonText.depthLimit json) :
    JsonText.read json.print = .ok json := by
  have read := readable.reads (JsonText.fuelFor json.chars) [] (Nat.le_succ _) nofun
  rw [List.append_nil] at read
  simp only [JsonText.read, JsonText.whole?, JsonText.valueWithin, Json.print, String.toList_ofList,
    read, bind, Except.bind]
  rfl

end RecordRules
