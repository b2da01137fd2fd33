/-
  Values of expected types in texts. Whatever a reader makes of a text has the properties that its
  parts see to, and an object that is printed with known fields is read back field by field.

  1. `yields_content`, `yields_optional`, `yields_any`, `yields_list`: properties of what readers
     give.
  2. `gives_content`, `gives_optional`, `gives_any`, `gives_list`: what readers give of printed
     values.
  3. `membersFromText_succ`: the members of an object are read one by one.
  4. `ofText_keeps`: a property of objects that no field breaks.
  5. `membersFromText_append`, `ofText_print`: what is read of a printed object.
-/
import RecordRules.Json.Typed
import RecordRules.Proofs.Json.Printed

namespace RecordRules

open JsonText (skipSpace isSpace)

theorem JsonText.whole?_eq_ok_iff {α : Type} {reader : JsonText.Reader α} {text : String} {a : α} :
    JsonText.whole? reader text = .ok a ↔
      ∃ rest, reader text.toList = .ok (a, rest) ∧ skipSpace rest = [] := by
  simp only [JsonText.whole?, mapError_eq_ok_iff, bind_eq_ok_iff, Prod.exists]
  constructor
  · rintro ⟨_, rest, read, ended⟩
    split at ended
    · next blank =>
      cases ended
      exact ⟨rest, read, blank⟩
    · cases ended
  · rintro ⟨rest, read, blank⟩
    exact ⟨a, rest, read, by simp only [blank]; rfl⟩

namespace Typed

variable {α β : Type} {t : Typed α} {Q : α → Prop}

/-- All values that a reader gives from text have a property. -/
def Yields (t : Typed α) (Q : α → Prop) : Prop :=
  ∀ depth cs a rest, t.fromText depth cs = .ok (a, rest) → Q a

/-- A reader gives this for a printed value, whatever follows it. -/
def Gives (t : Typed α) (depth : Nat) (json : Json) (a : α) : Prop :=
  ∀ rest, Ends rest → t.fromText depth (json.chars ++ rest) = .ok (a, rest)

/-! ## Properties of what is read -/

theorem wrongType_ne_ok {expected : String} {cs : List Char} {result : α × List Char} :
    wrongType expected cs ≠ .ok result := by
  intro read
  unfold wrongType at read
  split at read
  · cases read
  · cases read
  · obtain ⟨_, _, refused⟩ := bind_eq_ok_iff.mp read
    cases refused

theorem yields_map {f : α → β} (yields : t.Yields Q) :
    (t.map f).Yields fun b => ∃ a, Q a ∧ f a = b := by
  intro depth cs b rest read
  obtain ⟨⟨a, _⟩, read, same⟩ := map_eq_ok_iff.mp read
  cases same
  exact ⟨a, yields depth cs a rest read, rfl⟩

theorem yields_content {expected : String} {parse : String → Except String α}
    (parsed : ∀ s a, parse s = .ok a → Q a) : (content expected parse).Yields Q := by
  intro depth cs a rest read
  simp only [content] at read
  split at read
  · obtain ⟨⟨s, _⟩, _, read⟩ := bind_eq_ok_iff.mp read
    dsimp only at read
    split at read
    · next made =>
      cases read
      exact parsed s a made
    · cases read
  · exact absurd read wrongType_ne_ok

theorem yields_optional (yields : t.Yields Q) : t.optional.Yields fun o => ∀ a ∈ o, Q a := by
  intro depth cs o rest read
  simp only [optional] at read
  split at read
  · obtain ⟨_, _, same⟩ := bind_eq_ok_iff.mp read
    cases same
    exact nofun
  · obtain ⟨⟨a, _⟩, inner, same⟩ := map_eq_ok_iff.mp read
    cases same
    rintro _ ⟨⟩
    exact yields _ _ _ _ inner

theorem yields_any {convert : Json → Except String α}
    (converted : ∀ json a, convert json = .ok a → Q a) : (any convert).Yields Q := by
  intro depth cs a rest read
  obtain ⟨⟨json, _⟩, _, read⟩ := bind_eq_ok_iff.mp read
  dsimp only at read
  split at read
  · next made =>
    cases read
    exact converted json a made
  · cases read

theorem yields_itemsFromText (yields : t.Yields Q) {depth fuel : Nat} {list : List α}
    {cs rest : List Char} (read : itemsFromText t depth fuel cs = .ok (list, rest)) :
    ∀ a ∈ list, Q a := by
  induction fuel generalizing list cs with
  | zero => cases read
  | succ fuel ih =>
    obtain ⟨⟨a, _⟩, first, read⟩ := bind_eq_ok_iff.mp read
    obtain ⟨⟨more, _⟩, _, read⟩ := bind_eq_ok_iff.mp read
    have here : Q a := yields _ _ _ _ first
    cases more with
    | true =>
      obtain ⟨⟨others, _⟩, later, same⟩ := bind_eq_ok_iff.mp read
      cases same
      exact List.forall_mem_cons.mpr ⟨here, ih later⟩
    | false =>
      cases read
      exact List.forall_mem_singleton.mpr here

theorem yields_list (yields : t.Yields Q) : t.list.Yields fun list => ∀ a ∈ list, Q a := by
  intro depth cs list rest read
  simp only [Typed.list] at read
  split at read
  · obtain ⟨_, _, read⟩ := bind_eq_ok_iff.mp read
    split at read
    · cases read
    · cases read
      exact List.forall_mem_nil _
    · exact yields_itemsFromText yields read
  · exact absurd read wrongType_ne_ok

/-! ## Printed values -/

variable {depth : Nat}

theorem gives_map {json : Json} {a : α} (gives : t.Gives depth json a) (f : α → β) :
    (t.map f).Gives depth json (f a) := by
  intro rest ends
  exact map_eq_ok_iff.mpr ⟨_, gives rest ends, rfl⟩

theorem gives_content {expected : String} {parse : String → Except String α} {s : String} {a : α}
    (parsed : parse s = .ok a) : (content expected parse).Gives depth (.text s) a := by
  intro rest _
  have opened : (Json.text s).chars ++ rest =
      '"' :: (s.toList.flatMap Json.escape ++ '"' :: rest) := by
    simp [Json.chars, Json.quoted]
  have read : placed (JsonText.textAfterQuote (s.toList.flatMap Json.escape ++ '"' :: rest)) =
      .ok (s, rest) := by
    rw [JsonText.textAfterQuote_append]
    rfl
  simp only [content, opened, JsonText.skipSpace_cons (c := '"') (by decide), read, parsed, bind,
    Except.bind, pure, Except.pure]

theorem gives_text (s : String) : text.Gives depth (.text s) s := gives_content rfl

theorem gives_null : t.optional.Gives depth .null none := by
  intro rest _
  rfl

/-- A value that does not start as null does is read as a value that is there. -/
theorem gives_optional {json : Json} {a : α} (gives : t.Gives depth json a)
    (starts : ∃ c cs, json.chars = c :: cs ∧ isSpace c = false ∧ c ≠ 'n') :
    t.optional.Gives depth json (some a) := by
  obtain ⟨c, cs, same, plain, other⟩ := starts
  intro rest ends
  have read := gives rest ends
  rw [same, List.cons_append] at read ⊢
  simp only [optional, JsonText.skipSpace_cons plain]
  split
  · next null => exact absurd (List.cons.inj null).1 other
  · exact map_eq_ok_iff.mpr ⟨_, read, rfl⟩

theorem gives_optional_text {s : String} {a : α} (gives : t.Gives depth (.text s) a) :
    t.optional.Gives depth (.text s) (some a) :=
  gives_optional gives ⟨'"', _, rfl, by decide, by decide⟩

theorem gives_any {convert : Json → Except String α} {json : Json} {a : α}
    (readable : Readable depth json) (converted : convert json = .ok a) :
    (any convert).Gives depth json a := by
  intro rest ends
  have enough : json.chars.length ≤ JsonText.fuelFor (json.chars ++ rest) := by
    rw [JsonText.fuelFor, List.length_append]
    omega
  have read := readable.reads (JsonText.fuelFor (json.chars ++ rest)) rest enough ends
  simp only [any, read, placed, Except.mapError, bind, Except.bind, converted]
  rfl

theorem length_le_itemsChars (items : List Json) :
    items.length ≤ (Json.itemsChars items).length := by
  induction items with
  | nil => exact Nat.zero_le _
  | cons item items ih =>
    simp only [Json.itemsChars, List.length_cons, List.length_append]
    omega

/-- Printed items are read one after the other. -/
theorem itemsFromText_append {items : List Json} {list : List α} {first : Json} {a : α}
    {fuel : Nat} (here : t.Gives depth first a)
    (each : List.Forall₂ (fun item a => Readable depth item ∧ t.Gives depth item a) items list)
    (enough : items.length < fuel) (rest : List Char) :
    itemsFromText t depth fuel (first.chars ++ (Json.itemsChars items ++ ']' :: rest)) =
      .ok (a :: list, rest) := by
  obtain ⟨fuel, rfl⟩ := Nat.exists_eq_succ_of_ne_zero (Nat.ne_zero_of_lt enough)
  induction each generalizing first a fuel with
  | nil =>
    have read := here (']' :: rest) (ends_cons (.inr (.inl rfl)))
    rw [Json.itemsChars, List.nil_append, itemsFromText, read]
    rfl
  | @cons next b items list there _ ih =>
    obtain ⟨fuel, rfl⟩ := Nat.exists_eq_succ_of_ne_zero
      (Nat.ne_zero_of_lt (Nat.lt_of_succ_lt_succ enough))
    have read := here (',' :: (next.chars ++ (Json.itemsChars items ++ ']' :: rest)))
      (ends_cons (.inl rfl))
    have more := ih there.2 fuel (Nat.lt_of_succ_lt_succ enough)
    obtain ⟨c, cs, starts, plain, open'⟩ := chars_eq_cons there.1
    have comma : JsonText.afterItem
        (',' :: (next.chars ++ (Json.itemsChars items ++ ']' :: rest))) =
        .ok (true, next.chars ++ (Json.itemsChars items ++ ']' :: rest)) := by
      rw [starts]
      exact afterItem_comma plain open'
    have whole : Json.itemsChars (next :: items) ++ ']' :: rest =
        ',' :: (next.chars ++ (Json.itemsChars items ++ ']' :: rest)) := by
      simp only [Json.itemsChars, List.append_assoc, List.cons_append]
    rw [whole, itemsFromText]
    simp only [read, placed, Except.mapError, comma, more, bind, Except.bind, pure, Except.pure]

theorem fromText_list_eq_items {c : Char} (plain : isSpace c = false) (open' : c ≠ ']')
    (rest : List Char) :
    t.list.fromText (depth + 2) ('[' :: c :: rest) =
      itemsFromText t (depth + 1) (JsonText.fuelFor (c :: rest)) (c :: rest) := by
  have deeper : JsonText.deeper (depth + 2) ('[' :: c :: rest) = .ok (depth + 1) :=
    if_neg (by omega)
  simp only [list, JsonText.skipSpace_cons (c := '[') (by decide), JsonText.skipSpace_cons plain,
    deeper, placed, Except.mapError, bind, Except.bind]
  split
  · next same => cases same
  · next same => exact absurd (List.cons.inj same).1 open'
  · rfl

/-- A printed list is read back, if each of its items is. -/
theorem gives_list {items : List Json} {list : List α}
    (each : List.Forall₂ (fun item a => Readable (depth + 1) item ∧ t.Gives (depth + 1) item a)
      items list) : t.list.Gives (depth + 2) (.array items) list := by
  intro rest _
  cases each with
  | nil => rfl
  | @cons first a items list here each =>
    have whole : (Json.array (first :: items)).chars ++ rest =
        '[' :: (first.chars ++ (Json.itemsChars items ++ ']' :: rest)) := by
      simp [Json.chars]
    have enough : items.length < JsonText.fuelFor
        (first.chars ++ (Json.itemsChars items ++ ']' :: rest)) := by
      have long := length_le_itemsChars items
      simp only [JsonText.fuelFor, List.length_append, List.length_cons]
      omega
    have read := itemsFromText_append here.2 each enough rest
    -- the first item starts with a character that does not close the list
    obtain ⟨c, cs, starts, plain, open'⟩ := chars_eq_cons here.1
    rw [starts, List.cons_append] at read
    rw [whole, starts, List.cons_append, fromText_list_eq_items plain open', read]

end Typed

/-! ## Objects -/

/-- No value of a field breaks a property of objects. -/
def TypedField.Keeps {σ : Type} (f : TypedField σ) (P : σ → Prop) : Prop :=
  f.value.Yields fun change => ∀ s, P s → P (change s)

theorem TypedField.keeps_map {α σ : Type} {t : Typed α} {Q : α → Prop} {P : σ → Prop}
    {name : String} {set : α → σ → σ} {mayMiss : Bool} (yields : t.Yields Q)
    (keeps : ∀ a s, Q a → P s → P (set a s)) : TypedField.Keeps ⟨name, t.map set, mayMiss⟩ P := by
  intro depth cs change rest read
  obtain ⟨a, good, rfl⟩ := Typed.yields_map yields depth cs change rest read
  exact fun s => keeps a s good

namespace TypedObject

variable {σ : Type} {o : TypedObject σ} {P : σ → Prop} {depth : Nat}

/-- A member of an object is of a known field and makes this change. -/
def Changes (o : TypedObject σ) (depth : Nat) (member : String × Json) (change : σ → σ) : Prop :=
  ∃ field, o.fields.find? (fun f => f.name == member.1) = some field ∧
    field.value.Gives depth member.2 change

/-- Reads one member from inside its key on, without what is after it. -/
def memberFromText (o : TypedObject σ) (depth : Nat) (seen : List String) (state : σ)
    (cs : List Char) : Except TypeFlaw (String × σ × List Char) := do
  let (key, rest) ← Typed.placed (JsonText.textAfterQuote cs)
  match o.fields.find? fun f => f.name == key with
  | some field =>
    if seen.contains key then throw (.unplaced (twice key) rest)
    else do
      let (change, rest) ← field.value.fromText depth (← Typed.placed (JsonText.afterColon rest))
      return (key, change state, rest)
  | none => do
    let rest ← Typed.placed (JsonText.afterColon rest)
    return (key, state, ← Typed.placed (JsonText.skim rest))

theorem membersFromText_succ (fuel : Nat) (seen : List String) (state : σ) (cs : List Char) :
    o.membersFromText depth (fuel + 1) seen state cs = (do
      let (key, state, rest) ← o.memberFromText depth seen state cs
      match ← Typed.placed (JsonText.afterMember rest) with
      | (true, rest) => o.membersFromText depth fuel (key :: seen) state rest
      | (false, rest) => return (state, rest)) := by
  rw [membersFromText, memberFromText]
  cases Typed.placed (JsonText.textAfterQuote cs) with
  | error flaw => rfl
  | ok read =>
    obtain ⟨key, rest⟩ := read
    simp only [bind, Except.bind]
    cases o.fields.find? fun f => f.name == key with
    | none =>
      cases Typed.placed (JsonText.afterColon rest) with
      | error flaw => rfl
      | ok rest =>
        dsimp only
        cases Typed.placed (JsonText.skim rest) <;> rfl
    | some field =>
      cases seen.contains key with
      | true => rfl
      | false =>
        cases Typed.placed (JsonText.afterColon rest) with
        | error flaw => rfl
        | ok rest =>
          simp only [Bool.false_eq_true, if_false]
          cases field.value.fromText depth rest <;> rfl

/-! ## Properties of objects -/

theorem memberFromText_keeps (fields : ∀ f ∈ o.fields, f.Keeps P) {seen : List String}
    {state next : σ} {key : String} {cs rest : List Char} (holds : P state)
    (read : o.memberFromText depth seen state cs = .ok (key, next, rest)) : P next := by
  obtain ⟨⟨name, cs⟩, _, read⟩ := bind_eq_ok_iff.mp read
  dsimp only at read
  split at read
  · next field found =>
    split at read
    · cases read
    · obtain ⟨_, _, read⟩ := bind_eq_ok_iff.mp read
      obtain ⟨⟨change, _⟩, gives, same⟩ := bind_eq_ok_iff.mp read
      cases same
      exact fields field (List.mem_of_find?_eq_some found) _ _ _ _ gives state holds
  · obtain ⟨_, _, read⟩ := bind_eq_ok_iff.mp read
    obtain ⟨_, _, same⟩ := bind_eq_ok_iff.mp read
    cases same
    exact holds

theorem membersFromText_keeps (fields : ∀ f ∈ o.fields, f.Keeps P) {fuel : Nat}
    {seen : List String} {state result : σ} {cs rest : List Char} (holds : P state)
    (read : o.membersFromText depth fuel seen state cs = .ok (result, rest)) : P result := by
  induction fuel generalizing seen state cs with
  | zero => cases read
  | succ fuel ih =>
    rw [membersFromText_succ] at read
    obtain ⟨⟨key, next, cs⟩, member, read⟩ := bind_eq_ok_iff.mp read
    have kept : P next := memberFromText_keeps fields holds member
    obtain ⟨⟨more, cs⟩, _, read⟩ := bind_eq_ok_iff.mp read
    cases more with
    | true => exact ih kept read
    | false =>
      cases read
      exact kept

theorem valuesFromText_keeps {list : List (TypedField σ)} (fields : ∀ f ∈ list, f.Keeps P)
    {index : Nat} {state result : σ} {cs rest : List Char} (holds : P state)
    (read : o.valuesFromText depth index list state cs = .ok (result, rest)) : P result := by
  induction list generalizing index state cs with
  | nil =>
    rw [valuesFromText] at read
    split at read
    · cases read
    · cases read
      exact holds
    · split at read <;> cases read
    · cases read
  | cons field list ih =>
    rw [List.forall_mem_cons] at fields
    -- the first value and a later one differ only in the comma before them
    have step {cs : List Char} (read : (do
        let (change, rest) ← field.value.fromText depth cs
        o.valuesFromText depth (index + 1) list (change state) rest) = .ok (result, rest)) :
        P result := by
      obtain ⟨⟨change, _⟩, gives, read⟩ := bind_eq_ok_iff.mp read
      exact ih fields.2 (fields.1 _ _ _ _ gives state holds) read
    rw [valuesFromText] at read
    split at read
    · cases read
    · split at read
      · exact ih fields.2 holds read
      · cases read
    · dsimp only at read
      split at read
      · exact step read
      · obtain ⟨_, _, read⟩ := bind_eq_ok_iff.mp read
        exact step read

/-- A property that holds without members and that no field breaks holds for every object that is
    read. -/
theorem ofText_keeps (initial : P o.initial) (fields : ∀ f ∈ o.fields, f.Keeps P) {text : String}
    {result : σ} (read : o.ofText text = .ok result) : P result := by
  obtain ⟨rest, read, _⟩ := JsonText.whole?_eq_ok_iff.mp read
  unfold reader at read
  split at read
  · split at read
    · cases read
    · cases read
      exact initial
    · exact membersFromText_keeps fields initial (mapError_eq_ok_iff.mp read)
    · cases read
  · exact valuesFromText_keeps fields initial (mapError_eq_ok_iff.mp read)
  · exact absurd (mapError_eq_ok_iff.mp read) Typed.wrongType_ne_ok

/-! ## Printed objects -/

/-- What comes of a member depends on whether there is a further one. -/
theorem membersFromText_eq {key : String} {json : Json} {change : σ → σ} {more : Bool}
    {fuel : Nat} {seen : List String} {rest next : List Char}
    (changes : o.Changes depth (key, json) change) (new : key ∉ seen) (ends : Ends rest)
    (after : JsonText.afterMember rest = .ok (more, next)) (state : σ) :
    o.membersFromText depth (fuel + 1) seen state
        (key.toList.flatMap Json.escape ++ '"' :: ':' :: (json.chars ++ rest)) =
      if more then o.membersFromText depth fuel (key :: seen) (change state) next
      else .ok (change state, next) := by
  obtain ⟨field, found, gives⟩ := changes
  have colon : JsonText.afterColon (':' :: (json.chars ++ rest)) = .ok (json.chars ++ rest) := rfl
  have unseen : seen.contains key = false := by simpa using new
  have member : o.memberFromText depth seen state
      (key.toList.flatMap Json.escape ++ '"' :: ':' :: (json.chars ++ rest)) =
      .ok (key, change state, rest) := by
    simp only [memberFromText, Typed.placed, JsonText.textAfterQuote_append, Except.mapError, bind,
      Except.bind, found, unseen, colon, gives rest ends]
    rfl
  rw [membersFromText_succ, member]
  simp only [Typed.placed, Except.mapError, bind, Except.bind, after]
  cases more <;> rfl

theorem changes_of_find {α : Type} {t : Typed α} {set : α → σ → σ} {name : String} {mayMiss : Bool}
    {json : Json} {a : α}
    (found : o.fields.find? (fun f => f.name == name) = some ⟨name, t.map set, mayMiss⟩)
    (gives : t.Gives depth json a) : o.Changes depth (name, json) (set a) :=
  ⟨_, found, Typed.gives_map gives set⟩

/-- Printed members make their changes one after the other. -/
theorem membersFromText_append {list : List (String × Json)} {changes : List (σ → σ)}
    {key : String} {json : Json} {change : σ → σ} {fuel : Nat} {seen : List String} {state : σ}
    {rest : List Char} (here : o.Changes depth (key, json) change)
    (each : List.Forall₂ (o.Changes depth) list changes)
    (distinct : (key :: list.map Prod.fst).Nodup) (new : ∀ k ∈ key :: list.map Prod.fst, k ∉ seen)
    (enough : list.length < fuel) :
    o.membersFromText depth fuel seen state (key.toList.flatMap Json.escape ++
        '"' :: ':' :: (json.chars ++ (Json.membersChars list ++ '\x7d' :: rest))) =
      .ok (changes.foldl (fun s change => change s) (change state), rest) := by
  obtain ⟨fuel, rfl⟩ := Nat.exists_eq_succ_of_ne_zero (Nat.ne_zero_of_lt enough)
  induction each generalizing key json change fuel seen state with
  | nil =>
    rw [Json.membersChars, List.nil_append,
      membersFromText_eq here (new key (List.mem_cons_self ..)) (ends_cons (.inr (.inr rfl))) rfl]
    rfl
  | @cons member next list changes there each ih =>
    obtain ⟨name, value⟩ := member
    obtain ⟨fuel, rfl⟩ := Nat.exists_eq_succ_of_ne_zero
      (Nat.ne_zero_of_lt (Nat.lt_of_succ_lt_succ enough))
    rw [List.map_cons, List.nodup_cons] at distinct
    rw [List.map_cons, List.forall_mem_cons] at new
    -- the key that was just read is not among those that are left
    have new' : ∀ k ∈ name :: list.map Prod.fst, k ∉ key :: seen := by
      intro k listed
      rw [List.mem_cons, not_or]
      exact ⟨fun same => distinct.1 (same ▸ listed), new.2 k listed⟩
    rw [membersChars_cons_append, membersFromText_eq here new.1 (ends_cons (.inl rfl)) rfl]
    exact ih there distinct.2 new' fuel (Nat.lt_of_succ_lt_succ enough)

theorem length_le_membersChars (list : List (String × Json)) :
    list.length ≤ (Json.membersChars list).length := by
  induction list with
  | nil => exact Nat.zero_le _
  | cons member list ih =>
    simp only [Json.membersChars, List.length_cons, List.length_append]
    omega

/-- A printed object is read back, if each member is of a known field and comes once. -/
theorem ofText_print {members : List (String × Json)} {changes : List (σ → σ)}
    (each : List.Forall₂ (o.Changes (JsonText.depthLimit - 1)) members changes)
    (distinct : (members.map Prod.fst).Nodup) :
    o.ofText (Json.object members).print =
      .ok (changes.foldl (fun s change => change s) o.initial) := by
  have read : o.reader (Json.object members).chars =
      .ok (changes.foldl (fun s change => change s) o.initial, []) := by
    cases each with
    | nil => rfl
    | @cons member change list changes here each =>
      obtain ⟨key, json⟩ := member
      have whole := object_chars_append key json list []
      rw [List.append_nil] at whole
      have enough : list.length < JsonText.fuelFor (key.toList.flatMap Json.escape ++
          '"' :: ':' :: (json.chars ++ (Json.membersChars list ++ ['\x7d']))) := by
        have long := length_le_membersChars list
        simp only [JsonText.fuelFor, List.length_append, List.length_cons]
        omega
      rw [whole]
      exact mapError_eq_ok_iff.mpr
        (membersFromText_append here each distinct (fun _ _ => List.not_mem_nil) enough)
  rw [ofText, JsonText.whole?_eq_ok_iff, Json.print, String.toList_ofList]
  exact ⟨[], read, rfl⟩

end TypedObject

end RecordRules
