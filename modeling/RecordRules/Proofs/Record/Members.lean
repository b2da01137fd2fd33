/-
  Requests read from JSON objects, field by field. A member of the object under the name of a field
  decides about that field and no other; members under other names decide about nothing.

  1. `field_of_change`: what reading one member changes.
  2. `field_of_members`: what the fields of a request are after all members are read.
  3. `field_of_ofJson`: each field of a request is what the member of its name gives.
-/
import RecordRules.Proofs.Entries
import RecordRules.Proofs.FirstError
import RecordRules.Record.WireTransfer

namespace RecordRules.WireTransfer

/-- The names of the fields of a request. -/
def fieldNames : List String := shape.fields.map TypedField.name

/-- The value of a field that a member under its name gives. -/
def valueOf (name : String) (json : Json) : Except String (Option Value) :=
  if name = "amount" then (amountOf json.respelled).map (Option.map .number)
  else if name = "transferDate" then (day.optional.fromJson json).map (Option.map .date)
  else ((Typed.optional .text).fromJson json).map (Option.map .text)

/-- A member that is read sets the field of its name to what it gives, and leaves the others. -/
theorem field_of_change {field : TypedField WireTransfer} (known : field ∈ shape.fields)
    {json : Json} {change : WireTransfer → WireTransfer}
    (read : field.value.fromJson json = .ok change) :
    ∃ value, valueOf field.name json = .ok value ∧
      ∀ (w : WireTransfer) (name : String), (change w).record.field name =
        if name = field.name then .ok value else w.record.field name := by
  simp only [shape, List.mem_cons, List.not_mem_nil, or_false] at known
  rcases known with rfl | rfl | rfl | rfl | rfl | rfl | rfl
  all_goals
    obtain ⟨v, reads, rfl⟩ := map_eq_ok_iff.mp read
    refine ⟨_, map_eq_ok_iff.mpr ⟨v, reads, rfl⟩, fun w name => ?_⟩
    unfold record
    simp only
    split <;> simp_all

/-- What one member does to a request: it changes the field of its name, if there is one. -/
theorem membersFromJson_cons {key : String} {json : Json} {members : List (String × Json)}
    {w final : WireTransfer}
    (read : shape.membersFromJson ((key, json) :: members) w = .ok final) :
    (∃ value next, valueOf key json = .ok value ∧ shape.membersFromJson members next = .ok final ∧
      ∀ name, next.record.field name = if name = key then .ok value else w.record.field name) ∨
    (key ∉ fieldNames ∧ shape.membersFromJson members w = .ok final) := by
  unfold TypedObject.membersFromJson at read
  split at read
  · next field found =>
    obtain ⟨change, reads, more⟩ := bind_eq_ok_iff.mp read
    have known : field ∈ shape.fields := List.mem_of_find?_eq_some found
    have named : field.name = key := by simpa using List.find?_some found
    obtain ⟨value, gives, sets⟩ := field_of_change known reads
    subst named
    exact .inl ⟨value, change w, gives, more, sets w⟩
  · next missing =>
    refine .inr ⟨?_, read⟩
    intro known
    obtain ⟨field, listed, named⟩ := List.mem_map.mp known
    simpa [named] using List.find?_eq_none.mp missing field listed

/-- After members under distinct keys are read, a field has the value that the member of its name
    gives, or the one that it had before if there is no such member. -/
theorem field_of_members {members : List (String × Json)} {w final : WireTransfer}
    (distinct : (members.map Prod.fst).Nodup)
    (read : shape.membersFromJson members w = .ok final) {name : String}
    (known : name ∈ fieldNames) :
    match members.lookup name with
    | some json => ∃ value, valueOf name json = .ok value ∧ final.record.field name = .ok value
    | none => final.record.field name = w.record.field name := by
  induction members generalizing w with
  | nil =>
    cases read
    rfl
  | cons member members ih =>
    obtain ⟨key, json⟩ := member
    rw [List.map_cons, List.nodup_cons] at distinct
    rcases membersFromJson_cons read with ⟨value, next, gives, more, sets⟩ | ⟨unknown, more⟩
    · have rest := ih distinct.2 more
      by_cases here : name = key
      · subst here
        -- no later member has the name again
        have once : members.lookup name = none := lookup_eq_none_iff_not_mem.mpr distinct.1
        rw [once] at rest
        rw [List.lookup_cons_self]
        exact ⟨value, gives, by rw [rest, sets, if_pos rfl]⟩
      · rw [lookup_cons_of_ne here]
        rwa [sets, if_neg here] at rest
    · have other : name ≠ key := fun same => unknown (same ▸ known)
      rw [lookup_cons_of_ne other]
      exact ih distinct.2 more

theorem initial_field {name : String} (known : name ∈ fieldNames) :
    shape.initial.record.field name = .ok none := by
  simp only [fieldNames, shape, List.map_cons, List.map_nil, List.mem_cons, List.not_mem_nil,
    or_false] at known
  rcases known with rfl | rfl | rfl | rfl | rfl | rfl | rfl <;> rfl

/-- A field of a request that is read from an object has the value that the member of its name
    gives, and none if there is no such member. -/
theorem field_of_ofJson {object : Entries Json} {w : WireTransfer}
    (read : ofJson (.object object.list) = .ok w) {name : String} (known : name ∈ fieldNames) :
    match object.find? name with
    | some json => ∃ value, valueOf name json = .ok value ∧ w.record.field name = .ok value
    | none => w.record.field name = .ok none := by
  have fields := field_of_members object.distinct read known
  rwa [initial_field known] at fields

end RecordRules.WireTransfer
