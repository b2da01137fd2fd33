/-
  Log lines are well formed, whatever stands in them. A line has no control character, so that it is
  one line, and it is read as a JSON object: first the event, then the severity, then every other
  key of the fields once and in ascending order. Of several fields under one key the last counts,
  because sorting leaves them in their order.

  1. `pairwise_sortFields`, `filter_sortFields`: fields are sorted, and those of one key keep their
     order.
  2. `sortFields_eq_of_perm`: fields under distinct keys are sorted alike, however they are given.
  3. `keys_members`, `find?_members`: the keys of a line, and what is under them.
  4. `line_well_formed`: the line as it is read.
-/
import RecordRules.Log.Line
import RecordRules.Proofs.Json.Printed

namespace RecordRules.Log

variable {fields others : Fields} {key : String}

/-! ## Sorted fields -/

theorem keys_le_trans (a b c : String × String) (ab : decide (a.1 ≤ b.1) = true)
    (bc : decide (b.1 ≤ c.1) = true) : decide (a.1 ≤ c.1) = true :=
  decide_eq_true (String.le_trans (of_decide_eq_true ab) (of_decide_eq_true bc))

theorem keys_le_total (a b : String × String) :
    (decide (a.1 ≤ b.1) || decide (b.1 ≤ a.1)) = true := by
  rw [Bool.or_eq_true, decide_eq_true_eq, decide_eq_true_eq]
  exact String.le_total a.1 b.1

theorem perm_sortFields (fields : Fields) : (sortFields fields).Perm fields :=
  List.mergeSort_perm ..

theorem pairwise_sortFields (fields : Fields) :
    (sortFields fields).Pairwise fun a b => a.1 ≤ b.1 :=
  (List.pairwise_mergeSort keys_le_trans keys_le_total fields).imp of_decide_eq_true

/-- The fields of one key keep their order. -/
theorem filter_sortFields (fields : Fields) (key : String) :
    (sortFields fields).filter (fun f => f.1 = key) = fields.filter fun f => f.1 = key := by
  have alike : (fields.filter fun f => f.1 = key).Pairwise fun a b => decide (a.1 ≤ b.1) = true := by
    refine List.pairwise_of_forall_mem_list fun a ha b hb => ?_
    have left : a.1 = key := of_decide_eq_true (List.mem_filter.mp ha).2
    have right : b.1 = key := of_decide_eq_true (List.mem_filter.mp hb).2
    rw [left, right]
    exact decide_eq_true (String.le_refl key)
  have kept : (fields.filter fun f => f.1 = key).Sublist (sortFields fields) :=
    List.sublist_mergeSort keys_le_trans keys_le_total alike List.filter_sublist
  have both := kept.filter fun f => f.1 = key
  rw [List.filter_filter] at both
  simp only [Bool.and_self] at both
  exact (both.eq_of_length ((perm_sortFields fields).filter _).length_eq.symm).symm

theorem lookup_reverse_sortFields (fields : Fields) (key : String) :
    (sortFields fields).reverse.lookup key = fields.reverse.lookup key := by
  rw [← lookup_filter_eq, List.filter_reverse, filter_sortFields, ← List.filter_reverse,
    lookup_filter_eq]

/-- Fields under distinct keys are sorted alike, in whatever order they are given. -/
theorem sortFields_eq_of_perm (distinct : (fields.map Prod.fst).Nodup) (same : fields.Perm others) :
    sortFields fields = sortFields others := by
  refine List.Perm.eq_of_pairwise (fun a b ha hb ab ba => ?_) (pairwise_sortFields fields)
    (pairwise_sortFields others) ?_
  · have left : a ∈ fields := (perm_sortFields fields).mem_iff.mp ha
    have right : b ∈ fields := same.mem_iff.mpr ((perm_sortFields others).mem_iff.mp hb)
    exact List.inj_on_of_nodup_map distinct left right (String.le_antisymm ab ba)
  · calc
      (sortFields fields).Perm fields := perm_sortFields fields
      _ |>.Perm others := same
      _ |>.Perm (sortFields others) := (perm_sortFields others).symm

/-! ## Members -/

/-- The members of a line before the fields are set. -/
def header (e : Entry) : Entries Json :=
  .ofList [("event", .text e.event), ("severity", .text e.severity.name)]

theorem keys_header (e : Entry) : (header e).keys = ["event", "severity"] := rfl

variable {e : Entry}

theorem members_eq (e : Entry) :
    e.members = (header e).insertAll ((sortFields e.fields).map fun f => (f.1, .text f.2)) :=
  List.foldl_append ..

theorem keys_texts (fields : Fields) :
    (fields.map fun f => (f.1, Json.text f.2)).map Prod.fst = fields.map Prod.fst := by
  rw [List.map_map]
  rfl

/-- Under a key is the text that the fields have last for it, or what the line starts with. -/
theorem find?_members (e : Entry) (key : String) :
    e.members.find? key = ((e.fields.reverse.lookup key).map .text).or ((header e).find? key) := by
  rw [members_eq, Entries.find?_insertAll_reverse, ← List.map_reverse, lookup_map_value,
    lookup_reverse_sortFields]

theorem find?_members_of_last {before after : Fields} {text : String}
    (split : e.fields = before ++ (key, text) :: after) (last : key ∉ after.map Prod.fst) :
    e.members.find? key = some (.text text) := by
  rw [find?_members, split, lookup_reverse_of_last last]
  rfl

theorem find?_members_of_not_mem (other : key ∉ e.fields.map Prod.fst) :
    e.members.find? key = (header e).find? key := by
  have absent : e.fields.reverse.lookup key = none := by
    rwa [lookup_eq_none_iff_not_mem, List.map_reverse, List.mem_reverse]
  rw [find?_members, absent]
  rfl

theorem mem_keys_members (e : Entry) (key : String) :
    key ∈ e.members.keys ↔ key ∈ ["event", "severity"] ∨ key ∈ e.fields.map Prod.fst := by
  rw [members_eq, Entries.mem_keys_insertAll, keys_header, keys_texts,
    ((perm_sortFields e.fields).map Prod.fst).mem_iff]

/-- The event and the severity keep the first two places, and the other keys follow in order. -/
theorem keys_members (e : Entry) :
    ∃ others, e.members.keys = "event" :: "severity" :: others ∧ others.Pairwise (· < ·) ∧
      ∀ key, key ∈ others ↔ key ∈ e.fields.map Prod.fst ∧ key ≠ "event" ∧ key ≠ "severity" := by
  have ascending : (((sortFields e.fields).map fun f => (f.1, Json.text f.2)).map
      Prod.fst).Pairwise (· ≤ ·) := by
    rw [keys_texts, List.pairwise_map]
    exact pairwise_sortFields e.fields
  have start : (header e).keys = ["event", "severity"] ++ [] := keys_header e
  obtain ⟨others, added, sorted⟩ :=
    Entries.keys_insertAll_of_ascending ascending start .nil (List.forall_mem_nil _)
  have keys : e.members.keys = "event" :: "severity" :: others := by
    rw [members_eq, added]
    rfl
  have distinct : ("event" :: "severity" :: others).Nodup := keys ▸ e.members.distinct
  rw [List.nodup_cons, List.nodup_cons, List.mem_cons, not_or] at distinct
  refine ⟨others, keys, sorted, fun key => ?_⟩
  have listed := mem_keys_members e key
  rw [keys] at listed
  simp only [List.mem_cons, List.not_mem_nil, or_false] at listed
  constructor
  · intro there
    have event : key ≠ "event" := fun same => distinct.1.2 (same ▸ there)
    have severity : key ≠ "severity" := fun same => distinct.2.1 (same ▸ there)
    have named := listed.mp (.inr (.inr there))
    simp only [event, severity, false_or] at named
    exact ⟨named, event, severity⟩
  · rintro ⟨named, event, severity⟩
    have there := listed.mpr (.inr named)
    simpa only [event, severity, false_or] using there

/-! ## Lines -/

/-- What the members of a line are: first the event and the severity, then every other key of the
    fields, once and in ascending order. Under a key is the text of its last field; the event and the
    severity of the entry stand where no field is named so. -/
structure Tells (e : Entry) (members : List (String × Json)) : Prop where
  order : ∃ others, members.map Prod.fst = "event" :: "severity" :: others ∧
    others.Pairwise (· < ·) ∧
    ∀ key, key ∈ others ↔ key ∈ e.fields.map Prod.fst ∧ key ≠ "event" ∧ key ≠ "severity"
  last : ∀ before key text after, e.fields = before ++ (key, text) :: after →
    key ∉ after.map Prod.fst → members.lookup key = some (.text text)
  event : "event" ∉ e.fields.map Prod.fst → members.lookup "event" = some (.text e.event)
  severity : "severity" ∉ e.fields.map Prod.fst →
    members.lookup "severity" = some (.text e.severity.name)

theorem tells_members (e : Entry) : Tells e e.members.list where
  order := keys_members e
  last _ _ _ _ split last := find?_members_of_last split last
  event := find?_members_of_not_mem
  severity := find?_members_of_not_mem

theorem exists_text_of_mem {member : String × Json} (listed : member ∈ e.members.list) :
    ∃ text, member.2 = .text text := by
  rw [members_eq] at listed
  rcases Entries.mem_list_insertAll listed with first | field
  · have texts : ∀ member ∈ (header e).list, ∃ text, member.2 = .text text := by
      simp [header, Entries.list_ofList]
    exact texts member first
  · obtain ⟨f, _, rfl⟩ := List.mem_map.mp field
    exact ⟨f.2, rfl⟩

theorem readable_members (e : Entry) : Readable JsonText.depthLimit (.object e.members.list) :=
  readable_texts e.members.distinct fun _ => exists_text_of_mem

theorem read_line (e : Entry) : JsonText.read e.line = .ok (.object e.members.list) :=
  read_print (readable_members e)

theorem line_eq_of_perm (distinct : (e.fields.map Prod.fst).Nodup) (same : e.fields.Perm fields) :
    ({ e with fields := fields } : Entry).line = e.line := by
  simp only [Entry.line, Entry.members, sortFields_eq_of_perm distinct same]

/-- A line has no line break nor any other control character; it is read as a JSON object whose
    members tell the entry; and if the keys of the fields are distinct, their order does not count. -/
theorem line_well_formed (e : Entry) :
    (∀ c ∈ e.line.toList, ¬ c.toNat < 0x20) ∧
    (∃ members, JsonText.read e.line = .ok (.object members) ∧ Tells e members) ∧
    ∀ fields, (e.fields.map Prod.fst).Nodup → e.fields.Perm fields →
      ({ e with fields := fields } : Entry).line = e.line := by
  have seen : NoControls e.line.toList := by
    rw [Entry.line, Json.print, String.toList_ofList]
    exact noControls_chars _
  exact ⟨seen, ⟨_, read_line e, tells_members e⟩, fun fields => line_eq_of_perm⟩

/-- An entry whose fields are not in order; one is named like the event and has a line break. -/
def driftEntry : Entry where
  severity := .warn
  event := "FIELD_NOT_ON_RECORD"
  fields := [("record_type", "refund"), ("event", "memo\n2"), ("field", "memo")]

theorem line_well_formed_drift :
    '\n' ∉ driftEntry.line.toList ∧
    (∃ members, JsonText.read driftEntry.line = .ok (.object members) ∧
      members.lookup "event" = some (.text "memo\n2") ∧
      members.lookup "severity" = some (.text "WARN")) ∧
    (driftEntry.fields.map Prod.fst).Nodup ∧
    ({ driftEntry with fields := driftEntry.fields.reverse } : Entry).line = driftEntry.line := by
  obtain ⟨seen, ⟨members, read, tells⟩, permuted⟩ := line_well_formed driftEntry
  have oneLine : '\n' ∉ driftEntry.line.toList := fun there => seen '\n' there (by decide)
  have distinct : (driftEntry.fields.map Prod.fst).Nodup := by decide
  have event := tells.last [("record_type", "refund")] "event" "memo\n2" [("field", "memo")] rfl
    (by decide)
  exact ⟨oneLine, ⟨members, read, event, tells.severity (by decide)⟩, distinct,
    permuted _ distinct (List.reverse_perm _).symm⟩

end RecordRules.Log
