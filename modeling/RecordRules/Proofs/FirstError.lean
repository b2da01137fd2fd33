/-
  Lists that are worked through until something is refused. Either everything is accepted, and each
  item has its result in its place, or the first refusal is the answer.
-/
import Mathlib.Data.List.Forall2

namespace RecordRules

variable {α β γ ε : Type}

theorem bind_eq_ok_iff {x : Except ε α} {f : α → Except ε β} {b : β} :
    (x >>= f) = .ok b ↔ ∃ a, x = .ok a ∧ f a = .ok b := by
  cases x <;> simp [bind, Except.bind]

theorem bind_eq_error_iff {x : Except ε α} {f : α → Except ε β} {e : ε} :
    (x >>= f) = .error e ↔ x = .error e ∨ ∃ a, x = .ok a ∧ f a = .error e := by
  cases x <;> simp [bind, Except.bind]

theorem map_eq_ok_iff {x : Except ε α} {f : α → β} {b : β} :
    x.map f = .ok b ↔ ∃ a, x = .ok a ∧ f a = b := by
  cases x <;> simp [Except.map]

theorem map_eq_error_iff {x : Except ε α} {f : α → β} {e : ε} :
    x.map f = .error e ↔ x = .error e := by
  cases x <;> simp [Except.map]

theorem mapError_eq_ok_iff {x : Except ε α} {f : ε → δ} {a : α} :
    x.mapError f = .ok a ↔ x = .ok a := by
  cases x <;> simp [Except.mapError]

theorem mapError_eq_error_iff {x : Except ε α} {f : ε → δ} {d : δ} :
    x.mapError f = .error d ↔ ∃ e, x = .error e ∧ f e = d := by
  cases x <;> simp [Except.mapError]

theorem toOption_eq_some_iff {x : Except ε α} {a : α} : x.toOption = some a ↔ x = .ok a := by
  cases x <;> simp [Except.toOption]

theorem exists_ok_iff {x : Except ε α} : (∃ a, x = .ok a) ↔ ∀ e, x ≠ .error e := by
  cases x <;> simp

theorem exists_ok_unit_iff {x : Except ε PUnit} : (∃ u, x = .ok u) ↔ x = .ok () :=
  ⟨fun ⟨_, accepted⟩ => accepted, fun accepted => ⟨(), accepted⟩⟩

/-- `e` is what `f` refuses first in a list: everything before is accepted. -/
def FirstError (f : α → Except ε β) (list : List α) (e : ε) : Prop :=
  ∃ before item after, list = before ++ item :: after ∧
    (∀ earlier ∈ before, ∃ b, f earlier = .ok b) ∧ f item = .error e

variable {f : α → Except ε β} {list rest : List α} {item : α} {e : ε}

theorem not_firstError_nil : ¬ FirstError f [] e := by
  rintro ⟨before, item, after, split, _⟩
  cases before <;> cases split

theorem firstError_cons_iff :
    FirstError f (item :: rest) e ↔
      f item = .error e ∨ (∃ b, f item = .ok b) ∧ FirstError f rest e := by
  constructor
  · rintro ⟨before, found, after, split, accepted, refused⟩
    cases before with
    | nil =>
      cases split
      exact .inl refused
    | cons first before =>
      cases split
      exact .inr ⟨accepted item (List.mem_cons_self ..), before, found, after, rfl,
        fun earlier he => accepted earlier (List.mem_cons_of_mem _ he), refused⟩
  · rintro (refused | ⟨here, before, found, after, rfl, accepted, refused⟩)
    · exact ⟨[], item, rest, rfl, nofun, refused⟩
    · refine ⟨item :: before, found, after, rfl, fun earlier he => ?_, refused⟩
      rcases List.mem_cons.mp he with rfl | he
      · exact here
      · exact accepted earlier he

/-- What is made of accepted items does not change what is refused. -/
theorem firstError_map_iff {make : α → β → γ} :
    FirstError (fun item => (f item).map (make item)) list e ↔ FirstError f list e := by
  simp only [FirstError, map_eq_error_iff, map_eq_ok_iff]
  constructor
  · rintro ⟨before, item, after, split, accepted, refused⟩
    refine ⟨before, item, after, split, fun earlier he => ?_, refused⟩
    obtain ⟨_, b, here, _⟩ := accepted earlier he
    exact ⟨b, here⟩
  · rintro ⟨before, item, after, split, accepted, refused⟩
    refine ⟨before, item, after, split, fun earlier he => ?_, refused⟩
    obtain ⟨b, here⟩ := accepted earlier he
    exact ⟨_, b, here, rfl⟩

theorem mapM_eq_ok_iff {results : List β} :
    list.mapM f = .ok results ↔ List.Forall₂ (fun item b => f item = .ok b) list results := by
  induction list generalizing results with
  | nil => cases results <;> simp [pure, Except.pure]
  | cons item rest ih =>
    rw [List.mapM_cons, bind_eq_ok_iff]
    constructor
    · rintro ⟨b, here, more⟩
      obtain ⟨bs, there, same⟩ := bind_eq_ok_iff.mp more
      cases same
      exact .cons here (ih.mp there)
    · rintro (_ | ⟨here, there⟩)
      exact ⟨_, here, bind_eq_ok_iff.mpr ⟨_, ih.mpr there, rfl⟩⟩

theorem mem_mapM_iff {results : List β} (accepted : list.mapM f = .ok results) {b : β} :
    b ∈ results ↔ ∃ item ∈ list, f item = .ok b := by
  have each := mapM_eq_ok_iff.mp accepted
  clear accepted
  induction each with
  | nil => simp
  | cons here _ ih => simp [ih, here, eq_comm]

theorem mapM_eq_error_iff : list.mapM f = .error e ↔ FirstError f list e := by
  induction list with
  | nil => exact ⟨nofun, fun h => absurd h not_firstError_nil⟩
  | cons item rest ih =>
    rw [List.mapM_cons, bind_eq_error_iff, firstError_cons_iff, ← ih]
    constructor
    · rintro (refused | ⟨b, here, more⟩)
      · exact .inl refused
      · rcases bind_eq_error_iff.mp more with refused | ⟨_, _, impossible⟩
        · exact .inr ⟨⟨b, here⟩, refused⟩
        · cases impossible
    · rintro (refused | ⟨⟨b, here⟩, refused⟩)
      · exact .inl refused
      · exact .inr ⟨b, here, bind_eq_error_iff.mpr (.inl refused)⟩

theorem mapM_congr {g : α → Except ε β} (same : ∀ item ∈ list, f item = g item) :
    list.mapM f = list.mapM g := by
  induction list with
  | nil => rfl
  | cons item rest ih =>
    rw [List.forall_mem_cons] at same
    rw [List.mapM_cons, List.mapM_cons, same.1, ih same.2]

theorem forM_eq_ok_iff {f : α → Except ε PUnit} :
    list.forM f = .ok () ↔ ∀ item ∈ list, f item = .ok () := by
  induction list with
  | nil => exact ⟨nofun, fun _ => rfl⟩
  | cons item rest ih =>
    rw [List.forM_eq_forM, List.forM_cons, bind_eq_ok_iff, List.forall_mem_cons, ← ih]
    exact ⟨fun ⟨_, here, there⟩ => ⟨here, there⟩, fun ⟨here, there⟩ => ⟨(), here, there⟩⟩

theorem forM_eq_error_iff {f : α → Except ε PUnit} :
    list.forM f = .error e ↔ FirstError f list e := by
  induction list with
  | nil => exact ⟨nofun, fun h => absurd h not_firstError_nil⟩
  | cons item rest ih =>
    rw [List.forM_eq_forM, List.forM_cons, bind_eq_error_iff, firstError_cons_iff, ← ih]
    constructor
    · rintro (refused | ⟨b, here, there⟩)
      · exact .inl refused
      · exact .inr ⟨⟨b, here⟩, there⟩
    · rintro (refused | ⟨⟨b, here⟩, there⟩)
      · exact .inl refused
      · exact .inr ⟨b, here, there⟩

/-- Lists put together are worked through one list after the other. -/
theorem forM_flatMap {f : α → Except ε PUnit} (lists : List γ) (items : γ → List α) :
    (lists.flatMap items).forM f = lists.forM fun list => (items list).forM f := by
  induction lists with
  | nil => rfl
  | cons list rest ih =>
    rw [List.flatMap_cons]
    simp only [List.forM_eq_forM] at ih ⊢
    rw [List.forM_append, List.forM_cons, ih]

/-! ## Lists item by item -/

variable {R : α → β → Prop}

theorem exists_forall₂ {list : List α} (each : ∀ a ∈ list, ∃ b, R a b) :
    ∃ results, List.Forall₂ R list results := by
  induction list with
  | nil => exact ⟨[], .nil⟩
  | cons a rest ih =>
    rw [List.forall_mem_cons] at each
    obtain ⟨⟨b, here⟩, more⟩ := each
    obtain ⟨bs, there⟩ := ih more
    exact ⟨b :: bs, .cons here there⟩

theorem exists_of_forall₂ {list : List α} {results : List β} (same : List.Forall₂ R list results)
    {a : α} (listed : a ∈ list) : ∃ b ∈ results, R a b := by
  induction same with
  | nil => cases listed
  | cons here _ ih =>
    rcases List.mem_cons.mp listed with rfl | later
    · exact ⟨_, List.mem_cons_self .., here⟩
    · obtain ⟨b, there, related⟩ := ih later
      exact ⟨b, List.mem_cons_of_mem _ there, related⟩

theorem forM_eq_of_forall₂ {f : α → Except ε PUnit} {g : β → Except ε PUnit} {results : List β}
    (same : List.Forall₂ (fun a b => f a = g b) list results) : list.forM f = results.forM g := by
  induction same with
  | nil => rfl
  | cons here _ ih =>
    simp only [List.forM_eq_forM] at ih ⊢
    rw [List.forM_cons, List.forM_cons, here, ih]

end RecordRules
