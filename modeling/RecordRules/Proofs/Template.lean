/-
  What a template is split into. The parts make up the template, and a token is a listed key in
  braces; which places are tokens is settled before any value is known. If the keys are without
  braces, no token reaches into another: every listed key in braces is a token then, whatever braces
  stand before it.

  1. `Split`, `split_parts`: the parts of a template, without regard to how they are found.
  2. `parts_append_token`: a listed key in braces is a token wherever it stands.
  3. `rendered_render`: every part is replaced on its own.
  4. `render_congr`: which values a template shows.
  5. `render_replaces_at_once`: rendering as one replacement of all tokens.
-/
import RecordRules.Proofs.Entries
import RecordRules.Template

namespace RecordRules.Template

/-- The characters of a part as the template has them. -/
def Part.written : Part → List Char
  | literal c => [c]
  | token key => '\x7b' :: (key.toList ++ ['\x7d'])

theorem written_append (key : String) (rest : List Char) :
    (Part.token key).written ++ rest = '\x7b' :: (key.toList ++ '\x7d' :: rest) := by
  simp [Part.written]

/-- The parts of a text: a listed key in braces is a token, and any other character is a literal. -/
inductive Split (keys : List String) : List Char → List Part → Prop
  | nil : Split keys [] []
  | token {key : String} {cs : List Char} {parts : List Part} :
      key ∈ keys → '\x7d' ∉ key.toList → Split keys cs parts →
      Split keys ((Part.token key).written ++ cs) (.token key :: parts)
  | literal {c : Char} {cs : List Char} {parts : List Part} :
      (∀ key ∈ keys, '\x7d' ∉ key.toList → ¬ (Part.token key).written <+: c :: cs) →
      Split keys cs parts → Split keys (c :: cs) (.literal c :: parts)

/-! ## Finding the parts -/

theorem beforeBrace?_eq_some_iff {cs name : List Char} :
    beforeBrace? cs = some name ↔ '\x7d' ∉ name ∧ ∃ rest, cs = name ++ '\x7d' :: rest := by
  induction cs generalizing name with
  | nil => simp [beforeBrace?]
  | cons c cs ih =>
    unfold beforeBrace?
    by_cases closing : c = '\x7d'
    · subst closing
      rw [if_pos rfl, Option.some_inj]
      constructor
      · rintro rfl
        exact ⟨List.not_mem_nil, cs, rfl⟩
      · rintro ⟨free, rest, split⟩
        cases name with
        | nil => rfl
        | cons d name =>
          cases split
          exact absurd (List.mem_cons_self ..) free
    · rw [if_neg closing, Option.map_eq_some_iff]
      constructor
      · rintro ⟨name, found, rfl⟩
        obtain ⟨free, rest, rfl⟩ := ih.mp found
        refine ⟨?_, rest, rfl⟩
        rw [List.mem_cons, not_or]
        exact ⟨fun same => closing same.symm, free⟩
      · rintro ⟨free, rest, split⟩
        cases name with
        | nil =>
          cases split
          exact absurd rfl closing
        | cons d name =>
          cases split
          exact ⟨name, ih.mpr ⟨fun listed => free (List.mem_cons_of_mem _ listed), rest, rfl⟩, rfl⟩

theorem key?_eq_some_iff {keys : List String} {cs : List Char} {key : String} :
    key? keys cs = some key ↔
      key ∈ keys ∧ '\x7d' ∉ key.toList ∧ ∃ rest, cs = key.toList ++ '\x7d' :: rest := by
  unfold key?
  cases found : beforeBrace? cs with
  | none =>
    simp only [reduceCtorEq, false_iff]
    rintro ⟨_, there⟩
    rw [beforeBrace?_eq_some_iff.mpr there] at found
    cases found
  | some name =>
    have there := beforeBrace?_eq_some_iff.mp found
    simp only [List.contains_iff_mem]
    constructor
    · intro chosen
      split at chosen
      · next listed =>
        cases chosen
        exact ⟨listed, by simpa using there⟩
      · cases chosen
    · rintro ⟨listed, there'⟩
      have same := found.symm.trans (beforeBrace?_eq_some_iff.mpr there')
      cases same
      rw [String.ofList_toList, if_pos listed]

theorem partsFrom_skip (keys : List String) (skip : Nat) (cs : List Char) :
    partsFrom keys skip cs = partsFrom keys 0 (cs.drop skip) := by
  induction cs generalizing skip with
  | nil => cases skip <;> rfl
  | cons c cs ih =>
    cases skip with
    | zero => rfl
    | succ skip => exact ih skip

theorem partsFrom_token {keys : List String} {key : String} (listed : key ∈ keys)
    (free : '\x7d' ∉ key.toList) (cs : List Char) :
    partsFrom keys 0 ((Part.token key).written ++ cs) = .token key :: partsFrom keys 0 cs := by
  have found : key? keys (key.toList ++ '\x7d' :: cs) = some key :=
    key?_eq_some_iff.mpr ⟨listed, free, cs, rfl⟩
  have rest : (key.toList ++ '\x7d' :: cs).drop (key.toList.length + 1) = cs := by
    rw [← List.drop_drop, List.drop_left]
    rfl
  rw [written_append, partsFrom, if_pos rfl, found]
  dsimp only
  rw [partsFrom_skip, rest]

theorem partsFrom_literal {keys : List String} {c : Char} {cs : List Char}
    (other : ∀ key ∈ keys, '\x7d' ∉ key.toList → ¬ (Part.token key).written <+: c :: cs) :
    partsFrom keys 0 (c :: cs) = .literal c :: partsFrom keys 0 cs := by
  have none : (if c = '\x7b' then key? keys cs else none) = none := by
    split
    · next opening =>
      rw [Option.eq_none_iff_forall_ne_some]
      intro key found
      obtain ⟨listed, free, rest, rfl⟩ := key?_eq_some_iff.mp found
      exact other key listed free ⟨rest, by rw [written_append, opening]⟩
    · rfl
  rw [partsFrom, none]

/-- What is found in a text is what the text is split into. -/
theorem Split.partsFrom_eq {keys : List String} {cs : List Char} {parts : List Part}
    (split : Split keys cs parts) : partsFrom keys 0 cs = parts := by
  induction split with
  | nil => rfl
  | token listed free _ ih => rw [partsFrom_token listed free, ih]
  | literal other _ ih => rw [partsFrom_literal other, ih]

theorem split_partsFrom (keys : List String) (cs : List Char) :
    Split keys cs (partsFrom keys 0 cs) := by
  -- after a token the text goes on behind it, so the induction is on the length of the text
  induction size : cs.length using Nat.strongRecOn generalizing cs with
  | _ n ih =>
  cases cs with
  | nil => exact .nil
  | cons c cs =>
    by_cases there : ∃ key ∈ keys, '\x7d' ∉ key.toList ∧ (Part.token key).written <+: c :: cs
    · obtain ⟨key, listed, free, rest, split⟩ := there
      rw [← split, partsFrom_token listed free]
      refine .token listed free (ih _ ?_ rest rfl)
      rw [← size, ← split, List.length_append, Part.written, List.length_cons]
      omega
    · have other : ∀ key ∈ keys, '\x7d' ∉ key.toList → ¬ (Part.token key).written <+: c :: cs :=
        fun key listed free here => there ⟨key, listed, free, here⟩
      rw [partsFrom_literal other]
      exact .literal other (ih _ (by simp [← size]) cs rfl)

theorem split_parts (keys : List String) (template : String) :
    Split keys template.toList (parts keys template) :=
  split_partsFrom keys template.toList

/-! ## What the parts are -/

section

variable {keys : List String} {cs : List Char} {ps : List Part}

/-- The parts make up the text. -/
theorem Split.written (split : Split keys cs ps) : ps.flatMap Part.written = cs := by
  induction split with
  | nil => rfl
  | token _ _ _ ih => rw [List.flatMap_cons, ih]
  | literal _ _ ih => rw [List.flatMap_cons, ih, Part.written, List.singleton_append]

theorem Split.listed (split : Split keys cs ps) {key : String} (there : .token key ∈ ps) :
    key ∈ keys := by
  induction split with
  | nil => cases there
  | token listed _ _ ih =>
    rcases List.mem_cons.mp there with same | there
    · cases same
      exact listed
    · exact ih there
  | literal _ _ ih =>
    rcases List.mem_cons.mp there with same | there
    · cases same
    · exact ih there

/-- A key without braces. -/
def BraceFree (key : String) : Prop := '\x7b' ∉ key.toList ∧ '\x7d' ∉ key.toList

/-- A token whose key has no braces does not reach into a text that starts with an opening brace. -/
theorem written_prefix_of_append {key : String} (free : BraceFree key) {c : Char}
    {cs rest : List Char} (reaches : (Part.token key).written <+: c :: cs ++ '\x7b' :: rest) :
    (Part.token key).written <+: c :: cs := by
  rcases List.prefix_or_prefix_of_prefix reaches (List.prefix_append (c :: cs) _) with
    within | ⟨more, beyond⟩
  · exact within
  · cases more with
    | nil => exact ⟨[], by rw [List.append_nil, ← beyond, List.append_nil]⟩
    | cons d more =>
      rw [← beyond, List.prefix_append_right_inj] at reaches
      obtain ⟨_, split⟩ := reaches
      cases split
      -- the brace would be one of the key's own characters
      have inside : '\x7b' ∈ key.toList ++ ['\x7d'] := by
        have tail : cs ++ '\x7b' :: more = key.toList ++ ['\x7d'] := (List.cons.inj beyond).2
        rw [← tail]
        exact List.mem_append_right _ (List.mem_cons_self ..)
      rcases List.mem_append.mp inside with inside | same
      · exact absurd inside free.1
      · exact absurd same (by decide)

/-- If the keys have no braces, a text is split in front of an opening brace. -/
theorem Split.append (braceFree : ∀ key ∈ keys, BraceFree key) (split : Split keys cs ps)
    {rest : List Char} {qs : List Part} (more : Split keys ('\x7b' :: rest) qs) :
    Split keys (cs ++ '\x7b' :: rest) (ps ++ qs) := by
  induction split with
  | nil => exact more
  | token listed free _ ih =>
    rw [List.append_assoc]
    exact .token listed free ih
  | literal other _ ih =>
    exact .literal
      (fun key listed free reaches =>
        other key listed free (written_prefix_of_append (braceFree key listed) reaches)) ih

/-- If the keys have no braces, a listed key in braces is a token wherever it stands. -/
theorem Split.append_token (braceFree : ∀ key ∈ keys, BraceFree key) (split : Split keys cs ps)
    {key : String} (listed : key ∈ keys) {rest : List Char} {qs : List Part}
    (more : Split keys rest qs) :
    Split keys (cs ++ ((Part.token key).written ++ rest)) (ps ++ .token key :: qs) :=
  split.append braceFree (.token listed (braceFree key listed).2 more)

theorem Split.eq (split : Split keys cs ps) {qs : List Part} (other : Split keys cs qs) :
    ps = qs :=
  split.partsFrom_eq.symm.trans other.partsFrom_eq

end

/-! ## Places of tokens -/

theorem written_ne_nil (part : Part) : part.written ≠ [] := by
  cases part <;> exact nofun

/-- A place between two parts is known from the text before it. -/
theorem append_inj_of_written {ps ps' qs qs' : List Part} (same : ps ++ qs = ps' ++ qs')
    (before : ps.flatMap Part.written = ps'.flatMap Part.written) : ps = ps' ∧ qs = qs' := by
  induction ps generalizing ps' with
  | nil =>
    cases ps' with
    | nil => exact ⟨rfl, same⟩
    | cons part ps' =>
      rw [List.flatMap_nil, List.flatMap_cons, eq_comm, List.append_eq_nil_iff] at before
      exact absurd before.1 (written_ne_nil part)
  | cons part ps ih =>
    cases ps' with
    | nil =>
      rw [List.flatMap_nil, List.flatMap_cons, List.append_eq_nil_iff] at before
      exact absurd before.1 (written_ne_nil part)
    | cons part' ps' =>
      obtain ⟨rfl, rest⟩ := List.cons.inj same
      rw [List.flatMap_cons, List.flatMap_cons, List.append_cancel_left_eq] at before
      obtain ⟨rfl, after⟩ := ih rest before
      exact ⟨rfl, after⟩

theorem written_literals (literals : List Char) :
    (literals.map Part.literal).flatMap Part.written = literals := by
  induction literals with
  | nil => rfl
  | cons c cs ih => rw [List.map_cons, List.flatMap_cons, ih, Part.written, List.singleton_append]

/-- If the keys have no braces, a listed key in braces is a token. -/
theorem Split.exists_token {keys : List String} (braceFree : ∀ key ∈ keys, BraceFree key)
    {key : String} (listed : key ∈ keys) {before after : List Char} {ps : List Part}
    (split : Split keys (before ++ ((Part.token key).written ++ after)) ps) :
    ∃ qs rs, ps = qs ++ .token key :: rs ∧ qs.flatMap Part.written = before ∧
      rs.flatMap Part.written = after := by
  have left := split_partsFrom keys before
  have right := split_partsFrom keys after
  exact ⟨_, _, split.eq (left.append_token braceFree listed right), left.written, right.written⟩

/-- If the keys have no braces, no listed key in braces stands among literals. -/
theorem Split.not_among_literals {keys : List String} {cs : List Char} {ps : List Part}
    (split : Split keys cs ps) (braceFree : ∀ key ∈ keys, BraceFree key) {key : String}
    (listed : key ∈ keys) {before after : List Part} {literals : List Char}
    (run : ps = before ++ (literals.map .literal ++ after)) :
    ¬ (Part.token key).written <:+: literals := by
  rintro ⟨left, right, rfl⟩
  have text : cs = (before.flatMap Part.written ++ left) ++
      ((Part.token key).written ++ (right ++ after.flatMap Part.written)) := by
    rw [← split.written, run]
    simp only [List.flatMap_append, written_literals, List.append_assoc]
  rw [text] at split
  obtain ⟨qs, rs, found, place, _⟩ := split.exists_token braceFree listed
  -- the token and the first of its characters would be parts at one place
  have both : (before ++ left.map .literal) ++
      (((Part.token key).written ++ right).map .literal ++ after) = qs ++ .token key :: rs := by
    rw [← found, run]
    simp only [List.map_append, List.append_assoc]
  have same : ((Part.token key).written ++ right).map .literal ++ after = .token key :: rs := by
    refine (append_inj_of_written both ?_).2
    rw [place, List.flatMap_append, written_literals]
  cases same

/-! ## Putting values in -/

/-- What stands for a part: a literal stands for itself, and for a token the first value under its
    key. -/
inductive Filled (values : Values) : Part → List Char → Prop
  | literal (c : Char) : Filled values (.literal c) [c]
  | token {before after : Values} {key value : String} :
      values = before ++ (key, value) :: after → key ∉ before.map Prod.fst →
      Filled values (.token key) value.toList

/-- A text that is made of parts, each replaced on its own. -/
def Rendered (values : Values) (parts : List Part) (output : String) : Prop :=
  ∃ pieces, List.Forall₂ (Filled values) parts pieces ∧ output.toList = pieces.flatten

theorem exists_first {values : Values} {key : String} (listed : key ∈ values.map Prod.fst) :
    ∃ before value after, values = before ++ (key, value) :: after ∧
      key ∉ before.map Prod.fst ∧ values.lookup key = some value := by
  induction values with
  | nil => cases listed
  | cons entry rest ih =>
    obtain ⟨k, v⟩ := entry
    by_cases here : key = k
    · subst here
      exact ⟨[], v, rest, rfl, List.not_mem_nil, by simp⟩
    · rw [List.map_cons, List.mem_cons] at listed
      obtain ⟨before, value, after, rfl, first, found⟩ := ih (listed.resolve_left here)
      refine ⟨(k, v) :: before, value, after, rfl, ?_, by rw [lookup_cons_of_ne here, found]⟩
      rw [List.map_cons, List.mem_cons, not_or]
      exact ⟨here, first⟩

theorem filled_fill {values : Values} {part : Part}
    (listed : ∀ key, part = .token key → key ∈ values.map Prod.fst) :
    Filled values part (part.fill values) := by
  cases part with
  | literal c => exact .literal c
  | token key =>
    obtain ⟨before, value, after, split, first, found⟩ := exists_first (listed key rfl)
    rw [Part.fill, found]
    exact .token split first

theorem rendered_render (template : String) (values : Values) :
    Rendered values (parts (values.map Prod.fst) template) (render template values) := by
  have split := split_parts (values.map Prod.fst) template
  refine ⟨(parts (values.map Prod.fst) template).map (Part.fill values), ?_, ?_⟩
  · rw [List.forall₂_map_right_iff, List.forall₂_same]
    exact fun part there => filled_fill fun key same => split.listed (same ▸ there)
  · rw [render, String.toList_ofList, List.flatMap_def]

/-- Values that are the tokens of their keys leave a template as it is. -/
theorem render_tokens {values : Values}
    (tokens : ∀ entry ∈ values, entry.2.toList = (Part.token entry.1).written)
    (template : String) : render template values = template := by
  have split := split_parts (values.map Prod.fst) template
  have same : ∀ part ∈ parts (values.map Prod.fst) template,
      part.fill values = part.written := by
    intro part there
    cases part with
    | literal => rfl
    | token key =>
      obtain ⟨before, value, after, whole, _, found⟩ := exists_first (split.listed there)
      rw [Part.fill, found]
      refine tokens (key, value) ?_
      rw [whole]
      exact List.mem_append_right _ (List.mem_cons_self ..)
  rw [render, List.flatMap_congr same, split.written, String.ofList_toList]

/-! ## Words in braces

A word in braces is a token if it is a key, and stays as it is if it is none. Either way the text
around it is rendered by itself, if the keys have no braces. -/

/-- A word in braces, as a text. -/
def braced (word : String) : String := "\x7b" ++ word ++ "\x7d"

theorem toList_braced (word : String) : (braced word).toList = (Part.token word).written := by
  simp [braced, Part.written]

/-- A token stands in the template as its key in braces. -/
theorem exists_braced_of_mem {keys : List String} {template key : String}
    (there : .token key ∈ parts keys template) :
    ∃ before after, template = before ++ braced key ++ after := by
  obtain ⟨qs, rs, split⟩ := List.append_of_mem there
  have written := (split_parts keys template).written
  rw [split, List.flatMap_append, List.flatMap_cons] at written
  refine ⟨String.ofList (qs.flatMap Part.written), String.ofList (rs.flatMap Part.written), ?_⟩
  rw [← String.toList_inj]
  simp only [String.toList_append, String.toList_ofList, toList_braced, List.append_assoc]
  exact written.symm

/-- A value makes no difference to a template that does not have its key in braces. -/
theorem render_congr {values values' : Values} {template : String}
    (keys : values.map Prod.fst = values'.map Prod.fst)
    (same : ∀ key, (∃ before after, template = before ++ braced key ++ after) →
      values.lookup key = values'.lookup key) :
    render template values = render template values' := by
  rw [render, render, ← keys]
  congr 1
  refine List.flatMap_congr fun part there => ?_
  cases part with
  | literal => rfl
  | token key => rw [Part.fill, Part.fill, same key (exists_braced_of_mem there)]

/-- Characters that open no brace stand for themselves. -/
theorem Split.literals {keys : List String} {cs rest : List Char} {parts : List Part}
    (plain : '\x7b' ∉ cs) (split : Split keys rest parts) :
    Split keys (cs ++ rest) (cs.map .literal ++ parts) := by
  induction cs with
  | nil => exact split
  | cons c cs ih =>
    rw [List.mem_cons, not_or] at plain
    exact .literal (fun key _ _ reaches => plain.1 (List.cons_prefix_cons.mp reaches).1)
      (ih plain.2)

/-- A word in braces that is no key stands for itself. -/
theorem Split.word {keys : List String} {word : String} (other : word ∉ keys)
    (free : BraceFree word) {rest : List Char} {parts : List Part} (split : Split keys rest parts) :
    Split keys ((Part.token word).written ++ rest)
      ((Part.token word).written.map .literal ++ parts) := by
  have rest' : Split keys (word.toList ++ '\x7d' :: rest)
      ((word.toList ++ ['\x7d']).map .literal ++ parts) := by
    rw [← List.singleton_append, ← List.append_assoc]
    refine split.literals ?_
    rw [List.mem_append, not_or]
    exact ⟨free.1, by decide⟩
  rw [written_append]
  refine .literal (fun key listed keyFree ⟨more, same⟩ => ?_) rest'
  -- a key that stood here would end at the same brace as the word
  rw [written_append] at same
  have ends := beforeBrace?_eq_some_iff.mpr ⟨keyFree, more, (List.cons.inj same).2.symm⟩
  rw [beforeBrace?_eq_some_iff.mpr ⟨free.2, rest, rfl⟩, Option.some_inj, String.toList_inj] at ends
  exact other (ends ▸ listed)

section

variable {values : Values} (braceFree : ∀ key ∈ values.map Prod.fst, BraceFree key)

include braceFree

/-- A word in braces cuts a template into pieces that are rendered by themselves. -/
theorem render_around {before after word shown : String} {parts : List Part}
    (here : Split (values.map Prod.fst) ((Part.token word).written ++ after.toList)
      (parts ++ Template.parts (values.map Prod.fst) after))
    (filled : String.ofList (parts.flatMap (Part.fill values)) = shown) :
    render (before ++ braced word ++ after) values =
      render before values ++ shown ++ render after values := by
  have text : (before ++ braced word ++ after).toList =
      before.toList ++ ((Part.token word).written ++ after.toList) := by
    simp only [String.toList_append, toList_braced, List.append_assoc]
  have whole := split_parts (values.map Prod.fst) (before ++ braced word ++ after)
  rw [written_append] at here text
  rw [text] at whole
  rw [render, whole.eq ((split_parts _ before).append braceFree here), ← filled]
  simp only [render, List.flatMap_append, String.ofList_append, String.append_assoc]

/-- A key in braces is rendered as its value. -/
theorem render_around_key {before after key value : String}
    (found : values.lookup key = some value) :
    render (before ++ braced key ++ after) values =
      render before values ++ value ++ render after values := by
  have listed : key ∈ values.map Prod.fst := by
    by_contra missing
    rw [lookup_eq_none_iff_not_mem.mpr missing] at found
    cases found
  have here : Split (values.map Prod.fst) ((Part.token key).written ++ after.toList)
      ([.token key] ++ Template.parts (values.map Prod.fst) after) :=
    .token listed (braceFree key listed).2 (split_parts _ after)
  refine render_around braceFree here ?_
  rw [List.flatMap_singleton, Part.fill, found, Option.getD_some, String.ofList_toList]

/-- A word in braces that is no key is rendered as it is. -/
theorem render_around_word {before after word : String} (other : word ∉ values.map Prod.fst)
    (free : BraceFree word) :
    render (before ++ braced word ++ after) values =
      render before values ++ braced word ++ render after values := by
  refine render_around braceFree (.word other free (split_parts _ after)) ?_
  have fill : (((Part.token word).written).map Part.literal).flatMap (Part.fill values) =
      (Part.token word).written := by
    rw [List.flatMap_map]
    exact List.flatMap_singleton' _
  rw [fill, ← toList_braced, String.ofList_toList]

end

/-! ## Rendering -/

/-- A template has parts that depend on the keys only. Rendering replaces each part on its own,
    whatever the values are, so that nothing in a value is ever a token. If the keys have no braces,
    the tokens are all the places at which a listed key stands in braces, and none of these is left
    among the literals. Values that are the tokens of their keys, and no values, leave the template
    as it is. -/
theorem render_replaces_at_once (template : String) (keys : List String) :
    ∃ parts : List Part,
      (parts.flatMap Part.written = template.toList ∧ ∀ key, .token key ∈ parts → key ∈ keys) ∧
      (∀ values : Values, values.map Prod.fst = keys →
        Rendered values parts (render template values)) ∧
      ((∀ key ∈ keys, BraceFree key) → ∀ key ∈ keys,
        (∀ before after, template.toList = before ++ (Part.token key).written ++ after →
          ∃ ps qs, parts = ps ++ .token key :: qs ∧ ps.flatMap Part.written = before ∧
            qs.flatMap Part.written = after) ∧
        ∀ ps literals qs, parts = ps ++ (literals.map .literal ++ qs) →
          ¬ (Part.token key).written <:+: literals) ∧
      ∀ values : Values, (∀ entry ∈ values, entry.2.toList = (Part.token entry.1).written) →
        render template values = template := by
  have split := split_parts keys template
  refine ⟨parts keys template, ⟨split.written, fun _ => split.listed⟩, ?_, ?_, ?_⟩
  · rintro values rfl
    exact rendered_render template values
  · intro braceFree key listed
    refine ⟨fun before after text => ?_, fun _ _ _ => split.not_among_literals braceFree listed⟩
    rw [text, List.append_assoc] at split
    exact split.exists_token braceFree listed
  · exact fun values tokens => render_tokens tokens template

/-- A token after an opening brace, and a value that looks like a token. -/
theorem render_replaces_at_once_nested :
    (∀ key ∈ ["field", "value"], BraceFree key) ∧
    ∃ ps qs : List Part, ps.flatMap Part.written = ['\x7b'] ∧
      qs.flatMap Part.written = "\x7d \x7bvalue\x7d \x7b".toList ∧
      ∀ name shown, Rendered [("field", name), ("value", shown)] (ps ++ .token "field" :: qs)
        (render "\x7b\x7bfield\x7d\x7d \x7bvalue\x7d \x7b" [("field", name), ("value", shown)]) := by
  have braceFree : ∀ key ∈ ["field", "value"], BraceFree key := by
    unfold BraceFree
    decide
  obtain ⟨parts, _, rendered, tokens, _⟩ := render_replaces_at_once
    "\x7b\x7bfield\x7d\x7d \x7bvalue\x7d \x7b" ["field", "value"]
  obtain ⟨ps, qs, rfl, before, after⟩ := (tokens braceFree "field" (List.mem_cons_self ..)).1
    ['\x7b'] "\x7d \x7bvalue\x7d \x7b".toList rfl
  exact ⟨braceFree, ps, qs, before, after, fun name shown => rendered _ rfl⟩

end RecordRules.Template
