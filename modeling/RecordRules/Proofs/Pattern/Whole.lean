/-
  Patterns and whole texts. A pattern is compiled inside a wrapping that holds its branches
  together. Where the pattern can be read alone too, it accepts the texts that its expression covers
  from end to end. A pattern that is read inside the wrapping only has a parenthesis too many, and
  closes the wrapping itself.
-/
import RecordRules.Pattern
import RecordRules.Proofs.Pattern.Branches

namespace RecordRules.Pattern

/-- The tree of a wrapped pattern, without places. -/
def wrappedTree (tree : Tree) : Tree :=
  .concat .unplaced
    [.anchor .unplaced .startLine, .group .unplaced [] false tree.bare, .anchor .unplaced .endLine]

namespace Reader

/-! ## Reading -/

/-- The opening of the wrapping opens a group that captures nothing. -/
theorem openGroup_wrapping (text : List Char) (pos : Position) :
    openGroup { rest := '(' :: '?' :: ':' :: text, pos } =
      .ok (.group [] false, { rest := text, pos := ((pos.next '(').next '?').next ':' }) := by
  have no_word : ∀ word ∈ ["?=", "?!", "?<=", "?<!"],
      word.toList.isPrefixOf ('?' :: ':' :: text) = false := by
    simp [List.isPrefixOf]
  rw [openGroup_eq, bind_charSpan, bind_bump, bind_skipBlanks, bind_ok (refuse_of_other _ no_word),
    bind_place]
  rfl

section

variable (fuel : Nat) (start : Position) (branches : List Tree) (branchStart : Position)
  (parts : List Tree)

theorem choice_caret (text : List Char) (pos : Position) :
    choice (fuel + 1) start branches branchStart parts { rest := '^' :: text, pos } =
      choice fuel start branches branchStart (.anchor ⟨pos, pos.next '^'⟩ .startLine :: parts)
        { rest := text, pos := pos.next '^' } := by
  rw [choice_part (c := '^') rfl (by decide)]
  rfl

theorem choice_wrapping (text : List Char) (pos : Position) :
    let inner := ((pos.next '(').next '?').next ':'
    choice (fuel + 1) start branches branchStart parts { rest := '(' :: '?' :: ':' :: text, pos } =
      (choice fuel inner [] inner [] >>= fun tree =>
        closeGroup fuel start branches branchStart parts ⟨pos, pos.next '('⟩ false [] false tree)
        { rest := text, pos := inner } := by
  rw [choice_group rfl]
  exact bind_ok (openGroup_wrapping text pos)

theorem choice_dollar (pos : Position) (names : List (String × Span)) :
    ∃ stop span t,
      choice (fuel + 2) start branches branchStart parts { rest := ['$'], pos, names } =
        .ok (choiceTree start stop
          (branchTree branchStart stop (.anchor span .endLine :: parts) :: branches), t) := by
  rw [choice_part (c := '$') rfl (by decide)]
  exact ⟨_, _, _, rfl⟩

end

/-- A pattern is read alone if all of it is branches. -/
theorem whole_alone {text : List Char} {tree : Tree} {t : Scan}
    (branches : choice (text.length + 1) .start [] .start [] { rest := text } = .ok (tree, t)) :
    whole { rest := text } =
      if t.rest = [] then .ok (tree, t)
      else .error { kind := .groupUnopened, span := t.charSpan } := by
  unfold whole
  rw [bind_get, bind_ok branches]
  cases rest : t.rest <;> simp [rest, Except.map]

/-- A pattern that is read inside the wrapping is read alone too, or has a parenthesis too many. -/
theorem whole_wrapped {text : List Char} {tree' : Tree} {t' : Scan}
    (run : whole { rest := '^' :: '(' :: '?' :: ':' :: (text ++ closing) } = .ok (tree', t')) :
    (∃ tree t, whole { rest := text } = .ok (tree, t) ∧ tree.Ordered ∧
      tree'.bare = wrappedTree tree) ∨
    ∃ span, whole { rest := text } = .error { kind := .groupUnopened, span } := by
  unfold whole at run
  rw [bind_get] at run
  obtain ⟨⟨whole', u'⟩, wrapped, finished⟩ :=
    bind_eq_ok_iff.mp (show (choice _ _ _ _ _ _ >>= _) = _ from run)
  have length : (text ++ closing).length = text.length + 2 := List.length_append
  simp only [List.length_cons, length] at wrapped
  rw [choice_caret, choice_wrapping] at wrapped
  obtain ⟨⟨inner', v'⟩, inside_group, closed⟩ :=
    bind_eq_ok_iff.mp (show (choice _ _ _ _ _ _ >>= _) = _ from wrapped)
  have inside (pos : Position) :
      Inside text.length { rest := text } { rest := text ++ closing, pos } :=
    ⟨rfl, rfl, rfl, le_rfl⟩
  obtain swallowed | ⟨inner, v, alone, ⟨alike, ordered⟩, inside⟩ :=
    choice_follows .start _ .nil .start _ .nil (inside _) (Nat.lt_succ_self _) inner' v'
      inside_group
  · simp [closeGroup, show v'.rest = [] from swallowed] at closed
  · rw [whole_alone alone]
    split
    · refine .inl ⟨inner, v, rfl, ordered, ?_⟩
      obtain ⟨rest', pos, skipsBlanks, names⟩ := v'
      obtain rfl : rest' = closing := by simpa [‹v.rest = []›] using inside.rest
      obtain ⟨stop, span, t, dollar⟩ := choice_dollar (text.length + 3) .start [] .start
        [.group ⟨Position.start.next '^', pos.next ')'⟩ [] false inner',
          .anchor ⟨.start, Position.start.next '^'⟩ .startLine] (pos.next ')') names
      obtain ⟨made, _⟩ := Prod.mk.inj (Except.ok.inj (dollar.symm.trans closed))
      have kept : whole' = tree' := by
        cases rest : u'.rest <;> simp [rest, Except.map] at finished
        exact finished.1
      rw [← kept, ← made]
      exact congrArg (fun inner => Tree.concat .unplaced [.anchor .unplaced .startLine,
        .group .unplaced [] false inner, .anchor .unplaced .endLine]) alike.symm
    · exact .inr ⟨_, rfl⟩

end Reader

/-! ## Compiling -/

theorem toList_wrapped (text : String) :
    (wrapped text).toList = '^' :: '(' :: '?' :: ':' :: (text.toList ++ closing) := by
  simp [wrapped, closing, String.toList_append]

theorem read_eq_ok_iff {text : String} {tree : Tree} :
    Tree.read text = .ok tree ↔
      (∃ t, Reader.whole { rest := text.toList } = .ok (tree, t)) ∧ tree.levels ≤ nestLimit := by
  unfold Tree.read
  rw [bind_eq_ok_iff]
  simp only [Prod.exists, ← Tree.tooDeep_eq_none_iff]
  constructor
  · rintro ⟨tree', t, whole, shallow⟩
    cases deep : tree'.tooDeep nestLimit with
    | some span => simp [deep] at shallow
    | none =>
      obtain rfl : tree' = tree := by simpa [deep, pure, Except.pure] using shallow
      exact ⟨⟨t, whole⟩, deep⟩
  · rintro ⟨⟨t, whole⟩, shallow⟩
    exact ⟨tree, t, whole, by rw [shallow]; rfl⟩

theorem levels_wrappedTree (tree : Tree) : (wrappedTree tree).levels = tree.levels + 2 := by
  simp [wrappedTree, Tree.levels, Tree.levelsOfAll, tree.levels_bare]

/-- A wrapped pattern is read as its tree between two anchors. A pattern that cannot be read alone
    has a parenthesis too many. -/
theorem read_wrapped {text : String} {tree' : Tree} (run : Tree.read (wrapped text) = .ok tree') :
    (∃ tree, Tree.read text = .ok tree ∧ tree.Ordered ∧ tree'.bare = wrappedTree tree) ∨
      ∃ span, Tree.read text = .error { kind := .groupUnopened, span } := by
  obtain ⟨⟨t', whole'⟩, shallow⟩ := read_eq_ok_iff.mp run
  rw [toList_wrapped] at whole'
  obtain ⟨tree, t, alone, ordered, same⟩ | ⟨span, unopened⟩ := Reader.whole_wrapped whole'
  · refine .inl ⟨tree, read_eq_ok_iff.mpr ⟨⟨t, alone⟩, ?_⟩, ordered, same⟩
    rw [← tree'.levels_bare, same, levels_wrappedTree] at shallow
    omega
  · exact .inr ⟨span, bind_eq_error_iff.mpr (.inl unopened)⟩

/-- The anchors of the wrapping are the start and the end of the text, whatever the pattern says of
    lines. -/
theorem matcher_wrappedTree (tree : Tree) :
    (wrappedTree tree).matcher {} = (tree.bare.matcher {}).map fun (e, _) =>
      (.concat [.look .start, e, .look .stop], {}) := by
  have no_switches : ({} : Flags).apply [] = {} := rfl
  simp only [wrappedTree, Tree.matcher, Tree.matchers, pure_bind, no_switches]
  cases tree.bare.matcher {} <;> rfl

/-- An expression takes no more bytes than the expression for whole texts. -/
theorem bytes_le_bytes_whole (backwards : Bool) (e : Matcher) :
    e.bytes backwards ≤ Matcher.bytes backwards (.concat [.look .start, e, .look .stop]) := by
  cases e <;> simp [Expr.concat, Expr.andThen, Matcher.bytes] <;> omega

theorem fits_of_whole {e : Matcher}
    (fits : Matcher.fits (.concat [.look .start, e, .look .stop]) = true) : e.fits = true := by
  simp only [Matcher.fits, Bool.and_eq_true, decide_eq_true_eq] at fits ⊢
  exact ⟨(bytes_le_bytes_whole false e).trans fits.1, (bytes_le_bytes_whole true e).trans fits.2⟩

theorem ofText_eq_ok_iff {text : String} {e : Matcher} :
    Matcher.ofText text = .ok e ↔
      ∃ tree f, Tree.read text = .ok tree ∧ tree.matcher {} = .ok (e, f) ∧ e.fits = true := by
  simp only [Matcher.ofText, bind_eq_ok_iff, mapError_eq_ok_iff, Prod.exists]
  constructor
  · rintro ⟨tree, read, e', f, meant, sized⟩
    split at sized
    · cases sized
      exact ⟨tree, f, read, meant, ‹_›⟩
    · cases sized
  · rintro ⟨tree, f, read, meant, fits⟩
    exact ⟨tree, read, e, f, meant, if_pos fits⟩

/-- A pattern that compiles is an expression by itself and accepts the texts that its expression
    covers from the first to the last character, or it has a parenthesis too many. -/
theorem compile_whole_or_unopened {text : String} {p : Pattern} (compiled : compile text = .ok p) :
    (∃ e, Matcher.ofText text = .ok e ∧
      ∀ t : String, p.accepts t = true ↔ e.Covers t.toList 0 t.toList.length) ∨
    ∃ span, Matcher.ofText text = .error (.fault text { kind := .groupUnopened, span }) := by
  obtain ⟨e', wrapped, rfl⟩ := map_eq_ok_iff.mp compiled
  obtain ⟨tree', f', read, meant, fits⟩ := ofText_eq_ok_iff.mp wrapped
  obtain ⟨tree, alone, ordered, same⟩ | ⟨span, unopened⟩ := read_wrapped read
  · have bare_meant : (wrappedTree tree).matcher {} = .ok (e', f') :=
      (same ▸ tree'.sameValue_matcher {}).eq_ok meant
    rw [matcher_wrappedTree] at bare_meant
    obtain ⟨⟨e, f⟩, bare_tree, made⟩ := map_eq_ok_iff.mp bare_meant
    obtain ⟨rfl, rfl⟩ := Prod.mk.inj made
    have meant : tree.matcher {} = .ok (e, f) :=
      SameValue.eq_ok (tree.sameValue_matcher {}).symm bare_tree
    refine .inl ⟨e, ofText_eq_ok_iff.mpr ⟨tree, f, alone, meant, fits_of_whole fits⟩, fun t => ?_⟩
    exact Matcher.findsIn_whole (tree.ordered_matcher ordered meant) t
  · refine .inr ⟨span, ?_⟩
    simp only [Matcher.ofText, bind_eq_error_iff, mapError_eq_error_iff]
    exact .inl ⟨_, unopened, rfl⟩

end RecordRules.Pattern
