import AccountAudit.Proofs.Expr.Shape

/-!
# Reading chains

Reading is complete for the grammar of expression text: the text of a chain is read as the tree of
the chain (`parse_text`), and nothing in it is unknown. The proof follows the parts that a text is
taken apart into, which are shorter texts of chains.
-/

namespace AccountAudit
namespace Expr

/-! ## Known trees -/

theorem hasUnknown_ofBinary (op : String) (l r : Expr) :
    (ofBinary op l r).hasUnknown = (l.hasUnknown || r.hasUnknown) := by
  simp [ofBinary, hasUnknown, walk, walkOption, walkAll, kind, head]

theorem hasUnknown_ofUnary (op : String) (e : Expr) :
    (ofUnary op e).hasUnknown = e.hasUnknown := by
  simp [ofUnary, hasUnknown, walk, walkOption, walkAll, kind, head]

theorem any_walkAll (es : List Expr) :
    (walkAll es).any (·.kind == .unknown) = es.any hasUnknown := by
  induction es with
  | nil => rfl
  | cons e rest ih => rw [walkAll, List.any_append, ih, List.any_cons, hasUnknown]

theorem hasUnknown_ofCall (func : String) (args : List Expr) :
    (ofCall func args).hasUnknown = args.any hasUnknown := by
  simp [ofCall, hasUnknown, walk, walkOption, kind, head, ← any_walkAll]

theorem hasUnknown_ofArray (items : List Expr) :
    (ofArray items).hasUnknown = items.any hasUnknown := by
  simp [ofArray, hasUnknown, walk, walkOption, kind, head, ← any_walkAll]

theorem hasUnknown_ofIndex (base : Expr) (bounds : List Expr) (raw : String) :
    (ofIndex base bounds raw).hasUnknown = (base.hasUnknown || bounds.any hasUnknown) := by
  simp [ofIndex, hasUnknown, walk, walkOption, kind, head, ← any_walkAll]

section Group

variable {P : Expr → Prop} (joins : ∀ op l r, P l → P r → P (ofBinary op l r))

theorem cut_forall (level : Level) {e : Expr} {rest : List (BinaryOp × Expr)} (first : P e)
    (others : ∀ joined ∈ rest, P joined.2) :
    (P (cut level e rest).1.1 ∧ ∀ joined ∈ (cut level e rest).1.2, P joined.2) ∧
      ∀ part ∈ (cut level e rest).2, P part.2.1 ∧ ∀ joined ∈ part.2.2, P joined.2 := by
  induction rest generalizing e with
  | nil => simp [cut, first]
  | cons joined rest ih =>
    rcases joined with ⟨op, x⟩
    rw [List.forall_mem_cons] at others
    rcases ih others.1 others.2 with ⟨⟨part, within⟩, parts⟩
    rw [cut]
    dsimp only
    split
    · exact ⟨⟨first, by simp⟩, List.forall_mem_cons.2 ⟨⟨part, within⟩, parts⟩⟩
    · exact ⟨⟨first, List.forall_mem_cons.2 ⟨part, within⟩⟩, parts⟩

include joins

theorem joinRight_induction {e : Expr} {rest : List (BinaryOp × Expr)} (first : P e)
    (others : ∀ joined ∈ rest, P joined.2) : P (joinRight e rest) := by
  induction rest generalizing e with
  | nil => exact first
  | cons joined rest ih =>
    rw [List.forall_mem_cons] at others
    exact joins _ _ _ first (ih others.1 others.2)

theorem joinLeft_induction {e : Expr} {rest : List (BinaryOp × Expr)} (first : P e)
    (others : ∀ joined ∈ rest, P joined.2) : P (joinLeft e rest) := by
  induction rest generalizing e with
  | nil => exact first
  | cons joined rest ih =>
    rw [List.forall_mem_cons] at others
    exact ih (joins _ _ _ first others.1) others.2

/-- What joining preserves holds of joined operands if it holds of them all. -/
theorem group_induction (levels : List Level) {e : Expr} {rest : List (BinaryOp × Expr)}
    (first : P e) (others : ∀ joined ∈ rest, P joined.2) : P (group levels e rest) := by
  induction levels generalizing e rest with
  | nil => exact first
  | cons level tighter ih =>
    rcases cut_forall level first others with ⟨⟨part, within⟩, parts⟩
    -- The parts are cut from the operands, so they satisfy the same and can be grouped.
    have first' := ih part within
    have others' : ∀ joined ∈ (cut level e rest).2.map (fun part =>
        (part.1, group tighter part.2.1 part.2.2)), P joined.2 := by
      intro joined member
      rcases List.mem_map.1 member with ⟨part, inside, rfl⟩
      exact ih (parts part inside).1 (parts part inside).2
    rw [group]
    dsimp only
    split
    · exact joinLeft_induction joins first' others'
    · exact joinRight_induction joins first' others'

end Group

theorem Chain.hasUnknown_tree {c : Chain} (known : ∀ t ∈ c.terms, t.tree.hasUnknown = false) :
    c.tree.hasUnknown = false := by
  rw [terms, List.forall_mem_cons] at known
  apply group_induction (P := fun e => e.hasUnknown = false)
  · intro op l r left right
    rw [hasUnknown_ofBinary, left, right]
    rfl
  · exact known.1
  · intro joined member
    rcases List.mem_map.1 member with ⟨⟨op, t⟩, inside, rfl⟩
    exact known.2 t (List.mem_map_of_mem inside)

theorem any_hasUnknown {cs : List Chain}
    (known : ∀ c ∈ cs, ∀ t ∈ c.terms, t.tree.hasUnknown = false) :
    (cs.map Chain.tree).any hasUnknown = false := by
  rw [List.any_eq_false]
  intro e member
  rcases List.mem_map.1 member with ⟨c, inside, rfl⟩
  simp [Chain.hasUnknown_tree (known c inside)]

/-- Nothing is unknown in the tree of an operand. -/
theorem hasUnknown_of_isOperand {form : Form} {text : List Char} {tree : Expr}
    (h : IsOperand form text tree) : tree.hasUnknown = false := by
  induction h with
  | path | bool | integer | string | emptyArray => rfl
  | negation _ _ ih => rw [hasUnknown_ofUnary, ih]
  | paren _ _ ih => exact Chain.hasUnknown_tree ih
  | call _ _ _ _ _ ih => rw [hasUnknown_ofCall, any_hasUnknown ih]
  | array _ _ _ ih => rw [hasUnknown_ofArray, any_hasUnknown ih]
  | index _ _ _ _ _ ih ihs =>
    rw [hasUnknown_ofIndex, ih, List.any_cons, Chain.hasUnknown_tree ihs]
    rfl
  | borrow _ _ _ _ ih => exact ih

/-! ## Reading -/

theorem mapM_parseChars {cs : List Chain}
    (reads : ∀ c ∈ cs, parseChars c.text = .ok c.tree) :
    (cs.map Chain.text).mapM parseChars = .ok (cs.map Chain.tree) := by
  induction cs with
  | nil => rfl
  | cons c rest ih =>
    rw [List.forall_mem_cons] at reads
    rw [List.map_cons, List.mapM_cons, reads.1, ih reads.2]
    rfl

theorem parseChars_text {c : Chain} (h : c.IsWritten) : parseChars c.text = .ok c.tree := by
  generalize size : c.text.length = n
  induction n using Nat.strongRecOn generalizing c with
  | ind n ih =>
    rcases takenApart h with ⟨shape, parts, read, texts, written, tree⟩
    -- Each part is a shorter chain, so the induction hypothesis reads it.
    have reads : ∀ part ∈ parts, parseChars part.text = .ok part.tree := by
      intro part member
      have isPart : part.text ∈ shape.parts := by
        rw [texts]
        exact List.mem_map_of_mem member
      have shorter : part.text.length < n := size ▸ length_lt_of_mem_parts read isPart
      exact ih part.text.length shorter (written part member) rfl
    rw [parseChars_eq, read]
    simp only [Except.bind, texts, mapM_parseChars reads, Except.map, tree]

/-- The text of a chain is read as the tree of the chain, and all of it is understood. -/
theorem parse_text {c : Chain} (h : c.IsWritten) :
    parse (String.ofList c.text) = .ok c.tree ∧ c.tree.hasUnknown = false := by
  constructor
  · rw [parse, String.toList_ofList]
    exact parseChars_text h
  · exact Chain.hasUnknown_tree fun t member => hasUnknown_of_isOperand (h.operands t member)

/-- The chain `a - 1 - &f( b ) == !c`. -/
def comparedDifference : Chain where
  first := ⟨.path, ['a'], ofPath "a", [], [' ']⟩
  rest :=
    [(.sub, ⟨.literal, ['1'], ofValue (.int 1), [' '], [' ']⟩),
      (.sub, ⟨.borrow, ['&', 'f', '(', ' ', 'b', ' ', ')'], ofCall "f" [ofPath "b"], [' '], [' ']⟩),
      (.eq, ⟨.negation, ['!', 'c'], ofUnary "!" (ofPath "c"), [' '], []⟩)]

theorem parse_text_comparedDifference :
    comparedDifference.IsWritten ∧
      String.ofList comparedDifference.text = "a - 1 - &f( b ) == !c" ∧
      parse "a - 1 - &f( b ) == !c" = .ok (ofBinary "=="
        (ofBinary "-" (ofBinary "-" (ofPath "a") (ofValue (.int 1))) (ofCall "f" [ofPath "b"]))
        (ofUnary "!" (ofPath "c"))) := by
  have path : ∀ c ∈ ['a', 'b', 'c'], IsOperand .path [c] (ofPath (String.ofList [c])) := by
    intro c member
    have isPath : isPath [c] = true := by
      have table : ['a', 'b', 'c'].all (fun c => Expr.isPath [c]) = true := by decide
      exact List.all_eq_true.1 table c member
    exact .path isPath (by simp) (by simp)
  have one : IsOperand .literal ['1'] (ofValue (.int 1)) :=
    @IsOperand.integer false '1' [] [] (by decide) (by simp) (.inl rfl) (by decide)
  have argument : (Chain.mk ⟨.path, ['b'], ofPath "b", [' '], [' ']⟩ []).IsWritten :=
    isWritten_single (path 'b' (by simp)) rfl rfl
  have call : IsOperand .call ['f', '(', ' ', 'b', ' ', ')'] (ofCall "f" [ofPath "b"]) :=
    @IsOperand.call ['f'] [⟨⟨.path, ['b'], ofPath "b", [' '], [' ']⟩, []⟩] (by decide)
      (by decide) (by simp) (by simpa using argument.operands) (by simpa using argument.spaced)
  have borrowed : IsOperand .borrow ['&', 'f', '(', ' ', 'b', ' ', ')'] (ofCall "f" [ofPath "b"]) :=
    @IsOperand.borrow [] _ _ _ rfl rfl (by decide) call
  have negated : IsOperand .negation ['!', 'c'] (ofUnary "!" (ofPath "c")) :=
    @IsOperand.negation [] _ _ _ rfl (path 'c' (by simp))
  have written : comparedDifference.IsWritten := by
    refine ⟨?_, ⟨by decide, by decide⟩, fun _ => by decide, ?_⟩
    · simp only [Chain.terms, comparedDifference, List.map_cons, List.map_nil, List.forall_mem_cons]
      exact ⟨path 'a' (by simp), one, borrowed, negated, by simp⟩
    · simp [comparedDifference, Unmut, mutSign]
  exact ⟨written, rfl, (parse_text written).1⟩

/-- The path `mut`, borrowed and compared: `&mut == a`. -/
def comparedMut : Chain where
  first := ⟨.borrow, ['&', 'm', 'u', 't'], ofPath "mut", [], [' ']⟩
  rest := [(.eq, ⟨.path, ['a'], ofPath "a", [' '], []⟩)]

/-- A path `mut` between `&` and a space is not read as an operand. -/
theorem parse_comparedMut :
    (∀ t ∈ comparedMut.terms,
        IsOperand t.form t.text t.tree ∧ isGap t.before = true ∧ isGap t.after = true) ∧
      String.ofList comparedMut.text = "&mut == a" ∧
      comparedMut.tree = ofBinary "==" (ofPath "mut") (ofPath "a") ∧
      parse "&mut == a" = .ok (ofRaw "&mut == a") ∧
      parse "&mut == a" ≠ .ok comparedMut.tree := by
  have borrowed : IsOperand .borrow ['&', 'm', 'u', 't'] (ofPath "mut") :=
    @IsOperand.borrow [] _ _ _ rfl rfl (by decide)
      (.path (by decide) (by decide) (by decide))
  have path : IsOperand .path ['a'] (ofPath "a") :=
    .path (by decide) (by decide) (by decide)
  have read : parse "&mut == a" = .ok (ofRaw "&mut == a") := by decide +kernel
  have tree : comparedMut.tree = ofBinary "==" (ofPath "mut") (ofPath "a") := by decide
  refine ⟨?_, rfl, tree, read, ?_⟩
  · simp only [Chain.terms, comparedMut, List.map_cons, List.map_nil, List.forall_mem_cons]
    exact ⟨⟨borrowed, rfl, rfl⟩, ⟨path, rfl, rfl⟩, by simp⟩
  · rw [read, tree]
    decide

end Expr
end AccountAudit
