import AccountAudit.Proofs.Spelling.Extraction

/-!
# Paths in documents of expressions

Attributes keep what a document says, so an edit of their paths is an edit of documents: in a table that
is a node, the text of its path may get the way through the context, and the tables of its operands and
arguments may be edited in turn (`Value.Respells`). What is read from the edited document is the
expression with these paths edited (`ReadsRespelled.of_respells`), so that every such edit is one of
those that facts do not depend on.
-/

namespace AccountAudit

/-! ## Edits of documents -/

mutual

/-- The document of an expression, some of whose paths have got the way through the context. -/
inductive Value.Respells : Value → Value → Prop where
  | kept (v : Value) : Value.Respells v v
  | node {entries entries' : List (Scalar × Value)}
      (fields : Value.FieldsRespell (Value.lookup (.text "kind") entries) entries entries') :
      Value.Respells (.table entries) (.table entries')

/-- The fields of a node, of which `kind?` is the kind. -/
inductive Value.FieldsRespell :
    Option Value → List (Scalar × Value) → List (Scalar × Value) → Prop where
  | nil (kind? : Option Value) : Value.FieldsRespell kind? [] []
  | kept {kind? : Option Value} (entry : Scalar × Value) {rest rest' : List (Scalar × Value)}
      (others : Value.FieldsRespell kind? rest rest') :
      Value.FieldsRespell kind? (entry :: rest) (entry :: rest')
  | path (path : String) (short : ¬ Expr.accountsPrefix.toList <+: path.toList)
      {rest rest' : List (Scalar × Value)}
      (others : Value.FieldsRespell (some (.text "path")) rest rest') :
      Value.FieldsRespell (some (.text "path")) ((.text "path", .text path) :: rest)
        ((.text "path", .text (Expr.accountsPrefix ++ path)) :: rest')
  | operand {kind? : Option Value} (name : String) (side : name = "lhs" ∨ name = "rhs")
      {v v' : Value} (edited : Value.Respells v v') {rest rest' : List (Scalar × Value)}
      (others : Value.FieldsRespell kind? rest rest') :
      Value.FieldsRespell kind? ((.text name, v) :: rest) ((.text name, v') :: rest')
  | args {kind? : Option Value} {items items' : List Value}
      (edited : Value.ItemsRespell items items') {rest rest' : List (Scalar × Value)}
      (others : Value.FieldsRespell kind? rest rest') :
      Value.FieldsRespell kind? ((.text "args", .list items) :: rest)
        ((.text "args", .list items') :: rest')

/-- The arguments of a node. -/
inductive Value.ItemsRespell : List Value → List Value → Prop where
  | nil : Value.ItemsRespell [] []
  | cons {v v' : Value} (edited : Value.Respells v v') {rest rest' : List Value}
      (others : Value.ItemsRespell rest rest') : Value.ItemsRespell (v :: rest) (v' :: rest')

end

theorem Value.Respells.eq_null_iff {v v' : Value} (h : v.Respells v') :
    v' = .null ↔ v = .null := by
  cases h with
  | kept => rfl
  | node => simp

/-! ## Fields of a node -/

theorem Value.lookup_cons_congr (key key' : Scalar) {v : Value}
    {rest rest' : List (Scalar × Value)} (same : lookup key rest' = lookup key rest) :
    lookup key ((key', v) :: rest') = lookup key ((key', v) :: rest) := by
  rw [lookup, lookup, same]

theorem Value.lookup_cons_ne {key key' : Scalar} (ne : key' ≠ key) (v : Value)
    (rest : List (Scalar × Value)) : lookup key ((key', v) :: rest) = lookup key rest := by
  rw [lookup, if_neg ne]

/-- No field changes but the path, the operands and the arguments. -/
theorem Value.FieldsRespell.lookup_eq {name : String}
    (other : name ∉ ["path", "lhs", "rhs", "args"]) :
    {kind? : Option Value} → {entries entries' : List (Scalar × Value)} →
    FieldsRespell kind? entries entries' →
    lookup (.text name) entries' = lookup (.text name) entries
  | _, _, _, .nil _ => rfl
  | _, _, _, .kept entry others => lookup_cons_congr _ _ (lookup_eq other others)
  | _, _, _, .path _ _ others => by
    have ne : Scalar.text "path" ≠ .text name := by simp_all [eq_comm]
    rw [lookup_cons_ne ne, lookup_cons_ne ne, lookup_eq other others]
  | _, _, _, .operand side given _ others => by
    have ne : Scalar.text side ≠ .text name := by
      rcases given with rfl | rfl <;> simp_all [eq_comm]
    rw [lookup_cons_ne ne, lookup_cons_ne ne, lookup_eq other others]
  | _, _, _, .args _ others => by
    have ne : Scalar.text "args" ≠ .text name := by simp_all [eq_comm]
    rw [lookup_cons_ne ne, lookup_cons_ne ne, lookup_eq other others]

/-- The text of the path stays, or the node is a path and the text gets the way through the context. -/
theorem Value.FieldsRespell.lookup_path : {kind? : Option Value} →
    {entries entries' : List (Scalar × Value)} → FieldsRespell kind? entries entries' →
    lookup (.text "path") entries' = lookup (.text "path") entries ∨
      kind? = some (.text "path") ∧ ∃ path, lookup (.text "path") entries = some (.text path) ∧
        ¬ Expr.accountsPrefix.toList <+: path.toList ∧
        lookup (.text "path") entries' = some (.text (Expr.accountsPrefix ++ path))
  | _, _, _, .nil _ => .inl rfl
  | _, _, _, .kept (key, v) others => by
    by_cases here : key = .text "path"
    · simp [lookup, here]
    · simpa [lookup, here] using lookup_path others
  | _, _, _, .path written short _ => .inr ⟨rfl, written, by simp [lookup], short, by simp [lookup]⟩
  | _, _, _, .operand side given _ others => by
    have ne : ¬ side = "path" := by rcases given with rfl | rfl <;> decide
    simpa [lookup, ne] using lookup_path others
  | _, _, _, .args _ others => by simpa [lookup] using lookup_path others

/-! ## Reading -/

namespace Expr

open Schema

theorem read_table_eq_ok {entries : List (Scalar × Value)} {e : Expr} :
    read (.table entries) = .ok e ↔
      ∃ kind path value op lhs rhs func args raw,
        required "kind" readKind (.table entries) = .ok kind ∧
        withDefault "path" "" text (.table entries) = .ok path ∧
        withDefault "value" .null anything (.table entries) = .ok value ∧
        withDefault "op" "" text (.table entries) = .ok op ∧
        operandIn "lhs" entries = .ok lhs ∧ operandIn "rhs" entries = .ok rhs ∧
        withDefault "func" "" text (.table entries) = .ok func ∧
        argsIn entries = .ok args ∧
        withDefault "raw" "" text (.table entries) = .ok raw ∧
        e = .node { kind, path, value, op, func, raw } lhs rhs args := by
  rw [read]
  simp only [map_eq_ok_iff, Checked.and_eq_ok, Prod.exists]
  constructor
  · rintro ⟨kind, path, value, op, lhs, rhs, func, args, raw, read, rfl⟩
    exact ⟨kind, path, value, op, lhs, rhs, func, args, raw, by simpa [and_assoc] using read⟩
  · rintro ⟨kind, path, value, op, lhs, rhs, func, args, raw, read⟩
    exact ⟨kind, path, value, op, lhs, rhs, func, args, raw,
      by simpa [and_assoc, eq_comm] using read⟩

theorem required_congr {α : Type} {read : Value → Checked α} {name : String}
    {entries entries' : List (Scalar × Value)} {a : α}
    (same : Value.lookup (.text name) entries' = Value.lookup (.text name) entries)
    (made : required name read (.table entries) = .ok a) :
    required name read (.table entries') = .ok a := by
  rw [required, Value.field?] at made ⊢
  rw [same]
  cases given : Value.lookup (.text name) entries with
  | none => rw [given] at made; cases made
  | some v => rwa [given] at made

theorem withDefault_congr {α : Type} {default : α} {read : Value → Checked α} {name : String}
    {entries entries' : List (Scalar × Value)}
    (same : Value.lookup (.text name) entries' = Value.lookup (.text name) entries) :
    withDefault name default read (.table entries') =
      withDefault name default read (.table entries) := by
  rw [withDefault, Value.field?, same, withDefault, Value.field?]

/-- The parts of the node that is read, whose path may have got the way through the context. -/
theorem exists_path {entries entries' : List (Scalar × Value)} {kind : Kind} {path : String}
    (fields : Value.FieldsRespell (Value.lookup (.text "kind") entries) entries entries')
    (isKind : required "kind" readKind (.table entries) = .ok kind)
    (made : withDefault "path" "" text (.table entries) = .ok path)
    (value : Value) (op func raw : String) :
    ∃ path', withDefault "path" "" text (.table entries') = .ok path' ∧
      Head.Respells { kind, path, value, op, func, raw }
        { kind, path := path', value, op, func, raw } := by
  rcases fields.lookup_path with same | ⟨isPath, written, given, short, given'⟩
  · exact ⟨path, (withDefault_congr same).trans made, .kept _⟩
  -- Only the path of a node that is a path is edited, so this is the kind that is read.
  · have kindPath : Kind.path = kind := by
      rw [required, Value.field?, isPath] at isKind
      exact Except.ok.inj isKind
    have path : written = path := by
      rw [withDefault, Value.field?, given] at made
      exact Except.ok.inj made
    subst kindPath path
    refine ⟨_, ?_, .prefixed _ rfl short⟩
    rw [withDefault, Value.field?, given']
    rfl

theorem within_eq_ok {α : Type} {step : Step} {a : Checked α} {b : α} :
    a.within step = .ok b ↔ a = .ok b := by
  cases a <;> simp [Checked.within, Except.mapError]

theorem operandIn_cons {name : String} {key : Scalar} (ne : key ≠ .text name) (v : Value)
    (rest : List (Scalar × Value)) : operandIn name ((key, v) :: rest) = operandIn name rest := by
  rw [operandIn, if_neg ne]

theorem operandIn_cons_self_eq_ok {name : String} {v : Value} {rest : List (Scalar × Value)}
    {e? : Option Expr} : operandIn name ((.text name, v) :: rest) = .ok e? ↔
      v = .null ∧ none = e? ∨ v ≠ .null ∧ ∃ e, read v = .ok e ∧ some e = e? := by
  rw [operandIn, if_pos rfl]
  by_cases null : v = .null
  · simp [null]
  · simp [null, within_eq_ok, map_eq_ok_iff]

theorem argsIn_cons {key : Scalar} (ne : key ≠ .text "args") (v : Value)
    (rest : List (Scalar × Value)) : argsIn ((key, v) :: rest) = argsIn rest := by
  cases v <;> simp [argsIn, ne]

theorem argsIn_cons_self (v : Value) (rest rest' : List (Scalar × Value)) :
    argsIn ((.text "args", v) :: rest') = argsIn ((.text "args", v) :: rest) := by
  cases v <;> rfl

theorem argsIn_cons_list_eq_ok {items : List Value} {rest : List (Scalar × Value)}
    {es : List Expr} : argsIn ((.text "args", .list items) :: rest) = .ok es ↔
      Checked.all (readAll 0 items) = .ok es := by
  rw [argsIn, if_pos rfl, within_eq_ok]

theorem all_readAll_cons_eq_ok {index : Nat} {v : Value} {rest : List Value} {es : List Expr} :
    Checked.all (readAll index (v :: rest)) = .ok es ↔
      ∃ e more, read v = .ok e ∧ Checked.all (readAll (index + 1) rest) = .ok more ∧
        e :: more = es := by
  simp only [readAll, Checked.all, map_eq_ok_iff, Checked.and_eq_ok, within_eq_ok, Prod.exists,
    and_assoc]

mutual

/-- The document of an expression reads as the expression, with the paths edited. -/
theorem exists_read : {v v' : Value} → v.Respells v' → {e : Expr} → read v = .ok e →
    ∃ e', read v' = .ok e' ∧ e.Respells e'
  | _, _, .kept _, e, made => ⟨e, made, .refl e⟩
  | _, _, .node fields, e, made => by
    obtain ⟨kind, path, value, op, lhs, rhs, func, args, raw, isKind, isPath, isValue, isOp, left,
      right, isFunc, arguments, isRaw, rfl⟩ := read_table_eq_ok.1 made
    obtain ⟨path', isPath', texts⟩ := exists_path fields isKind isPath value op func raw
    obtain ⟨lhs', left', leftEdited⟩ := exists_operandIn (.inl rfl) fields left
    obtain ⟨rhs', right', rightEdited⟩ := exists_operandIn (.inr rfl) fields right
    obtain ⟨args', arguments', argsEdited⟩ := exists_argsIn fields arguments
    refine ⟨_, read_table_eq_ok.2 ⟨kind, path', value, op, lhs', rhs', func, args', raw,
      required_congr (fields.lookup_eq (by decide)) isKind, isPath', ?_, ?_, left', right', ?_,
      arguments', ?_, rfl⟩, .node texts leftEdited rightEdited argsEdited⟩
    · exact (withDefault_congr (fields.lookup_eq (by decide))).trans isValue
    · exact (withDefault_congr (fields.lookup_eq (by decide))).trans isOp
    · exact (withDefault_congr (fields.lookup_eq (by decide))).trans isFunc
    · exact (withDefault_congr (fields.lookup_eq (by decide))).trans isRaw

theorem exists_operandIn {name : String} (side : name = "lhs" ∨ name = "rhs") :
    {kind? : Option Value} → {entries entries' : List (Scalar × Value)} →
    Value.FieldsRespell kind? entries entries' → {e? : Option Expr} →
    operandIn name entries = .ok e? →
    ∃ e'?, operandIn name entries' = .ok e'? ∧ Option.Rel Respells e? e'?
  | _, _, _, .nil _, e?, made => ⟨e?, made, respellsOption_refl e?⟩
  | _, _, _, .kept (key, v) others, e?, made => by
    by_cases here : key = .text name
    · subst here
      rw [operandIn_cons_self_eq_ok] at made
      exact ⟨e?, operandIn_cons_self_eq_ok.2 made, respellsOption_refl e?⟩
    · rw [operandIn_cons here] at made ⊢
      exact exists_operandIn side others made
  | _, _, _, .path _ _ others, _, made => by
    have ne : Scalar.text "path" ≠ .text name := by rcases side with rfl | rfl <;> decide
    rw [operandIn_cons ne] at made ⊢
    exact exists_operandIn side others made
  | _, _, _, .args _ others, _, made => by
    have ne : Scalar.text "args" ≠ .text name := by rcases side with rfl | rfl <;> decide
    rw [operandIn_cons ne] at made ⊢
    exact exists_operandIn side others made
  | _, _, _, .operand other _ edited others, e?, made => by
    by_cases here : other = name
    · subst here
      -- An operand that is left out by a null is no document, and stays left out.
      rcases operandIn_cons_self_eq_ok.1 made with ⟨rfl, rfl⟩ | ⟨given, e, readOperand, rfl⟩
      · cases edited
        exact ⟨none, operandIn_cons_self_eq_ok.2 (.inl ⟨rfl, rfl⟩), .none⟩
      · obtain ⟨e', readOperand', respelled⟩ := exists_read edited readOperand
        have given' := mt edited.eq_null_iff.1 given
        exact ⟨some e', operandIn_cons_self_eq_ok.2 (.inr ⟨given', e', readOperand', rfl⟩),
          .some respelled⟩
    · have ne : Scalar.text other ≠ .text name := by simpa using here
      rw [operandIn_cons ne] at made ⊢
      exact exists_operandIn side others made

theorem exists_argsIn : {kind? : Option Value} → {entries entries' : List (Scalar × Value)} →
    Value.FieldsRespell kind? entries entries' → {es : List Expr} → argsIn entries = .ok es →
    ∃ es', argsIn entries' = .ok es' ∧ List.Forall₂ Respells es es'
  | _, _, _, .nil _, es, made => ⟨es, made, respellsAll_refl es⟩
  | _, _, _, .kept (key, v) others, es, made => by
    by_cases here : key = .text "args"
    · subst here
      exact ⟨es, (argsIn_cons_self v _ _).trans made, respellsAll_refl es⟩
    · rw [argsIn_cons here] at made ⊢
      exact exists_argsIn others made
  | _, _, _, .path _ _ others, _, made => by
    rw [argsIn_cons (by decide)] at made ⊢
    exact exists_argsIn others made
  | _, _, _, .operand name side _ others, _, made => by
    have ne : Scalar.text name ≠ .text "args" := by rcases side with rfl | rfl <;> decide
    rw [argsIn_cons ne] at made ⊢
    exact exists_argsIn others made
  | _, _, _, .args edited _, es, made => by
    rw [argsIn_cons_list_eq_ok] at made
    obtain ⟨es', made', respelled⟩ := exists_readAll 0 edited made
    exact ⟨es', argsIn_cons_list_eq_ok.2 made', respelled⟩

theorem exists_readAll (index : Nat) : {items items' : List Value} →
    Value.ItemsRespell items items' → {es : List Expr} →
    Checked.all (readAll index items) = .ok es →
    ∃ es', Checked.all (readAll index items') = .ok es' ∧ List.Forall₂ Respells es es'
  | _, _, .nil, es, made => ⟨es, made, respellsAll_refl es⟩
  | _, _, .cons edited others, _, made => by
    obtain ⟨e, more, first, rest, rfl⟩ := all_readAll_cons_eq_ok.1 made
    obtain ⟨e', first', respelled⟩ := exists_read edited first
    obtain ⟨more', rest', alike⟩ := exists_readAll (index + 1) others rest
    exact ⟨e' :: more', all_readAll_cons_eq_ok.2 ⟨e', more', first', rest', rfl⟩,
      .cons respelled alike⟩

end

end Expr

/-! ## Attributes -/

/-- An edit of a document that can be read. -/
theorem ReadsRespelled.of_respells {v v' : Value} (h : v.Respells v') {e : Expr}
    (read : Expr.read (Resolved.withoutRemark v) = .ok e) : ReadsRespelled v v' := by
  have edited : (Resolved.withoutRemark v).Respells (Resolved.withoutRemark v') := by
    cases h with
    | kept => exact .kept _
    | node fields => exact .node fields
  obtain ⟨e', read', respelled⟩ := Expr.exists_read edited read
  exact .exprs e e' read read' respelled

theorem ReadsRespelled.of_conditions {values values' : List Value}
    (edited : List.Forall₂ Value.Respells values values') {exprs : List Expr}
    (understood : Resolved.conditions values = .ok exprs) :
    List.Forall₂ ReadsRespelled values values' := by
  rw [Resolved.conditions_eq_ok] at understood
  induction edited generalizing exprs with
  | nil => exact .nil
  | cons head _ ih =>
    cases understood with
    | cons said others => exact .cons (.of_respells head said.1) (ih others)

/-- An edit of the documents that an attribute states, if the attribute is understood. -/
theorem AttributeRespells.of_items {kind : String} {raw raw' : Value}
    (condition : kind ∉ Resolved.referenceKinds) (given : Resolved.flag? raw = none)
    (given' : Resolved.flag? raw' = none)
    (edited : List.Forall₂ Value.Respells (Resolved.items raw) (Resolved.items raw'))
    {exprs : List Expr} (understood : Resolved.conditions (Resolved.items raw) = .ok exprs) :
    AttributeRespells kind raw raw' :=
  .stated raw raw' condition given given' (ReadsRespelled.of_conditions edited understood)

end AccountAudit
