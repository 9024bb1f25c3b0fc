import AccountAudit.Fact.Extract
import AccountAudit.Proofs.Related

/-!
# Layouts whose size cannot be found

The size of a layout is found by reading the counts of the arrays in it, field by field up to the
first field without a fixed size. It is not found if one of these counts has too many digits.
-/

namespace AccountAudit

namespace TypeTag

/-- The counts of the arrays in a layout. -/
def FixedLayout.counts : FixedLayout → List (List Char)
  | .primitive _ => []
  | .array element count => count :: element.counts
  | .optional content => content.counts

theorem FixedLayout.exists_size_iff (layout : FixedLayout) :
    (∃ size, layout.size = .ok size) ↔ ∀ count ∈ layout.counts, count.length ≤ digitLimit := by
  induction layout with
  | primitive size => simp [FixedLayout.size, counts]
  | array element count ih =>
    rw [counts, List.forall_mem_cons, ← ih, ← exists_readDigits_iff, FixedLayout.size]
    cases element.size with
    | error excess => simp [bind, Except.bind]
    | ok size =>
      cases readDigits count <;> simp [bind, Except.bind, pure, Except.pure]
  | optional content ih =>
    rw [counts, ← ih, FixedLayout.size]
    cases content.size <;> simp [bind, Except.bind, pure, Except.pure]

/-- The layout of a type has an array with a count of too many digits. -/
def HasLongCount (tag : String) : Prop :=
  ∃ layout, layout? tag = some layout ∧ ∃ count ∈ layout.counts, digitLimit < count.length

theorem exists_serializedSize_iff {tag : String} :
    (∃ size?, serializedSize? tag = .ok size?) ↔ ¬ HasLongCount tag := by
  rw [serializedSize?, HasLongCount]
  cases layout? tag with
  | none => simp
  | some layout =>
    dsimp only
    rw [exists_map_iff, FixedLayout.exists_size_iff]
    simp

end TypeTag

namespace StructDecl

/-- A field has an array with a count of too many digits, and all fields in front have a size. -/
inductive LongAmong : List FieldDecl → Prop where
  | here {field : FieldDecl} {rest : List FieldDecl} (long : TypeTag.HasLongCount field.typeTag) :
      LongAmong (field :: rest)
  | later {field : FieldDecl} {rest : List FieldDecl} {size : Nat}
      (sized : TypeTag.serializedSize? field.typeTag = .ok (some size)) (long : LongAmong rest) :
      LongAmong (field :: rest)

theorem fieldSizes_of_sized {field : FieldDecl} {rest : List FieldDecl} {size : Nat}
    (sized : TypeTag.serializedSize? field.typeTag = .ok (some size)) :
    fieldSizes (field :: rest) = (fieldSizes rest).map (Option.map (size + ·)) := by
  rw [fieldSizes, sized]
  cases fieldSizes rest <;> rfl

/-- The fields have a size together, or none, unless a long count is among them. -/
theorem exists_fieldSizes_iff {fields : List FieldDecl} :
    (∃ size?, fieldSizes fields = .ok size?) ↔ ¬ LongAmong fields := by
  induction fields with
  | nil => exact iff_of_true ⟨_, rfl⟩ (by rintro ⟨⟩)
  | cons field rest ih =>
    cases found : TypeTag.serializedSize? field.typeTag with
    | error excess =>
      have long : TypeTag.HasLongCount field.typeTag :=
        of_not_not (mt TypeTag.exists_serializedSize_iff.2 (not_exists_ok found))
      exact iff_of_false (by simp [fieldSizes, found, bind, Except.bind]) (not_not.2 (.here long))
    | ok size? =>
      have short := TypeTag.exists_serializedSize_iff.1 ⟨size?, found⟩
      cases size? with
      -- The fields behind one without a size do not matter.
      | none =>
        refine iff_of_true ⟨none, by rw [fieldSizes, found]; rfl⟩ ?_
        rintro (long | ⟨sized, -⟩)
        · exact short long
        · simp [found] at sized
      | some size =>
        rw [fieldSizes_of_sized found, exists_map_iff, ih, not_iff_not]
        constructor
        · exact .later found
        · rintro (long | ⟨-, later⟩)
          · exact absurd long short
          · exact later

/-- No size can be found for a layout. -/
def Aborts (decl : StructDecl) : Prop :=
  decl.size = none ∧ LongAmong decl.fields

theorem exists_fact_iff {decl : StructDecl} : (∃ fact, decl.fact = .ok fact) ↔ ¬ decl.Aborts := by
  rw [fact, exists_map_iff, serializedSize?, Aborts]
  cases decl.size with
  | some size => simp
  | none =>
    dsimp only
    rw [exists_map_iff, exists_fieldSizes_iff]
    simp

end StructDecl

end AccountAudit
