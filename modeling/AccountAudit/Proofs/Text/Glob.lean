import AccountAudit.Text.Glob

/-!
# Patterns without wildcards

A pattern in which no character stands for others is a text (`IsPlain`): each of its characters is one
token (`tokens_of_plain`), and it matches itself and nothing else (`matchesText_iff_of_plain`).
-/

namespace AccountAudit
namespace Text
namespace Glob

/-- The characters by which a pattern can match other texts than itself. -/
def wildcards : List Char := ['*', '?', '[']

/-- A pattern in which no character stands for others. -/
def IsPlain (pattern : String) : Prop :=
  ∀ c ∈ pattern.toList, c ∉ wildcards

instance (pattern : String) : Decidable (IsPlain pattern) :=
  decidable_of_iff (pattern.toList.all (· ∉ wildcards) = true) (by simp [IsPlain])

theorem tokens_cons_of_plain {c : Char} (plain : c ∉ wildcards) (rest : List Char) :
    tokens (c :: rest) = .literal c :: tokens rest := by
  simp only [wildcards, List.mem_cons, List.not_mem_nil, or_false, not_or] at plain
  rw [tokens]
  · exact plain.1
  · exact plain.2.1
  · exact plain.2.2

theorem tokens_of_plain {pattern : List Char} (plain : ∀ c ∈ pattern, c ∉ wildcards) :
    tokens pattern = pattern.map .literal := by
  induction pattern with
  | nil => rw [tokens, List.map_nil]
  | cons c rest ih =>
    rw [List.forall_mem_cons] at plain
    rw [tokens_cons_of_plain plain.1, ih plain.2, List.map_cons]

theorem accepts_literals_iff {pattern cs : List Char} :
    accepts (pattern.map .literal) cs = true ↔ cs = pattern := by
  induction pattern generalizing cs with
  | nil => simp [accepts]
  | cons d pattern ih =>
    cases cs with
    | nil => simp [accepts]
    | cons c rest => simp [accepts, ih]

/-- A pattern without wildcards matches itself and nothing else. -/
theorem matchesText_iff_of_plain {pattern text : String} (plain : IsPlain pattern) :
    matchesText pattern text = true ↔ text = pattern := by
  rw [matchesText, tokens_of_plain plain, accepts_literals_iff, String.toList_inj]

end Glob
end Text
end AccountAudit
