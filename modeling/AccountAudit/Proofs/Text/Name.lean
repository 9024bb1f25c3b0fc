import AccountAudit.Proofs.Expr.Token

/-!
# Names in a text

The names of a text are its words that start as an identifier, where a word goes on as long as word
characters do. A word that starts with a digit is no name, and neither is a part of it.

A character that is no word character separates what stands on its two sides (`names_append_cons`).
-/

namespace AccountAudit
namespace Text

/-- The names of a text from left to right. -/
def names (cs : List Char) : List (List Char) :=
  (cs.splitOnP fun c => !isWord c).filter fun word => word.head?.any startsWord

theorem names_append_cons {c : Char} (separates : isWord c = false) (cs ds : List Char) :
    names (cs ++ c :: ds) = names cs ++ names ds := by
  rw [names, List.splitOnP_append_cons cs ds (by simp [separates]), List.filter_append, names, names]

theorem names_of_words {cs : List Char} (words : ∀ c ∈ cs, isWord c = true) :
    names cs = if cs.head?.any startsWord then [cs] else [] := by
  have whole : cs.splitOnP (fun c => !isWord c) = [cs] :=
    List.splitOnP_eq_singleton fun c inside => by simp [words c inside]
  rw [names, whole, List.filter_singleton]
  cases cs.head?.any startsWord <;> rfl

/-- Digits are no names. -/
theorem names_of_digit {c : Char} {cs : List Char} (digit : isDigit c = true)
    (words : ∀ d ∈ c :: cs, isWord d = true) : names (c :: cs) = [] := by
  have noStart : startsWord c = false := by
    by_contra starts
    rw [Expr.isDigit_of_startsWord (by simpa using starts)] at digit
    cases digit
  rw [names_of_words words]
  simp [noStart]

end Text
end AccountAudit
