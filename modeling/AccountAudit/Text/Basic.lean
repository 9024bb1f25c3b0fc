import AccountAudit.Text.Blank
import AccountAudit.Text.Word

/-!
# Working with text

Text is taken apart as a list of characters: every offset and every length counts characters. The
functions of this module trim, cut and split; none of them looks at what the text means.

Splitting drops the separators and nothing else: a text with `n` separators has `n + 1` pieces, so
the empty text has one empty piece.
-/

namespace AccountAudit
namespace Text

/-! ## Trimming -/

def trimStart (cs : List Char) : List Char :=
  cs.dropWhile isBlank

def trimEnd (cs : List Char) : List Char :=
  (cs.reverse.dropWhile isBlank).reverse

/-- The text without the blanks at its two ends. -/
def trim (cs : List Char) : List Char :=
  trimEnd (trimStart cs)

theorem length_trimStart_le (cs : List Char) : (trimStart cs).length ≤ cs.length :=
  (List.dropWhile_sublist isBlank).length_le

theorem length_trimEnd_le (cs : List Char) : (trimEnd cs).length ≤ cs.length := by
  have h := (List.dropWhile_sublist isBlank (l := cs.reverse)).length_le
  simpa [trimEnd] using h

theorem length_trim_le (cs : List Char) : (trim cs).length ≤ cs.length :=
  Nat.le_trans (length_trimEnd_le _) (length_trimStart_le cs)

/-! ## Ends -/

/-- The text without `start`, if it begins with it. -/
def withoutStart (start cs : List Char) : List Char :=
  if start.isPrefixOf cs then cs.drop start.length else cs

/-- The text without `ending`, if it ends with it. -/
def withoutEnd (ending cs : List Char) : List Char :=
  if ending.isSuffixOf cs then cs.take (cs.length - ending.length) else cs

theorem length_withoutStart_le (start cs : List Char) :
    (withoutStart start cs).length ≤ cs.length := by
  unfold withoutStart
  split <;> simp

/-! ## Splitting -/

/-- Splits at each occurrence of `sep`, found from left to right and not overlapping. The counter
passes over the characters of a separator that has been recognised. -/
def splitOnFrom (sep : List Char) : Nat → List Char → List Char → List (List Char)
  | _, piece, [] => [piece.reverse]
  | pass + 1, piece, _ :: rest => splitOnFrom sep pass piece rest
  | 0, piece, c :: rest =>
    if sep.isPrefixOf (c :: rest) then piece.reverse :: splitOnFrom sep (sep.length - 1) [] rest
    else splitOnFrom sep 0 (c :: piece) rest

/-- The pieces between the occurrences of a separator, which is not empty. -/
def splitOn (sep cs : List Char) : List (List Char) :=
  splitOnFrom sep 0 [] cs

theorem length_le_of_mem_splitOnFrom {sep : List Char} {pass : Nat} {piece cs p : List Char}
    (h : p ∈ splitOnFrom sep pass piece cs) : p.length ≤ piece.length + cs.length := by
  fun_induction splitOnFrom sep pass piece cs with
  | case1 => simp_all
  | case2 pass piece c rest ih =>
    have := ih h
    simp only [List.length_cons]
    omega
  | case3 piece c rest found ih =>
    rcases List.mem_cons.1 h with rfl | h
    · simp
    · have := ih h
      simp only [List.length_nil, List.length_cons] at *
      omega
  | case4 piece c rest found ih =>
    have := ih h
    simp only [List.length_cons] at *
    omega

theorem length_le_of_mem_splitOn {sep cs p : List Char} (h : p ∈ splitOn sep cs) :
    p.length ≤ cs.length := by
  simpa using length_le_of_mem_splitOnFrom h

/-- The text before the first occurrence of `sep`, and all of it if there is none. -/
def before (sep cs : List Char) : List Char :=
  (splitOn sep cs).headD cs

/-- The last piece between the occurrences of a separator. -/
def lastPiece (sep cs : List Char) : List Char :=
  (splitOn sep cs).getLastD cs

/-- Some occurrence of `part` lies in the text. -/
def occursIn (part : List Char) : List Char → Bool
  | [] => part.isEmpty
  | c :: rest => part.isPrefixOf (c :: rest) || occursIn part rest

/-! ## Identifiers -/

/-- Collects identifiers; `word` holds the one being read, last character first. -/
def identifiersFrom : Option (List Char) → List Char → List (List Char)
  | word, [] => (word.map List.reverse).toList
  | none, c :: rest => identifiersFrom (if startsWord c then some [c] else none) rest
  | some word, c :: rest =>
    if isWord c then identifiersFrom (some (c :: word)) rest
    else word.reverse :: identifiersFrom none rest

/-- The identifiers of a text from left to right: each starts at the first character that can start
one and goes on as long as word characters follow. -/
def identifiers (cs : List Char) : List (List Char) :=
  identifiersFrom none cs

/-! ## Offsets -/

/-- An offset as a position in a text of `size` characters: a negative one counts from the end, and
one outside the text means its nearer end. -/
def position (size : Nat) (offset : Int) : Nat :=
  if offset < 0 then (size + offset).toNat else min offset.toNat size

/-- The characters from one offset up to another. -/
def slice (cs : List Char) (start stop : Int) : List Char :=
  let size := cs.length
  (cs.take (position size stop)).drop (position size start)

/-- The line of an offset, counted from 1: one more than the line feeds in front of it. -/
def lineOf (cs : List Char) (offset : Int) : Nat :=
  (cs.take (position cs.length offset)).count '\n' + 1

/-! ## Lines -/

/-- The characters that end a line. -/
def isLineEnd (c : Char) : Bool :=
  c.toNat ∈ [0x0A, 0x0B, 0x0C, 0x0D, 0x1C, 0x1D, 0x1E, 0x85, 0x2028, 0x2029]

/-- Collects lines; `line` holds the one being read, last character first, and `afterReturn` tells
that the character before was a carriage return, whose line feed belongs to it. -/
def linesFrom (afterReturn : Bool) : List Char → List Char → List (List Char)
  | [], [] => []
  | line, [] => [line.reverse]
  | line, c :: rest =>
    if afterReturn && c == '\n' then linesFrom false line rest
    else if isLineEnd c then line.reverse :: linesFrom (c == '\r') [] rest
    else linesFrom false (c :: line) rest

/-- The lines of a text without their ends; a line end at the very end starts no further line. -/
def lines (cs : List Char) : List (List Char) :=
  linesFrom false [] cs

/-- The text with every line end written as a line feed, where `\r\n` is one line end. -/
def unifyLineFeeds : List Char → List Char
  | [] => []
  | '\r' :: '\n' :: rest => '\n' :: unifyLineFeeds rest
  | '\r' :: rest => '\n' :: unifyLineFeeds rest
  | c :: rest => c :: unifyLineFeeds rest

/-! ## Strings -/

/-- The pieces of a string between the occurrences of a separator. -/
def splitString (sep s : String) : List String :=
  (splitOn sep.toList s.toList).map String.ofList

def trimString (s : String) : String :=
  String.ofList (trim s.toList)

/-- The identifiers of a string. -/
def identifiersOf (s : String) : List String :=
  (identifiers s.toList).map String.ofList

/-! ## Sets of strings -/

/-- Puts a string into its place of an ascending list, unless it is there already. -/
def insertDistinct (s : String) : List String → List String
  | [] => [s]
  | t :: rest => if s < t then s :: t :: rest else if s = t then t :: rest else t :: insertDistinct s rest

/-- The strings of a list in ascending order, each once. -/
def distinctSorted (ss : List String) : List String :=
  ss.foldr insertDistinct []

theorem mem_insertDistinct {s t : String} {ss : List String} :
    t ∈ insertDistinct s ss ↔ t = s ∨ t ∈ ss := by
  induction ss with
  | nil => simp [insertDistinct]
  | cons u rest ih =>
    rw [insertDistinct]
    split
    · simp
    · split
      · rename_i same
        simp [same]
      · simp [ih, or_left_comm]

theorem mem_distinctSorted {t : String} {ss : List String} : t ∈ distinctSorted ss ↔ t ∈ ss := by
  induction ss with
  | nil => simp [distinctSorted]
  | cons s rest ih =>
    have step : distinctSorted (s :: rest) = insertDistinct s (distinctSorted rest) := rfl
    simp [step, mem_insertDistinct, ih]

end Text
end AccountAudit
