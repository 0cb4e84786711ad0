import StyleValue.Proofs.Diagnostic.Caret

/-!
# The caret and the column it is meant for

The caret stands seven characters behind its column.  As many come before the content of a line whose
number has at most three digits.  So the caret stands below the character of its column up to line
999, and too far left from line 1000 on, where the number takes up more room
(`Snippet.alignsCaret`).
-/

namespace StyleValue

open Text

/-- A number that is not negative is written with its digits. -/
theorem Decimal.toList_plain_ofInt {n : Int} (h : 0 ≤ n) :
  (ofInt n).plain.toList = Nat.toDigits 10 n.natAbs
  := by
  have positive : ¬ n < 0 := by omega
  simp [plain, ofInt, sign, fraction, lowDigits, positive]

theorem Decimal.length_plain_ofInt_le_iff {n : Int} (h : 0 ≤ n) :
  (ofInt n).plain.length ≤ 3 ↔ n < 1000
  := by
  rw [← String.length_toList, toList_plain_ofInt h,
    Nat.length_toDigits_le_iff (by decide) (by decide)]
  omega

namespace Snippet

/-! ### Widths -/

theorem length_lineNumber (n : Int) :
  (lineNumber n).length = max 3 (Decimal.ofInt n).plain.length
  := by
  rw [lineNumber, String.length_append, String.length_ofList, List.length_replicate]
  omega

/-- What comes before the content in the row of the offending line. -/
def margin (n : Int) : String := ">" ++ lineNumber n ++ " | "

theorem numberedLine_eq_margin_append (n : Int) (content : String) :
  numberedLine false n content true = margin n ++ content
  := rfl

theorem length_margin (n : Int) :
  (margin n).length = 4 + max 3 (Decimal.ofInt n).plain.length
  := by
  have mark : ">".length = 1 := by decide
  have bar : " | ".length = 3 := by decide
  rw [margin, String.length_append, String.length_append, length_lineNumber, mark, bar]
  omega

theorem idxOf_caretLine (column : Nat) :
  (caretLine false column).toList.idxOf '^' = 7 + column
  := by
  have before : '^' ∉ List.replicate 3 ' ' ++ '|' :: List.replicate (3 + column) ' ' := by
    simp
  have shape : (caretLine false column).toList
      = (List.replicate 3 ' ' ++ '|' :: List.replicate (3 + column) ' ') ++ ['^'] := by
    rw [toList_caretLine, Int.toNat_natCast, List.append_assoc, List.cons_append]
  rw [shape, List.idxOf_append_of_notMem before, List.idxOf_cons_self]
  simp only [List.length_append, List.length_cons, List.length_replicate]
  omega

/-! ### Rows -/

/-- The row of the offending line and, further below, that of the caret. -/
theorem exists_lines_format {snippet : Snippet} {content : String} {column : Int}
    (shown : (snippet.errorLine, content) ∈ snippet.lines) (unbroken : Text.IsUnbroken content)
    (placed : snippet.column = some column) :
  ∃ before between, Text.lines (snippet.format false)
    = before ++ numberedLine false snippet.errorLine content true :: between
      ++ [caretLine false column, gutter false]
  := by
  obtain ⟨above, below, split⟩ := List.append_of_mem shown
  have lower : Text.lines (String.intercalate "\n" [caretLine false column, gutter false])
      = [caretLine false column, gutter false] := by
    rw [String.intercalate_cons_cons, String.intercalate_singleton,
      lines_append_lineFeed (isUnbroken_caretLine false column), lines_of_isUnbroken (by decide)]
    decide
  obtain ⟨between, lowest⟩ := exists_lines_intercalate_append
    (below.map (row snippet.errorLine)) (List.cons_ne_nil (caretLine false column) [gutter false])
  obtain ⟨before, highest⟩ := exists_lines_intercalate_append
    (gutter false :: above.map (row snippet.errorLine))
    (List.cons_ne_nil (row snippet.errorLine (snippet.errorLine, content))
      (below.map (row snippet.errorLine) ++ [caretLine false column, gutter false]))
  use before, between
  have rows : snippet.rows false
      = (gutter false :: above.map (row snippet.errorLine))
        ++ row snippet.errorLine (snippet.errorLine, content)
          :: (below.map (row snippet.errorLine) ++ [caretLine false column, gutter false]) := by
    rw [rows_eq, split, placed]
    simp only [List.map_append, List.map_cons, Option.map_some, Option.toList_some,
      List.append_assoc, List.cons_append, List.nil_append]
  rw [format, rows, highest, String.intercalate_cons_of_ne_nil (by simp), row_errorLine,
    lines_append_lineFeed (isUnbroken_numberedLine _ _ unbroken _), lowest, lower,
    List.append_assoc, List.cons_append]

/-- The row right above the lower margin of a snippet. -/
def lowestRow? (snippet : Snippet) : Option String :=
  (Text.lines (snippet.format false)).dropLast.getLast?

/-- The caret stands at the index at which the row of the offending line shows a column of its
content. -/
def CaretAligned (snippet : Snippet) (content : String) (column : Nat) : Prop :=
  ∃ caretRow, snippet.lowestRow? = some caretRow
    ∧ ∃ start, numberedLine false snippet.errorLine content true = start ++ content
      ∧ caretRow.toList.idxOf '^' = start.length + column

section

variable {snippet : Snippet} {content : String} {column : Nat}
  (first : 1 ≤ snippet.errorLine) (shown : (snippet.errorLine, content) ∈ snippet.lines)
  (unbroken : Text.IsUnbroken content) (placed : snippet.column = some (column : Int))

include shown unbroken placed

theorem lowestRow?_eq :
  snippet.lowestRow? = some (caretLine false column)
  := by
  obtain ⟨before, between, split⟩ := exists_lines_format shown unbroken placed
  have rows : Text.lines (snippet.format false)
      = (before ++ numberedLine false snippet.errorLine content true :: between
          ++ [caretLine false column]) ++ [gutter false] := by
    rw [split, List.append_assoc, List.append_assoc, List.append_assoc]
    rfl
  rw [lowestRow?, rows, List.dropLast_concat, List.getLast?_concat]

include first

theorem caretAligned_iff :
  CaretAligned snippet content column ↔ snippet.errorLine < 1000
  := by
  rw [← Decimal.length_plain_ofInt_le_iff (by omega)]
  have width := length_margin snippet.errorLine
  constructor
  · rintro ⟨caretRow, isLowest, start, isRow, aligned⟩
    rw [lowestRow?_eq shown unbroken placed, Option.some.injEq] at isLowest
    rw [numberedLine_eq_margin_append, String.append_left_inj] at isRow
    rw [← isLowest, ← isRow, idxOf_caretLine] at aligned
    omega
  · intro short
    refine ⟨_, lowestRow?_eq shown unbroken placed, margin snippet.errorLine, rfl, ?_⟩
    rw [idxOf_caretLine]
    omega

end

/-- Where a snippet shows a column of the offending line, and where it shows the caret. -/
structure AlignsCaret (snippet : Snippet) (content : String) (column : Nat) : Prop where
  /-- The row of the offending line stands above that of the caret. -/
  rows : ∃ before between, Text.lines (snippet.format false)
    = before ++ numberedLine false snippet.errorLine content true :: between
      ++ [caretLine false column, gutter false]
  /-- The caret is seven characters behind its column. -/
  caret : (caretLine false column).toList.idxOf '^' = 7 + column
  /-- The content is behind its number, which takes up at least three characters. -/
  shown : ∃ start, numberedLine false snippet.errorLine content true = start ++ content
    ∧ start.length = 4 + max 3 (Decimal.ofInt snippet.errorLine).plain.length
  /-- So the caret stands below its column when the number has no more than three digits. -/
  aligned_iff : CaretAligned snippet content column ↔ snippet.errorLine < 1000

/-- The caret stands below its column in the first 999 lines. -/
theorem alignsCaret {snippet : Snippet} {content : String} {column : Nat}
    (first : 1 ≤ snippet.errorLine) (shown : (snippet.errorLine, content) ∈ snippet.lines)
    (unbroken : Text.IsUnbroken content) (placed : snippet.column = some (column : Int)) :
  AlignsCaret snippet content column
  where
  rows := exists_lines_format shown unbroken placed
  caret := idxOf_caretLine column
  shown := ⟨margin snippet.errorLine, rfl, length_margin _⟩
  aligned_iff := caretAligned_iff first shown unbroken placed

/-- The caret below the divisor in line 1000 is one character too far left. -/
theorem alignsCaret_thousand :
  (1 : Int) ≤ 1000
    ∧ (1000, "b: 1 / 0;") ∈ [((999 : Int), "a: 1;"), (1000, "b: 1 / 0;")]
    ∧ Text.IsUnbroken "b: 1 / 0;"
    ∧ (some 7 : Option Int) = some ((7 : Nat) : Int)
    ∧ AlignsCaret ⟨[(999, "a: 1;"), (1000, "b: 1 / 0;")], 1000, some 7⟩ "b: 1 / 0;" 7
  := by
  have shown : (1000, "b: 1 / 0;") ∈ [((999 : Int), "a: 1;"), (1000, "b: 1 / 0;")] := by
    apply List.mem_cons_of_mem
    apply List.mem_cons_self
  refine ⟨by decide, shown, by decide, rfl, ?_⟩
  exact alignsCaret (by decide) shown (by decide) rfl

/-- In line 1000 the caret is not where its column is. -/
theorem not_forall_caretAligned :
  ¬ ∀ (snippet : Snippet) (content : String) (column : Nat), 1 ≤ snippet.errorLine →
    (snippet.errorLine, content) ∈ snippet.lines → Text.IsUnbroken content →
    snippet.column = some (column : Int) → column < content.length →
    CaretAligned snippet content column
  := by
  intro always
  have shown : (1000, "a") ∈ [((1000 : Int), "a")] := List.mem_cons_self
  have unbroken : Text.IsUnbroken "a" := by decide
  have aligned := always ⟨[(1000, "a")], 1000, some 0⟩ "a" 0 (by decide) shown unbroken rfl
    (by decide)
  have early := (caretAligned_iff (by decide) shown unbroken rfl).mp aligned
  revert early
  decide

end Snippet

end StyleValue
