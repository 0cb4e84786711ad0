import StyleValue.Text.Lines
import Mathlib.Data.List.Basic

/-!
# Lines of joined texts

Rows without line breaks, joined by line feeds, are the lines of the text that they make
(`Text.lines_intercalate`).  What comes after a line feed keeps its lines, whatever comes before it
(`Text.exists_lines_append`).
-/

namespace StyleValue.Text

/-- A text without line breaks. -/
def IsUnbroken (text : String) : Prop := ∀ c ∈ text.toList, isLineBreak c = false

instance (text : String) : Decidable (IsUnbroken text) :=
  List.decidableBAll _ text.toList

theorem isUnbroken_append_iff {s t : String} :
  IsUnbroken (s ++ t) ↔ IsUnbroken s ∧ IsUnbroken t
  := by
  rw [IsUnbroken, String.toList_append, List.forall_mem_append]
  exact Iff.rfl

/-- The lines of a text have no line breaks. -/
theorem isUnbroken_of_mem_lines {text line : String} (h : line ∈ lines text) :
  IsUnbroken line
  := by
  obtain ⟨cs, mem, rfl⟩ := List.mem_map.mp h
  rw [IsUnbroken, String.toList_ofList]
  exact isLineBreak_eq_false_of_mem_splitLines mem

theorem splitLines_cons {c : Char} (h : isLineBreak c = false) (rest : List Char) :
  splitLines (c :: rest) = consLine c (splitLines rest)
  := by
  rw [splitLines, if_neg (by rw [h]; decide)]
  rintro _ rfl
  cases h

theorem splitLines_lineFeed (rest : List Char) :
  splitLines ('\n' :: rest) = [] :: splitLines rest
  := by
  rw [splitLines, if_pos (by decide)]
  rintro _ ⟨⟩

/-- A row that a line feed ends is the first line. -/
theorem splitLines_append_lineFeed {row : List Char} (h : ∀ c ∈ row, isLineBreak c = false)
    (rest : List Char) :
  splitLines (row ++ '\n' :: rest) = row :: splitLines rest
  := by
  induction row with
  | nil => apply splitLines_lineFeed
  | cons c row ih =>
      obtain ⟨unbroken, others⟩ := List.forall_mem_cons.mp h
      rw [List.cons_append, splitLines_cons unbroken, ih others, consLine]

/-- A row by itself is the only line. -/
theorem splitLines_of_unbroken {row : List Char} (h : ∀ c ∈ row, isLineBreak c = false)
    (shown : row ≠ []) :
  splitLines row = [row]
  := by
  induction row with
  | nil => exact absurd rfl shown
  | cons c row ih =>
      obtain ⟨unbroken, others⟩ := List.forall_mem_cons.mp h
      rw [splitLines_cons unbroken]
      cases row with
      | nil => rfl
      | cons d row => rw [ih others (List.cons_ne_nil d row), consLine]

/-- What comes after a line feed keeps its lines. -/
theorem exists_splitLines_append (text rest : List Char) :
  ∃ line before, splitLines (text ++ '\n' :: rest) = line :: before ++ splitLines rest
  := by
  fun_induction splitLines text with
  | case1 => exact ⟨[], [], splitLines_lineFeed rest⟩
  | case2 text ih =>
      obtain ⟨line, before, split⟩ := ih
      use [], line :: before
      rw [List.cons_append, List.cons_append, splitLines, split]
      rfl
  | case3 c text alone isBreak ih =>
      obtain ⟨line, before, split⟩ := ih
      by_cases merged : c = '\r' ∧ text = []
      · -- the line feed and the carriage return before it are one line break
        obtain ⟨rfl, rfl⟩ := merged
        exact ⟨[], [], rfl⟩
      · use [], line :: before
        rw [List.cons_append, splitLines, if_pos isBreak, split]
        · rfl
        · intro following isReturn
          cases text with
          | nil => exact absurd ⟨isReturn, rfl⟩ merged
          | cons d text =>
              rintro ⟨⟩
              exact alone text isReturn rfl
  | case4 c text alone noBreak ih =>
      obtain ⟨line, before, split⟩ := ih
      use c :: line, before
      rw [List.cons_append, splitLines_cons (eq_false_of_ne_true noBreak), split]
      rfl

theorem lines_append_lineFeed {row : String} (h : IsUnbroken row) (rest : String) :
  lines (row ++ "\n" ++ rest) = row :: lines rest
  := by
  rw [lines, String.toList_append, String.toList_append, List.append_assoc]
  change (splitLines (row.toList ++ '\n' :: rest.toList)).map String.ofList = row :: lines rest
  rw [splitLines_append_lineFeed h, List.map_cons, String.ofList_toList, lines]

theorem exists_lines_append (text rest : String) :
  ∃ before, lines (text ++ "\n" ++ rest) = before ++ lines rest
  := by
  obtain ⟨line, before, split⟩ := exists_splitLines_append text.toList rest.toList
  use (line :: before).map String.ofList
  rw [lines, String.toList_append, String.toList_append, List.append_assoc]
  change (splitLines (text.toList ++ '\n' :: rest.toList)).map String.ofList = _
  rw [split, List.map_append, lines]

/-- Rows that are joined before others leave the lines of those as they are. -/
theorem exists_lines_intercalate_append (rows : List String) {others : List String}
    (h : others ≠ []) :
  ∃ before, lines (String.intercalate "\n" (rows ++ others))
    = before ++ lines (String.intercalate "\n" others)
  := by
  by_cases none : rows = []
  · use []
    rw [none, List.nil_append, List.nil_append]
  · rw [String.intercalate_append_of_ne_nil none h]
    apply exists_lines_append

/-- A row that shows something is the only line of itself. -/
theorem lines_of_isUnbroken {row : String} (h : IsUnbroken row) (shown : row ≠ "") :
  lines row = [row]
  := by
  have visible : row.toList ≠ [] := by
    intro empty
    exact shown (String.toList_inj.mp empty)
  rw [lines, splitLines_of_unbroken h visible, List.map_singleton, String.ofList_toList]

/-- Rows joined by line feeds are lines of the joined text, before the lines of what comes after
them. -/
theorem lines_intercalate {rows : List String} (h : ∀ row ∈ rows, IsUnbroken row)
    (rest : String) :
  lines (String.intercalate "\n" (rows ++ [rest])) = rows ++ lines rest
  := by
  induction rows with
  | nil => rw [List.nil_append, String.intercalate_singleton, List.nil_append]
  | cons row rows ih =>
      obtain ⟨unbroken, others⟩ := List.forall_mem_cons.mp h
      rw [List.cons_append, String.intercalate_cons_of_ne_nil (List.concat_ne_nil rest rows),
        lines_append_lineFeed unbroken, ih others, List.cons_append]

end StyleValue.Text
