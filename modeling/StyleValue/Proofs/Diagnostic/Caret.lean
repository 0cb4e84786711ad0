import StyleValue.Diagnostic.Basic
import StyleValue.Proofs.Diagnostic.Cut
import StyleValue.Proofs.Text.Lines

/-!
# Where the caret stands

A snippet without colours shows its rows one below the other (`Snippet.lines_format_ofSource`).  The
row with the caret comes after the rows of all lines of the window.  So it is right below the row of
the offending line when no line follows that one in the window, and only then
(`Snippet.caretFollows_iff`).
-/

namespace StyleValue

open Terminal Text

theorem Decimal.exists_isDigit_plain_ofInt (n : Int) :
  ∃ c ∈ (ofInt n).plain.toList, c.isDigit
  := by
  obtain ⟨c, mem⟩ := List.exists_mem_of_ne_nil _ (Nat.toDigits_ne_nil (b := 10) (n := n.natAbs))
  use c
  constructor
  · simp only [plain, ofInt, fraction, String.toList_ofList, List.mem_append]
    left
    right
    simpa using mem
  · exact Nat.isDigit_of_mem_toDigits (by decide) (by decide) mem

/-- An item that a list holds once has the same item before it wherever the list shows the two. -/
theorem eq_concat_of_pair_infix {α : Type} {a b : α} {before after : List α}
    (h : [a, b] <:+: before ++ b :: after) (hbefore : b ∉ before) (hafter : b ∉ after) :
  ∃ start, before = start ++ [a]
  := by
  obtain ⟨start, stop, joined⟩ := h
  have same : (start ++ [a]) ++ (b :: stop) = before ++ b :: after := by
    rw [← joined, List.append_assoc, List.append_assoc]
    rfl
  rcases List.append_eq_append_iff.mp same with ⟨_ | ⟨c, rest⟩, between, tail⟩ |
    ⟨_ | ⟨c, rest⟩, between, tail⟩
  · exact ⟨start, by rw [between, List.append_nil]⟩
  · obtain ⟨rfl, -⟩ := List.cons.inj tail
    simp [between] at hbefore
  · exact ⟨start, by rw [between, List.append_nil]⟩
  · obtain ⟨rfl, rfl⟩ := List.cons.inj tail
    simp at hafter

namespace Snippet

/-! ### The characters of a row -/

/-- The row of a line without colours, marked if it is the offending one. -/
def row (errorLine : Int) (line : Int × String) : String :=
  numberedLine false line.1 line.2 (line.1 = errorLine)

theorem toList_row (errorLine : Int) (line : Int × String) :
  (row errorLine line).toList
    = (if line.1 = errorLine then '>' else ' ')
      :: ((lineNumber line.1).toList ++ " | ".toList ++ line.2.toList)
  := by
  simp only [row, numberedLine, dimText, paint, Bool.not_false, Bool.true_or, if_true, ite_self,
    decide_eq_true_eq, String.toList_append]
  split <;> rfl

theorem toList_caretLine (column : Int) :
  (caretLine false column).toList
    = List.replicate 3 ' ' ++ '|' :: (List.replicate (3 + column.toNat) ' ' ++ ['^'])
  := by
  rw [List.replicate_add]
  simp only [caretLine, gutter, dimText, paint, Bool.not_false, Bool.true_or, if_true,
    String.toList_append, String.toList_ofList]
  rfl

theorem mem_lineNumber {n : Int} {c : Char} (h : c ∈ (lineNumber n).toList) :
  c = ' ' ∨ c = '-' ∨ c.isDigit
  := by
  rw [lineNumber, String.toList_append, String.toList_ofList, List.mem_append] at h
  rcases h with blank | digits
  · left
    apply List.eq_of_mem_replicate blank
  · right
    apply Decimal.mem_plain_ofInt digits

theorem mem_caretLine {column : Int} {c : Char} (h : c ∈ (caretLine false column).toList) :
  c = ' ' ∨ c = '|' ∨ c = '^'
  := by
  rw [toList_caretLine, List.mem_append, List.mem_cons, List.mem_append] at h
  rcases h with blank | bar | blank | caret
  · left
    apply List.eq_of_mem_replicate blank
  · right
    left
    exact bar
  · left
    apply List.eq_of_mem_replicate blank
  · right
    right
    apply List.mem_singleton.mp caret

theorem isLineBreak_eq_false_of_isDigit {c : Char} (h : c.isDigit) :
  isLineBreak c = false
  := by
  rw [isLineBreak, List.contains_eq_mem, decide_eq_false_iff_not]
  intro mem
  simp only [List.mem_cons, List.not_mem_nil, or_false] at mem
  rcases mem with rfl | rfl | rfl | rfl | rfl | rfl | rfl | rfl | rfl | rfl <;> cases h

theorem isUnbroken_lineNumber (n : Int) :
  Text.IsUnbroken (lineNumber n)
  := by
  intro c mem
  rcases mem_lineNumber mem with rfl | rfl | digit
  · decide
  · decide
  · apply isLineBreak_eq_false_of_isDigit digit

/-- The codes of styles have no line breaks. -/
theorem isUnbroken_paint (colors : Bool) (styles : List Style) {text : String}
    (h : Text.IsUnbroken text) :
  Text.IsUnbroken (paint colors styles text)
  := by
  have codes : Text.IsUnbroken (String.join (styles.map fun style => code style.parameter)) := by
    induction styles with
    | nil => rintro _ ⟨⟩
    | cons style styles ih =>
        rw [List.map_cons, String.join_cons, isUnbroken_append_iff]
        exact ⟨by cases style <;> decide, ih⟩
  rw [paint]
  split
  · exact h
  · rw [isUnbroken_append_iff, isUnbroken_append_iff]
    exact ⟨⟨codes, h⟩, by decide⟩

theorem isUnbroken_numberedLine (colors : Bool) (n : Int) {content : String}
    (h : Text.IsUnbroken content) (isError : Bool) :
  Text.IsUnbroken (numberedLine colors n content isError)
  := by
  have mark : Text.IsUnbroken (if isError then ">" else " ") := by cases isError <;> decide
  have number := isUnbroken_paint colors [.yellow]
    (isUnbroken_append_iff.mpr ⟨mark, isUnbroken_lineNumber n⟩)
  rw [numberedLine, isUnbroken_append_iff, isUnbroken_append_iff]
  refine ⟨⟨number, by decide⟩, ?_⟩
  split
  · apply isUnbroken_paint colors _ h
  · apply isUnbroken_paint colors _ h

theorem isUnbroken_gutter (colors : Bool) :
  Text.IsUnbroken (gutter colors)
  := by
  cases colors <;> decide

theorem isUnbroken_caretLine (colors : Bool) (column : Int) :
  Text.IsUnbroken (caretLine colors column)
  := by
  have blanks : Text.IsUnbroken (String.ofList (List.replicate column.toNat ' ')) := by
    intro c mem
    rw [String.toList_ofList] at mem
    rw [List.eq_of_mem_replicate mem]
    decide
  have caret : Text.IsUnbroken (paint colors [.brightRed] "^") := by
    apply isUnbroken_paint
    decide
  rw [caretLine, isUnbroken_append_iff, isUnbroken_append_iff, isUnbroken_append_iff]
  exact ⟨⟨⟨isUnbroken_gutter colors, by decide⟩, blanks⟩, caret⟩

/-- The row with the caret is not that of a line. -/
theorem row_ne_caretLine (errorLine : Int) (line : Int × String) (column : Int) :
  row errorLine line ≠ caretLine false column
  := by
  intro same
  obtain ⟨c, mem, digit⟩ := Decimal.exists_isDigit_plain_ofInt line.1
  have shown : c ∈ (caretLine false column).toList := by
    rw [← same, toList_row, lineNumber, String.toList_append]
    simp [mem]
  rcases mem_caretLine shown with rfl | rfl | rfl <;> cases digit

theorem caretLine_notMem_map_row (errorLine column : Int) (lines : List (Int × String)) :
  caretLine false column ∉ lines.map (row errorLine)
  := by
  intro mem
  obtain ⟨line, -, same⟩ := List.mem_map.mp mem
  exact row_ne_caretLine errorLine line column same

theorem gutter_ne_caretLine (column : Int) :
  gutter false ≠ caretLine false column
  := by
  intro same
  have shown : '^' ∈ (gutter false).toList := by
    rw [same, toList_caretLine]
    simp
  revert shown
  decide

/-- Only the offending line is marked. -/
theorem eq_errorLine_of_row_eq {errorLine : Int} {line marked : Int × String}
    (h : row errorLine line = row errorLine marked) (hmarked : marked.1 = errorLine) :
  line.1 = errorLine
  := by
  have first := congrArg (fun text => text.toList.head?) h
  simp only [toList_row, hmarked, if_true, List.head?_cons, Option.some.injEq] at first
  by_contra other
  rw [if_neg other] at first
  cases first

/-! ### The rows of a snippet -/

theorem row_errorLine (errorLine : Int) (content : String) :
  row errorLine (errorLine, content) = numberedLine false errorLine content true
  := congrArg (numberedLine false errorLine content) (decide_eq_true rfl)

theorem rows_eq (snippet : Snippet) :
  snippet.rows false
    = gutter false :: snippet.lines.map (row snippet.errorLine)
      ++ (snippet.column.map (caretLine false)).toList ++ [gutter false]
  := rfl

/-- The snippet shows no line breaks within its lines. -/
def IsUnbroken (snippet : Snippet) : Prop := ∀ line ∈ snippet.lines, Text.IsUnbroken line.2

theorem isUnbroken_ofSource (source : String) (errorLine context : Int) (column : Option Int) :
  (ofSource source errorLine context column).IsUnbroken
  := by
  rw [ofSource_eq]
  intro line mem
  apply isUnbroken_of_mem_lines (snd_mem_of_mem_window mem)

theorem IsUnbroken.rows {snippet : Snippet} (h : snippet.IsUnbroken) (colors : Bool) :
  ∀ text ∈ snippet.rows colors, Text.IsUnbroken text
  := by
  intro text mem
  rcases List.mem_append.mp mem with shown | isMargin
  · rcases List.mem_append.mp shown with numbered | isCaret
    · rcases List.mem_cons.mp numbered with rfl | ofLine
      · apply isUnbroken_gutter
      · obtain ⟨line, isLine, rfl⟩ := List.mem_map.mp ofLine
        apply isUnbroken_numberedLine _ _ (h line isLine)
    · obtain ⟨column, -, rfl⟩ := Option.map_eq_some_iff.mp (Option.mem_toList.mp isCaret)
      apply isUnbroken_caretLine
  · rw [List.mem_singleton.mp isMargin]
    apply isUnbroken_gutter

/-- The rows of a snippet are the lines of its text. -/
theorem lines_format {snippet : Snippet} (h : snippet.IsUnbroken) (colors : Bool) :
  Text.lines (snippet.format colors) = snippet.rows colors
  := by
  obtain ⟨unbroken, lowest⟩ := List.forall_mem_append.mp (h.rows colors)
  have lower : Text.lines (gutter colors) = [gutter colors] := by
    apply lines_of_isUnbroken (lowest _ List.mem_cons_self)
    cases colors <;> decide
  rw [format, rows, lines_intercalate unbroken, lower]

/-- They are the first lines of the text to which other parts are joined. -/
theorem exists_lines_intercalate_format {snippet : Snippet} (h : snippet.IsUnbroken)
    (colors : Bool) (parts : List String) :
  ∃ after, Text.lines (String.intercalate "\n" (snippet.format colors :: parts))
    = snippet.rows colors ++ after
  := by
  by_cases alone : parts = []
  · use []
    rw [alone, String.intercalate_singleton, lines_format h, List.append_nil]
  · have shown : snippet.rows colors ≠ [] :=
      List.append_ne_nil_of_right_ne_nil _ (List.cons_ne_nil _ _)
    use Text.lines (String.intercalate "\n" parts)
    rw [← lines_intercalate (h.rows colors), String.intercalate_cons_of_ne_nil alone,
      String.intercalate_append_of_ne_nil shown (List.cons_ne_nil _ []),
      String.intercalate_singleton, format]

/-- The lines of a snippet of a text, from the upper margin to the lower one. -/
theorem lines_format_ofSource {source content : String} {k : Nat}
    (h : (Text.lines source)[k]? = some content) (context : Nat) (column : Int) :
  Text.lines ((ofSource source ((k : Int) + 1) context (some column)).format false)
    = gutter false :: (above (Text.lines source) k context).map (row ((k : Int) + 1))
      ++ numberedLine false ((k : Int) + 1) content true
        :: (below (Text.lines source) k context).map (row ((k : Int) + 1))
      ++ [caretLine false column, gutter false]
  := by
  rw [lines_format (isUnbroken_ofSource _ _ _ _), rows_eq, ofSource_eq, window_around h,
    ← row_errorLine]
  simp only [List.map_append, List.map_cons, Option.map_some, Option.toList_some,
    List.append_assoc, List.cons_append, List.nil_append]

/-! ### The caret and the offending line -/

/-- In what a snippet shows, the caret stands right below the offending line. -/
def CaretFollows (source : String) (errorLine context column : Int) : Prop :=
  ∃ content, (Text.lines source)[(errorLine - 1).toNat]? = some content
    ∧ [numberedLine false errorLine content true, caretLine false column]
      <:+: Text.lines ((ofSource source errorLine context (some column)).format false)

section

variable {source content : String} {k context : Nat} {column : Int}
  (h : (Text.lines source)[k]? = some content)

include h

theorem caretFollows_of_below_eq_nil (ends : below (Text.lines source) k context = []) :
  CaretFollows source ((k : Int) + 1) context column
  := by
  refine ⟨content, ?_, ?_⟩
  · rw [Int.add_sub_cancel, Int.toNat_natCast, h]
  · rw [lines_format_ofSource h, ends]
    use gutter false :: (above (Text.lines source) k context).map (row ((k : Int) + 1)),
      [gutter false]
    simp only [List.map_nil, List.append_assoc, List.cons_append, List.nil_append]

/-- What stands right above the caret is the last line of the window, and only the offending line is
marked. -/
theorem below_eq_nil_of_caretFollows
    (follows : CaretFollows source ((k : Int) + 1) context column) :
  below (Text.lines source) k context = []
  := by
  obtain ⟨content', here, shown⟩ := follows
  rw [Int.add_sub_cancel, Int.toNat_natCast, h, Option.some.injEq] at here
  rw [← here, lines_format_ofSource h, ← row_errorLine] at shown
  have notMargin := (gutter_ne_caretLine column).symm
  have notError := (row_ne_caretLine ((k : Int) + 1) ((k : Int) + 1, content) column).symm
  have notLine := caretLine_notMem_map_row ((k : Int) + 1) column
  obtain ⟨start, ended⟩ := eq_concat_of_pair_infix shown
    (by simp only [List.mem_append, List.mem_cons, notMargin, notError, notLine, or_self,
      not_false_eq_true])
    (by simp only [List.mem_singleton, notMargin, not_false_eq_true])
  rcases List.eq_nil_or_concat' (below (Text.lines source) k context)
    with none | ⟨others, lowest, last⟩
  · exact none
  · have after : (k : Int) + 1 < lowest.1 := by
      apply lt_fst_of_mem_below
      rw [last]
      apply List.mem_concat_self
    rw [last, List.map_append, List.map_singleton, ← List.cons_append, ← List.append_assoc] at ended
    have same := List.singleton_inj.mp (List.append_inj' ended rfl).2
    have marked := eq_errorLine_of_row_eq same rfl
    omega

end

/-- The caret stands right below the offending line when no line of the text follows that one in the
snippet: when there is no context after it, or it is the last line. -/
theorem caretFollows_iff {source : String} {errorLine context : Int} (column : Int)
    (first : 1 ≤ errorLine) (last : errorLine ≤ (Text.lines source).length)
    (forward : 0 ≤ context) :
  CaretFollows source errorLine context column
    ↔ context = 0 ∨ errorLine = (Text.lines source).length
  := by
  obtain ⟨k, rfl⟩ := Int.le.dest first
  lift context to ℕ using forward
  have inside : k < (Text.lines source).length := by omega
  have here := List.getElem?_eq_getElem inside
  have ends : below (Text.lines source) k context = []
      ↔ context = 0 ∨ k + 1 = (Text.lines source).length := by
    rw [← List.length_eq_zero_iff, length_below]
    omega
  rw [Int.add_comm]
  constructor
  · intro follows
    have none := ends.mp (below_eq_nil_of_caretFollows here follows)
    omega
  · intro none
    apply caretFollows_of_below_eq_nil here
    apply ends.mpr
    omega

end Snippet

namespace Diagnostic

/-- A diagnostic for a line that exists shows the snippet around it. -/
theorem snippet?_eq_some {source : String} {loc : Location} (first : 1 ≤ loc.line)
    (last : loc.line ≤ (Text.lines source).length) :
  snippet? (some source) loc = some (.ofSource source loc.line 1 (some loc.column))
  := by
  obtain ⟨k, isLine⟩ := Int.le.dest first
  have here := List.getElem?_eq_getElem (l := Text.lines source) (i := k) (by omega)
  have around := Snippet.window_around here 1
  have shown : (Snippet.ofSource source loc.line 1 (some loc.column)).lines.isEmpty = false := by
    rw [← isLine, Int.add_comm, Snippet.ofSource_eq]
    apply Eq.trans (congrArg List.isEmpty around)
    apply List.isEmpty_eq_false_iff.mpr
    apply List.append_ne_nil_of_right_ne_nil _ (List.cons_ne_nil _ _)
  simp only [snippet?, shown, Bool.false_eq_true, if_false]

/-- The lines of a snippet are among those of the diagnostic that shows it. -/
theorem exists_lines_compact {d : Diagnostic} {loc : Location} {source : Option String}
    {snippet : Snippet} (located : d.loc = some loc) (shown : snippet? source loc = some snippet)
    (unbroken : snippet.IsUnbroken) (colors : Bool) :
  ∃ before after, Text.lines (d.compact colors source)
    = before ++ Text.lines (snippet.format colors) ++ after
  := by
  have joined : d.compact colors source
      = String.intercalate "\n" [d.header colors, arrow ++ Terminal.locationText colors loc.text]
        ++ "\n" ++ String.intercalate "\n" (snippet.format colors :: d.documentation colors) := by
    rw [compact, place, located]
    simp only [shown, Option.map_some, Option.toList_some]
    exact String.intercalate_append_of_ne_nil (l := [_, _]) (List.cons_ne_nil _ _)
      (List.cons_ne_nil _ _)
  obtain ⟨after, split⟩ :=
    Snippet.exists_lines_intercalate_format unbroken colors (d.documentation colors)
  obtain ⟨before, split'⟩ := exists_lines_append
    (String.intercalate "\n" [d.header colors, arrow ++ Terminal.locationText colors loc.text])
    (String.intercalate "\n" (snippet.format colors :: d.documentation colors))
  use before, after
  rw [joined, split', split, Snippet.lines_format unbroken, List.append_assoc]

end Diagnostic

namespace Snippet

/-- Where the caret stands in what is shown of a line of a text. -/
structure PlacesCaret (source : String) (errorLine context column : Int) : Prop where
  /-- All lines of the window stand above the caret, also those after the offending one. -/
  rows : ∃ content, (Text.lines source)[(errorLine - 1).toNat]? = some content
    ∧ Text.lines ((ofSource source errorLine context (some column)).format false)
      = gutter false
        :: (above (Text.lines source) (errorLine - 1).toNat context.toNat).map (row errorLine)
        ++ numberedLine false errorLine content true
          :: (below (Text.lines source) (errorLine - 1).toNat context.toNat).map (row errorLine)
        ++ [caretLine false column, gutter false]
  /-- As many of them stand in between as the context has and the text allows. -/
  between : ((below (Text.lines source) (errorLine - 1).toNat context.toNat).length : Int)
    = min context ((Text.lines source).length - errorLine)
  /-- So it stands right below the offending line when there are none after that one. -/
  follows_iff : CaretFollows source errorLine context column
    ↔ context = 0 ∨ errorLine = (Text.lines source).length
  /-- A diagnostic shows the lines of the snippet with one line to either side. -/
  diagnostic (d : Diagnostic) (file : Option String)
      (located : d.loc = some ⟨errorLine, column, file⟩) :
    ∃ before after, Text.lines (d.compact false (some source))
      = before ++ Text.lines ((ofSource source errorLine 1 (some column)).format false) ++ after

/-- The caret stands below the last line of the window around a line. -/
theorem placesCaret {source : String} {errorLine context : Int} (column : Int)
    (first : 1 ≤ errorLine) (last : errorLine ≤ (Text.lines source).length)
    (forward : 0 ≤ context) :
  PlacesCaret source errorLine context column
  where
  rows := by
    obtain ⟨k, rfl⟩ := Int.le.dest first
    lift context to ℕ using forward
    have here := List.getElem?_eq_getElem (l := Text.lines source) (i := k) (by omega)
    rw [Int.add_comm 1, Int.add_sub_cancel, Int.toNat_natCast, Int.toNat_natCast]
    exact ⟨_, here, lines_format_ofSource here context column⟩
  between := by
    rw [length_below]
    omega
  follows_iff := caretFollows_iff column first last forward
  diagnostic d file located := by
    apply Diagnostic.exists_lines_compact located (Diagnostic.snippet?_eq_some first last)
    apply isUnbroken_ofSource

/-- The window around the second of three lines. -/
theorem placesCaret_second :
  (1 : Int) ≤ 2 ∧ (2 : Int) ≤ (Text.lines "a\nb\nc").length ∧ (0 : Int) ≤ 1
    ∧ PlacesCaret "a\nb\nc" 2 1 0
  := by
  have count : (Text.lines "a\nb\nc").length = 3 := by decide
  refine ⟨by decide, by rw [count]; decide, by decide, ?_⟩
  apply placesCaret 0 (by decide) (by rw [count]; decide) (by decide)

/-- Of two lines, the second stands between the first and the caret below it. -/
theorem not_forall_caretFollows :
  ¬ ∀ (source : String) (errorLine context column : Int), 1 ≤ errorLine →
    errorLine ≤ (Text.lines source).length → 0 ≤ context → 0 ≤ column →
    CaretFollows source errorLine context column
  := by
  intro always
  have count : (Text.lines "a\nb").length = 2 := by decide
  have inside : (1 : Int) ≤ (Text.lines "a\nb").length := by
    rw [count]
    decide
  have follows := always "a\nb" 1 1 0 (by decide) inside (by decide) (by decide)
  rcases (caretFollows_iff 0 (by decide) inside (by decide)).mp follows with none | last
  · cases none
  · rw [count] at last
    cases last

end Snippet

end StyleValue
