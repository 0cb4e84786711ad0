import StyleValue.Proofs.Diagnostic.Caret
import StyleValue.Proofs.Diagnostic.Colors

/-!
# Which lines a diagnostic shows and marks

A diagnostic shows a snippet of the source when the window around its line is not empty: for the
lines of the source, and also right before the first and right behind the last of them.  The line
itself is marked if the source has it, and no other line is (`Diagnostic.showsSource`).
-/

namespace StyleValue

open Terminal

/-- Nothing is kept of a list whose items all fail a test. -/
theorem filter_eq_nil_of_forall_not {α : Type} {p : α → Prop} [DecidablePred p] {as : List α}
    (h : ∀ a ∈ as, ¬ p a) :
  as.filter (p ·) = []
  := by
  apply List.filter_eq_nil_iff.mpr
  intro a mem
  rw [decide_eq_true_iff]
  exact h a mem

/-- A text is longer by an item, and by what separates it from others, with the item than without. -/
theorem length_intercalate_insert (separator : String) {front : List String} (h : front ≠ [])
    (item : String) (rest : List String) :
  (String.intercalate separator (front ++ item :: rest)).length
    = (String.intercalate separator (front ++ rest)).length + separator.length + item.length
  := by
  have behind := String.intercalate_append_of_ne_nil (s := separator) h (List.cons_ne_nil item rest)
  by_cases last : rest = []
  · rw [behind, last, List.append_nil, String.intercalate_singleton, String.length_append,
      String.length_append]
  · rw [behind, String.intercalate_cons_of_ne_nil last,
      String.intercalate_append_of_ne_nil h last]
    simp only [String.length_append]
    omega

namespace Snippet

/-! ### Marked rows -/

/-- Without its colours the row begins with the mark of an offending line. -/
def IsMarked (row : String) : Prop := (strip row).toList.head? = some '>'

instance (row : String) : Decidable (IsMarked row) :=
  inferInstanceAs (Decidable ((strip row).toList.head? = some '>'))

theorem isMarked_numberedLine_iff {colors : Bool} {n : Int} {content : String} {isError : Bool} :
  IsMarked (numberedLine colors n content isError) ↔ isError = true
  := by
  rw [IsMarked, strip_numberedLine]
  simp only [numberedLine, dimText, paint_false, String.toList_append]
  cases isError with
  | true => simp
  | false => simp

theorem not_isMarked_gutter (colors : Bool) :
  ¬ IsMarked (gutter colors)
  := by
  rw [IsMarked, strip_gutter]
  decide

theorem not_isMarked_caretLine (colors : Bool) (column : Int) :
  ¬ IsMarked (caretLine colors column)
  := by
  rw [IsMarked, strip_caretLine, toList_caretLine]
  simp

/-- The marked rows are those of the lines with the number of the offending one. -/
theorem filter_isMarked_rows (colors : Bool) (snippet : Snippet) :
  (snippet.rows colors).filter (IsMarked ·)
    = (snippet.lines.filter (·.1 = snippet.errorLine)).map fun line =>
        numberedLine colors line.1 line.2 true
  := by
  have margin : [gutter colors].filter (IsMarked ·) = [] := by
    apply filter_eq_nil_of_forall_not
    rw [List.forall_mem_singleton]
    apply not_isMarked_gutter
  have caret : (snippet.column.map (caretLine colors)).toList.filter (IsMarked ·) = [] := by
    apply filter_eq_nil_of_forall_not
    intro row mem
    obtain ⟨column, -, rfl⟩ := Option.map_eq_some_iff.mp (Option.mem_toList.mp mem)
    apply not_isMarked_caretLine
  have marked (line : Int × String) :
      decide (IsMarked (numberedLine colors line.1 line.2 (line.1 = snippet.errorLine)))
        = decide (line.1 = snippet.errorLine) := by
    simp only [isMarked_numberedLine_iff, decide_eq_true_eq]
  rw [rows, List.filter_append, List.filter_append, List.filter_cons_of_neg, List.filter_map, caret,
    margin, List.append_nil, List.append_nil]
  · simp only [Function.comp_def, marked]
    apply List.map_congr_left
    intro line mem
    simp only [(List.mem_filter.mp mem).2]
  · rw [decide_eq_true_iff]
    apply not_isMarked_gutter

/-! ### The offending line in its window -/

section

variable {lines : List String} {errorLine : Int}

/-- Of a text that has the line, the window shows it once. -/
theorem filter_window_of_getElem? {k : Nat} {content : String} (h : lines[k]? = some content)
    (context : Nat) :
  (window lines ((k : Int) + 1) context).filter (·.1 = (k : Int) + 1) = [((k : Int) + 1, content)]
  := by
  have noneAbove : (above lines k context).filter (·.1 = (k : Int) + 1) = [] := by
    apply filter_eq_nil_of_forall_not
    intro line mem
    have before := fst_lt_of_mem_above mem
    omega
  have noneBelow : (below lines k context).filter (·.1 = (k : Int) + 1) = [] := by
    apply filter_eq_nil_of_forall_not
    intro line mem
    have after := lt_fst_of_mem_below mem
    omega
  rw [window_around h, List.filter_append, noneAbove, List.filter_cons_of_pos, noneBelow,
    List.nil_append]
  exact decide_eq_true rfl

/-- Of a text that does not have the line, no window shows it. -/
theorem filter_window_of_outside (outside : errorLine < 1 ∨ lines.length < errorLine)
    (context : Int) :
  (window lines errorLine context).filter (·.1 = errorLine) = []
  := by
  apply filter_eq_nil_of_forall_not
  rintro ⟨n, content⟩ mem
  obtain ⟨first, last, -, -⟩ := mem_window_iff.mp mem
  omega

theorem window_ne_nil_iff {context : Int} (forward : 0 ≤ context) :
  window lines errorLine context ≠ []
    ↔ lines ≠ [] ∧ 1 - context ≤ errorLine ∧ errorLine ≤ lines.length + context
  := by
  rw [← List.length_pos_iff, ← List.length_pos_iff, length_window, stopIndex, firstIndex]
  omega

end

end Snippet

namespace Diagnostic

/-! ### What a diagnostic shows -/

/-- The diagnostic shows a snippet, between where the mistake is and where it is explained. -/
def ShowsSnippet (colors : Bool) (source : Option String) (d : Diagnostic) (snippet : Snippet) :
    Prop :=
  d.compact colors source
    = String.intercalate "\n" (d.header colors :: d.place colors none
        ++ snippet.format colors :: d.documentation colors)

section

variable {d : Diagnostic} {loc : Location} (located : d.loc = some loc)

include located

theorem place_eq (colors : Bool) (source : Option String) :
  d.place colors source
    = d.place colors none ++ ((snippet? source loc).map (Snippet.format colors)).toList
  := by
  rw [place, place, located]
  rfl

theorem showsSnippet_of_snippet? {source : Option String} {snippet : Snippet}
    (h : snippet? source loc = some snippet) (colors : Bool) :
  d.ShowsSnippet colors source snippet
  := by
  rw [ShowsSnippet, compact, place_eq located, h]
  simp only [Option.map_some, Option.toList_some, List.append_assoc, List.cons_append,
    List.nil_append]

theorem exists_showsSnippet_iff_snippet? {source : Option String} {colors : Bool} :
  (∃ snippet, d.ShowsSnippet colors source snippet) ↔ ∃ snippet, snippet? source loc = some snippet
  := by
  constructor
  · rintro ⟨snippet, shown⟩
    by_contra none
    rw [not_exists, ← Option.eq_none_iff_forall_ne_some] at none
    rw [ShowsSnippet, compact, place_eq located, none] at shown
    have longer := length_intercalate_insert "\n"
      (List.cons_ne_nil (d.header colors) (d.place colors .none)) (snippet.format colors)
      (d.documentation colors)
    have separated : "\n".length = 1 := by decide
    rw [← shown, Option.map_none, Option.toList_none, List.append_nil] at longer
    omega
  · rintro ⟨snippet, shown⟩
    exact ⟨snippet, showsSnippet_of_snippet? located shown colors⟩

end

/-- The snippet is the one around the line, unless there is no line in it. -/
theorem snippet?_eq_some_iff {source : String} {loc : Location} {snippet : Snippet} :
  snippet? (some source) loc = some snippet
    ↔ Snippet.window (Text.lines source) loc.line 1 ≠ []
      ∧ snippet = .ofSource source loc.line 1 (some loc.column)
  := by
  rw [snippet?, Snippet.ofSource_eq, Ne, ← List.isEmpty_iff]
  split
  next empty =>
    constructor
    · rintro ⟨⟩
    · rintro ⟨shown, -⟩
      exact absurd empty shown
  next shown =>
    constructor
    · rintro ⟨⟩
      exact ⟨shown, rfl⟩
    · rintro ⟨-, rfl⟩
      rfl

theorem exists_showsSnippet_iff {d : Diagnostic} {loc : Location} (located : d.loc = some loc)
    {colors : Bool} {source : String} :
  (∃ snippet, d.ShowsSnippet colors (some source) snippet)
    ↔ Text.lines source ≠ [] ∧ 0 ≤ loc.line ∧ loc.line ≤ (Text.lines source).length + 1
  := by
  have around : Snippet.window (Text.lines source) loc.line 1 ≠ []
      ↔ Text.lines source ≠ [] ∧ 1 - 1 ≤ loc.line ∧ loc.line ≤ (Text.lines source).length + 1 := by
    apply Snippet.window_ne_nil_iff
    decide
  rw [Int.sub_self] at around
  simp only [exists_showsSnippet_iff_snippet? located, snippet?_eq_some_iff, exists_and_left,
    exists_eq, and_true, around]

/-- What a diagnostic for a place shows of a source. -/
structure ShowsSource (colors : Bool) (source : String) (d : Diagnostic) (loc : Location) :
    Prop where
  /-- It shows a snippet for the lines of the source, and right before and right behind them. -/
  shows_iff : (∃ snippet, d.ShowsSnippet colors (some source) snippet)
    ↔ Text.lines source ≠ [] ∧ 0 ≤ loc.line ∧ loc.line ≤ (Text.lines source).length + 1
  /-- The snippet is the one around the line, with one line to either side. -/
  around (shown : ∃ snippet, d.ShowsSnippet colors (some source) snippet) :
    d.ShowsSnippet colors (some source) (.ofSource source loc.line 1 (some loc.column))
  /-- The lines of the snippet are its rows. -/
  rows : Text.lines ((Snippet.ofSource source loc.line 1 (some loc.column)).format colors)
    = (Snippet.ofSource source loc.line 1 (some loc.column)).rows colors
  /-- The line is marked, and no other one, if the source has it. -/
  marks (first : 1 ≤ loc.line) (last : loc.line ≤ (Text.lines source).length) :
    ∃ content, (Text.lines source)[(loc.line - 1).toNat]? = some content
      ∧ ((Snippet.ofSource source loc.line 1 (some loc.column)).rows colors).filter
          (Snippet.IsMarked ·)
        = [Snippet.numberedLine colors loc.line content true]
  /-- No line is marked if the source does not have it. -/
  unmarked (outside : loc.line < 1 ∨ (Text.lines source).length < loc.line) :
    ((Snippet.ofSource source loc.line 1 (some loc.column)).rows colors).filter
      (Snippet.IsMarked ·) = []

theorem showsSource (colors : Bool) (source : String) {d : Diagnostic} {loc : Location}
    (located : d.loc = some loc) :
  ShowsSource colors source d loc
  where
  shows_iff := exists_showsSnippet_iff located
  around shown := by
    obtain ⟨snippet, isShown⟩ := (exists_showsSnippet_iff_snippet? located).mp shown
    obtain ⟨-, rfl⟩ := snippet?_eq_some_iff.mp isShown
    apply showsSnippet_of_snippet? located isShown
  rows := by
    apply Snippet.lines_format
    apply Snippet.isUnbroken_ofSource
  marks first last := by
    obtain ⟨k, isLine⟩ := Int.le.dest first
    rw [Int.add_comm] at isLine
    have here := List.getElem?_eq_getElem (l := Text.lines source) (i := k) (by omega)
    have once := Snippet.filter_window_of_getElem? here 1
    rw [← isLine, Int.add_sub_cancel, Int.toNat_natCast, Snippet.filter_isMarked_rows,
      Snippet.ofSource_eq]
    exact ⟨_, here, congrArg (List.map _) once⟩
  unmarked outside := by
    rw [Snippet.filter_isMarked_rows, Snippet.ofSource_eq, Snippet.filter_window_of_outside outside,
      List.map_nil]

/-- A diagnostic for the second of three lines. -/
theorem showsSource_second :
  (plain "m" (some ⟨2, 0, none⟩)).loc = some ⟨2, 0, none⟩
    ∧ (1 : Int) ≤ 2 ∧ (2 : Int) ≤ (Text.lines "a\nb\nc").length
    ∧ ShowsSource true "a\nb\nc" (plain "m" (some ⟨2, 0, none⟩)) ⟨2, 0, none⟩
  := by
  have count : (Text.lines "a\nb\nc").length = 3 := by decide
  refine ⟨rfl, by decide, by rw [count]; decide, ?_⟩
  exact showsSource true "a\nb\nc" rfl

/-- Right behind the only line of a source a diagnostic shows that line. -/
theorem not_forall_exists_showsSnippet_iff :
  ¬ ∀ (colors : Bool) (source : String) (d : Diagnostic) (loc : Location), d.loc = some loc →
    ((∃ snippet, d.ShowsSnippet colors (some source) snippet)
      ↔ 1 ≤ loc.line ∧ loc.line ≤ (Text.lines source).length)
  := by
  intro always
  have count : (Text.lines "a").length = 1 := by decide
  have located : (plain "m" (some ⟨2, 0, none⟩)).loc = some ⟨2, 0, none⟩ := rfl
  have shown : ∃ snippet,
      (plain "m" (some ⟨2, 0, none⟩)).ShowsSnippet false (some "a") snippet := by
    apply (exists_showsSnippet_iff located).mpr
    rw [count]
    decide
  obtain ⟨-, inside⟩ := (always false "a" _ _ located).mp shown
  rw [count] at inside
  revert inside
  decide

end Diagnostic

end StyleValue
