import StyleValue.Diagnostic.Basic
import StyleValue.Proofs.Diagnostic.Cut
import StyleValue.Proofs.Terminal.Strip

/-!
# Diagnostics without their colours

A diagnostic says the same with and without colours: stripping leaves the same of both, whatever
texts the diagnostic is about.  It leaves the uncoloured diagnostic itself when none of these texts
has an escape character.  `stripsColors` says so of diagnostics, of source snippets, of their lines
and of painted texts.

Everything is shown row by row, and a row is stripped apart from the others.  In a row, a text that
is not known beforehand stands last, where no sequence that it ends within can be completed.
-/

namespace StyleValue

open Terminal

/-! ### Texts without escape characters -/

theorem escapeFree_plain_ofInt (n : Int) :
  EscapeFree (Decimal.ofInt n).plain
  := by
  intro mem
  rcases Decimal.mem_plain_ofInt mem with minus | digit
  · revert minus
    decide
  · revert digit
    decide

theorem escapeFree_ofList_replicate {c : Char} (h : c ≠ escape) (count : Nat) :
  EscapeFree (String.ofList (List.replicate count c))
  := by
  rw [EscapeFree, String.toList_ofList, List.mem_replicate]
  rintro ⟨-, rfl⟩
  exact h rfl

namespace Text

/-- The lines of a text are made of its characters. -/
theorem mem_of_mem_splitLines {text line : List Char} (h : line ∈ splitLines text) :
  ∀ c ∈ line, c ∈ text
  := by
  fun_induction splitLines text generalizing line with
  | case1 => cases h
  | case2 rest ih =>
      rcases List.mem_cons.mp h with rfl | inRest
      · simp
      · intro c mem
        apply List.mem_cons_of_mem
        apply List.mem_cons_of_mem
        apply ih inRest c mem
  | case3 d rest _ isBreak ih =>
      rcases List.mem_cons.mp h with rfl | inRest
      · simp
      · intro c mem
        apply List.mem_cons_of_mem
        apply ih inRest c mem
  | case4 d rest _ noBreak ih =>
      intro c mem
      rcases mem_consLine h with rfl | ⟨tail, inRest, rfl⟩ | inRest
      · rw [List.mem_singleton] at mem
        rw [mem]
        apply List.mem_cons_self
      · rcases List.mem_cons.mp mem with rfl | inTail
        · apply List.mem_cons_self
        · apply List.mem_cons_of_mem
          apply ih inRest c inTail
      · apply List.mem_cons_of_mem
        apply ih inRest c mem

theorem escapeFree_of_mem_lines {text line : String} (h : EscapeFree text)
    (mem : line ∈ lines text) :
  EscapeFree line
  := by
  obtain ⟨cs, split, rfl⟩ := List.mem_map.mp mem
  rw [EscapeFree, String.toList_ofList]
  intro inLine
  exact h (mem_of_mem_splitLines split Terminal.escape inLine)

end Text

namespace Snippet

/-! ### Snippets -/

theorem escapeFree_lineNumber (n : Int) :
  EscapeFree (lineNumber n)
  := by
  rw [lineNumber, escapeFree_append_iff]
  exact ⟨escapeFree_ofList_replicate (by decide) _, escapeFree_plain_ofInt n⟩

theorem strip_numberedLine (colors : Bool) (n : Int) (content : String) (isError : Bool) :
  strip (numberedLine colors n content isError) = numberedLine false n (strip content) isError
  := by
  have number : EscapeFree ((if isError then ">" else " ") ++ lineNumber n) := by
    rw [escapeFree_append_iff]
    exact ⟨by cases isError <;> decide, escapeFree_lineNumber n⟩
  have body : strip (if isError then paint colors [.brightRed] content else dimText colors content)
      = strip content := by
    split <;> apply strip_paint
  rw [numberedLine, String.append_assoc, strip_paint_append _ _ number,
    strip_append_of_escapeFree (by decide), body]
  simp only [numberedLine, dimText, paint_false, ite_self, String.append_assoc]

theorem strip_gutter (colors : Bool) :
  strip (gutter colors) = gutter false
  := by
  rw [gutter, dimText, strip_paint, strip_of_escapeFree (by decide)]
  rfl

theorem strip_caretLine (colors : Bool) (column : Int) :
  strip (caretLine colors column) = caretLine false column
  := by
  rw [caretLine, gutter, dimText, String.append_assoc, String.append_assoc,
    strip_paint_append _ _ (by decide), strip_append_of_escapeFree (by decide),
    strip_append_of_escapeFree (escapeFree_ofList_replicate (by decide) _), strip_paint,
    strip_of_escapeFree (by decide)]
  simp only [caretLine, gutter, dimText, paint_false, String.append_assoc]

/-- The snippet with its lines stripped. -/
def stripped (snippet : Snippet) : Snippet :=
  { snippet with lines := snippet.lines.map fun (n, content) => (n, strip content) }

/-- A snippet is stripped line by line. -/
theorem strip_format (colors : Bool) (snippet : Snippet) :
  strip (snippet.format colors) = snippet.stripped.format false
  := by
  obtain ⟨lines, errorLine, column⟩ := snippet
  have numbered : (lines.map fun (n, content) =>
        numberedLine colors n content (n = errorLine)).map strip
      = (lines.map fun (n, content) => (n, strip content)).map fun (n, content) =>
        numberedLine false n content (n = errorLine) := by
    rw [List.map_map, List.map_map]
    apply List.map_congr_left
    rintro ⟨n, content⟩ -
    apply strip_numberedLine
  have caret : (column.map (caretLine colors)).toList.map strip
      = (column.map (caretLine false)).toList := by
    cases column with
    | none => rfl
    | some c => exact congrArg (fun row => [row]) (strip_caretLine colors c)
  rw [format, strip_intercalate, rows, List.map_append, List.map_append, List.map_cons, numbered,
    caret, List.map_singleton, strip_gutter]
  rfl

theorem stripped_of_escapeFree {snippet : Snippet}
    (h : ∀ line ∈ snippet.lines, EscapeFree line.2) :
  snippet.stripped = snippet
  := by
  have same :
      (snippet.lines.map fun (n, content) => (n, strip content)) = snippet.lines.map id := by
    apply List.map_congr_left
    rintro ⟨n, content⟩ mem
    exact congrArg (Prod.mk n) (strip_of_escapeFree (h _ mem))
  rw [stripped, same, List.map_id]

/-- The lines around one of a text without escape characters have none either. -/
theorem escapeFree_of_mem_ofSource
    {source : String} (h : EscapeFree source) (errorLine context : Int) (column : Option Int) :
  ∀ line ∈ (ofSource source errorLine context column).lines, EscapeFree line.2
  := by
  rw [ofSource_eq]
  intro line mem
  apply Text.escapeFree_of_mem_lines h (snd_mem_of_mem_window mem)

end Snippet

/-! ### Diagnostics -/

theorem Location.escapeFree_text {l : Location} (h : ∀ name ∈ l.file, EscapeFree name) :
  EscapeFree l.text
  := by
  have sheet : EscapeFree l.sheetName := by
    rw [sheetName]
    cases file : l.file with
    | none => decide
    | some name =>
        simp only
        split
        · decide
        · apply h name file
  simp only [text, escapeFree_append_iff]
  exact ⟨⟨⟨⟨sheet, by decide⟩, escapeFree_plain_ofInt _⟩, by decide⟩, escapeFree_plain_ofInt _⟩

namespace ErrorCode

theorem escapeFree_text (code : ErrorCode) :
  EscapeFree code.text
  := by
  cases code <;> decide

theorem escapeFree_documentation (code : ErrorCode) :
  EscapeFree code.documentation
  := by
  apply escapeFree_append_iff.mpr
  constructor
  · decide
  · have lowered : code.text.toLower = code.text.map Char.toLower := rfl
    rw [EscapeFree, lowered, String.toList_map]
    cases code <;> decide

end ErrorCode

theorem OperationError.escapeFree_message {e : OperationError}
    (h : EscapeFree e.operation.symbol) :
  EscapeFree e.message
  := by
  have kind (k : Kind) : EscapeFree k.name := by cases k <;> decide
  rw [message]
  split
  · decide
  · decide
  · simp only [escapeFree_append_iff]
    exact ⟨⟨⟨⟨⟨by decide, kind _⟩, by decide⟩, h⟩, by decide⟩, kind _⟩

namespace Diagnostic

theorem strip_header (colors : Bool) (d : Diagnostic) :
  strip (d.header colors) = { d with message := strip d.message }.header false
  := by
  rw [header, header]
  cases d.code with
  | none => rfl
  | some code =>
      simp only [Terminal.errorCode, paint_false, String.append_assoc]
      rw [strip_paint_append _ _ code.escapeFree_text, strip_append_of_escapeFree (by decide)]

/-- The place of a diagnostic, with the location and the lines of the source stripped. -/
theorem map_strip_place (colors : Bool) (source : Option String) (d : Diagnostic) :
  (d.place colors source).map strip
    = match d.loc with
      | none => []
      | some loc =>
          (arrow ++ strip loc.text)
            :: ((snippet? source loc).map fun snippet => snippet.stripped.format false).toList
  := by
  rw [place]
  cases d.loc with
  | none => rfl
  | some loc =>
      simp only [List.map_cons, locationText]
      rw [strip_append_of_escapeFree (by decide), strip_paint]
      cases snippet? source loc with
      | none => rfl
      | some snippet =>
          simp only [Option.map_some, Option.toList_some, List.map_cons, Snippet.strip_format]
          rfl

theorem map_strip_documentation (colors : Bool) (d : Diagnostic) :
  (d.documentation colors).map strip = d.documentation false
  := by
  rw [documentation, documentation]
  cases d.code with
  | none => rfl
  | some code =>
      simp only [List.map_cons, List.map_nil, dimText, documentationLink, paint_false,
        String.append_assoc]
      rw [strip_append_of_escapeFree (by decide), strip_paint_append _ _ (by decide),
        strip_append_of_escapeFree (by decide), strip_paint,
        strip_of_escapeFree code.escapeFree_documentation]

theorem strip_compact (colors : Bool) (source : Option String) (d : Diagnostic) :
  strip (d.compact colors source)
    = String.intercalate "\n"
        ({ d with message := strip d.message }.header false
          :: (d.place colors source).map strip ++ d.documentation false)
  := by
  rw [compact, strip_intercalate, List.map_append, List.map_cons, strip_header,
    map_strip_documentation]

/-- Neither the message nor the name of the file has an escape character. -/
def IsEscapeFree (d : Diagnostic) : Prop :=
  EscapeFree d.message ∧ ∀ loc ∈ d.loc, ∀ name ∈ loc.file, EscapeFree name

theorem map_strip_place_of_escapeFree
    {d : Diagnostic} (h : d.IsEscapeFree) {source : Option String}
    (hsource : ∀ text ∈ source, EscapeFree text) (colors : Bool) :
  (d.place colors source).map strip = d.place false source
  := by
  obtain ⟨-, names⟩ := h
  rw [map_strip_place, place]
  cases located : d.loc with
  | none => rfl
  | some loc =>
      have snippets : (snippet? source loc).map (fun snippet => snippet.stripped.format false)
          = (snippet? source loc).map (Snippet.format false) := by
        cases source with
        | none => rfl
        | some text =>
            have free := Snippet.escapeFree_of_mem_ofSource (hsource text rfl) loc.line 1
              (some loc.column)
            simp only [snippet?]
            split
            · rfl
            · rw [Option.map_some, Snippet.stripped_of_escapeFree free]
              rfl
      have shown : strip loc.text = loc.text :=
        strip_of_escapeFree (Location.escapeFree_text (names loc located))
      simp only [snippets, shown, locationText, paint_false]

end Diagnostic

/-! ### What is shown with and without colours -/

/-- Stripping leaves the same of what is shown with and without colours, and takes out nothing but
the colours when there are no other escape characters. -/
structure StripsColors : Prop where
  text (styles : List Style) (text : String) :
    strip (paint true styles text) = strip (paint false styles text)
  line (n : Int) (content : String) (isError : Bool) :
    strip (Snippet.numberedLine true n content isError)
      = strip (Snippet.numberedLine false n content isError)
  snippet (snippet : Snippet) : strip (snippet.format true) = strip (snippet.format false)
  diagnostic (source : Option String) (d : Diagnostic) :
    strip (d.compact true source) = strip (d.compact false source)
  plainText (styles : List Style) {text : String} (h : EscapeFree text) :
    strip (paint true styles text) = paint false styles text
  plainLine (n : Int) {content : String} (h : EscapeFree content) (isError : Bool) :
    strip (Snippet.numberedLine true n content isError)
      = Snippet.numberedLine false n content isError
  plainSnippet {snippet : Snippet} (h : ∀ line ∈ snippet.lines, EscapeFree line.2) :
    strip (snippet.format true) = snippet.format false
  plainDiagnostic {source : Option String} (hsource : ∀ text ∈ source, EscapeFree text)
      {d : Diagnostic} (h : d.IsEscapeFree) :
    strip (d.compact true source) = d.compact false source
  /-- The message of a failing operation is made of the names of kinds and of its symbol. -/
  plainOperation {source : Option String} (hsource : ∀ text ∈ source, EscapeFree text)
      {e : OperationError} (hsymbol : EscapeFree e.operation.symbol)
      (hfile : ∀ loc ∈ e.loc, ∀ name ∈ loc.file, EscapeFree name) :
    strip (e.diagnostic.compact true source) = e.diagnostic.compact false source

theorem Diagnostic.strip_compact_of_escapeFree
    {source : Option String} (hsource : ∀ text ∈ source, EscapeFree text)
    {d : Diagnostic} (h : d.IsEscapeFree) :
  strip (d.compact true source) = d.compact false source
  := by
  rw [strip_compact, map_strip_place_of_escapeFree h hsource, strip_of_escapeFree h.1, compact]

theorem stripsColors :
  StripsColors
  where
  text styles text := by
    rw [strip_paint, strip_paint]
  line n content isError := by
    rw [Snippet.strip_numberedLine, Snippet.strip_numberedLine]
  snippet snippet := by
    rw [Snippet.strip_format, Snippet.strip_format]
  diagnostic source d := by
    rw [Diagnostic.strip_compact, Diagnostic.strip_compact, Diagnostic.map_strip_place,
      Diagnostic.map_strip_place]
  plainText styles text h := by
    rw [strip_paint, strip_of_escapeFree h, paint_false]
  plainLine n content h isError := by
    rw [Snippet.strip_numberedLine, strip_of_escapeFree h]
  plainSnippet h := by
    rw [Snippet.strip_format, Snippet.stripped_of_escapeFree h]
  plainDiagnostic hsource d h := Diagnostic.strip_compact_of_escapeFree hsource h
  plainOperation hsource e hsymbol hfile :=
    Diagnostic.strip_compact_of_escapeFree hsource
      ⟨OperationError.escapeFree_message hsymbol, hfile⟩

/-- A division by zero in a sheet of one line. -/
theorem strip_divideByZero :
  EscapeFree "a: 1 / 0;" ∧ EscapeFree "/" ∧ EscapeFree "a.css"
    ∧ strip ((OperationError.diagnostic
          ⟨.divideByZero, ⟨"/", .number, .number⟩, some ⟨1, 7, some "a.css"⟩⟩).compact true
        (some "a: 1 / 0;"))
      = (OperationError.diagnostic
          ⟨.divideByZero, ⟨"/", .number, .number⟩, some ⟨1, 7, some "a.css"⟩⟩).compact false
        (some "a: 1 / 0;")
  := by
  refine ⟨by decide, by decide, by decide, ?_⟩
  apply stripsColors.plainOperation
  · rintro _ ⟨⟩
    decide
  · decide
  · rintro _ ⟨⟩ _ ⟨⟩
    decide

end StyleValue
