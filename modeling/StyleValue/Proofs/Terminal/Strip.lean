import StyleValue.Terminal.Escape
import StyleValue.Terminal.Style

/-!
# Stripping a text piece by piece

Two pieces of a text may be stripped apart when no escape sequence reaches over the joint between
them.  There are two reasons for that: the former piece has no escape character, or the latter
begins with a character that interrupts every sequence, such as a line feed or the escape character
of the next one.

The codes of styles are sequences, and begin with the escape character.  So `strip_paint` holds of
every text, also of one that ends within a sequence: the code after it does not complete it.
-/

namespace StyleValue.Terminal

/-- No escape sequence goes on with the character. -/
def interrupts (c : Char) : Bool :=
  !isSingle c && c != '[' && !isParameter c && !isIntermediate c && !isFinal c

theorem interrupts_escape :
  interrupts escape
  := by decide

theorem interrupts_lineFeed :
  interrupts '\n'
  := by decide

/-! ### Characters -/

theorem stripped_cons_of_ne {c : Char} (h : c ≠ escape) (rest : List Char) :
  stripped (c :: rest) = c :: stripped rest
  := by
  rw [stripped, if_neg h]

theorem stripped_escape_of_some {rest tail : List Char} (h : afterEscape? rest = some tail) :
  stripped (escape :: rest) = stripped tail
  := by
  rw [stripped, if_pos rfl]
  split
  next found =>
    rw [h] at found
    obtain rfl := Option.some.inj found
    rfl
  next missing =>
    rw [h] at missing
    contradiction

theorem stripped_escape_of_none {rest : List Char} (h : afterEscape? rest = none) :
  stripped (escape :: rest) = escape :: stripped rest
  := by
  rw [stripped, if_pos rfl]
  split
  next found =>
    rw [h] at found
    contradiction
  next => rfl

/-- Characters that do not begin a sequence are kept. -/
theorem stripped_append_of_not_mem {cs : List Char} (h : escape ∉ cs) (rest : List Char) :
  stripped (cs ++ rest) = cs ++ stripped rest
  := by
  induction cs with
  | nil => rfl
  | cons c cs ih =>
      simp only [List.mem_cons, not_or] at h
      obtain ⟨different, free⟩ := h
      rw [List.cons_append, stripped_cons_of_ne (Ne.symm different), ih free, List.cons_append]

theorem dropWhile_append_of_stops {p : Char → Bool} {c : Char} (stops : p c = false)
    (cs rest : List Char) :
  (cs ++ c :: rest).dropWhile p = cs.dropWhile p ++ c :: rest
  := by
  rw [List.dropWhile_append, List.dropWhile_cons, stops]
  split
  · rename_i none
    rw [List.isEmpty_iff.mp none]
    rfl
  · rfl

section

variable {c : Char} (h : interrupts c) (cs rest : List Char)

include h

theorem afterControl?_append :
  afterControl? (cs ++ c :: rest) = (afterControl? cs).map (· ++ c :: rest)
  := by
  simp only [interrupts, Bool.and_eq_true, Bool.not_eq_true'] at h
  obtain ⟨⟨⟨-, parameter⟩, intermediate⟩, final⟩ := h
  rw [afterControl?, afterControl?, dropWhile_append_of_stops parameter,
    dropWhile_append_of_stops intermediate]
  cases (cs.dropWhile isParameter).dropWhile isIntermediate with
  | nil =>
      simp only [List.nil_append, final]
      rfl
  | cons d tail =>
      simp only [List.cons_append]
      split <;> rfl

theorem afterEscape?_append :
  afterEscape? (cs ++ c :: rest) = (afterEscape? cs).map (· ++ c :: rest)
  := by
  cases cs with
  | nil =>
      simp only [interrupts, Bool.and_eq_true, Bool.not_eq_true', bne_iff_ne] at h
      obtain ⟨⟨⟨⟨single, bracket⟩, -⟩, -⟩, -⟩ := h
      simp only [List.nil_append, afterEscape?, if_neg bracket, single]
      rfl
  | cons d tail =>
      simp only [List.cons_append, afterEscape?, afterControl?_append h]
      split
      · rfl
      · split <;> rfl

/-- What comes before a character that interrupts every sequence is stripped apart. -/
theorem stripped_append :
  stripped (cs ++ c :: rest) = stripped cs ++ stripped (c :: rest)
  := by
  -- along the sequences of the former part, none of which is longer than there
  induction cs using stripped.induct with
  | case1 =>
      rw [stripped]
      rfl
  | case2 cs tail found _ ih =>
      have found' : afterEscape? (cs ++ c :: rest) = some (tail ++ c :: rest) := by
        rw [afterEscape?_append h, found]
        rfl
      rw [List.cons_append, stripped_escape_of_some found', stripped_escape_of_some found, ih]
  | case3 cs missing ih =>
      have missing' : afterEscape? (cs ++ c :: rest) = none := by
        rw [afterEscape?_append h, missing]
        rfl
      rw [List.cons_append, stripped_escape_of_none missing', stripped_escape_of_none missing, ih]
      rfl
  | case4 d cs different ih =>
      rw [List.cons_append, stripped_cons_of_ne different, stripped_cons_of_ne different, ih]
      rfl

end

/-- A code is taken out. -/
theorem stripped_code {parameter : String} (h : ∀ c ∈ parameter.toList, isParameter c)
    (rest : List Char) :
  stripped ((code parameter).toList ++ rest) = stripped rest
  := by
  have shape : (code parameter).toList ++ rest
      = escape :: '[' :: (parameter.toList ++ 'm' :: rest) := by
    simp only [code, String.toList_append, List.append_assoc]
    rfl
  rw [shape]
  apply stripped_escape_of_some
  have final : isFinal 'm' := by decide
  rw [afterEscape?, if_pos rfl, afterControl?, List.dropWhile_append_of_pos h]
  simp only [List.dropWhile_cons, show isParameter 'm' = false by decide,
    show isIntermediate 'm' = false by decide, Bool.false_eq_true, if_false, if_pos final]

/-! ### Texts -/

/-- The text holds no escape character. -/
def EscapeFree (text : String) : Prop := escape ∉ text.toList

instance (text : String) : Decidable (EscapeFree text) :=
  inferInstanceAs (Decidable (escape ∉ text.toList))

theorem escapeFree_append_iff {s t : String} :
  EscapeFree (s ++ t) ↔ EscapeFree s ∧ EscapeFree t
  := by
  rw [EscapeFree, String.toList_append, List.mem_append, not_or]
  exact Iff.rfl

theorem strip_append_of_escapeFree {text : String} (h : EscapeFree text) (rest : String) :
  strip (text ++ rest) = text ++ strip rest
  := by
  rw [strip, strip, String.toList_append, stripped_append_of_not_mem h, String.ofList_append,
    String.ofList_toList]

theorem strip_of_escapeFree {text : String} (h : EscapeFree text) :
  strip text = text
  := by
  rw [← String.append_empty (s := text), strip_append_of_escapeFree h, strip, String.toList_empty,
    stripped]

theorem strip_empty :
  strip "" = ""
  := by
  apply strip_of_escapeFree
  rintro ⟨⟩

theorem strip_code_append {parameter : String} (h : ∀ c ∈ parameter.toList, isParameter c)
    (rest : String) :
  strip (code parameter ++ rest) = strip rest
  := by
  rw [strip, String.toList_append, stripped_code h, strip]

/-- A text is stripped apart from a code after it, also when it ends within a sequence. -/
theorem strip_append_code (text parameter rest : String) :
  strip (text ++ (code parameter ++ rest)) = strip text ++ strip (code parameter ++ rest)
  := by
  have shape : (code parameter ++ rest).toList
      = escape :: ('[' :: (parameter.toList ++ 'm' :: rest.toList)) := by
    simp only [code, String.toList_append, List.append_assoc]
    rfl
  rw [strip, strip, strip, String.toList_append, shape, stripped_append interrupts_escape,
    String.ofList_append]

theorem strip_append_lineFeed (text rest : String) :
  strip (text ++ "\n" ++ rest) = strip text ++ "\n" ++ strip rest
  := by
  have kept : stripped ('\n' :: rest.toList) = "\n".toList ++ stripped rest.toList :=
    stripped_cons_of_ne (by decide) _
  have shape : (text ++ "\n" ++ rest).toList = text.toList ++ '\n' :: rest.toList := by
    simp only [String.toList_append, List.append_assoc]
    rfl
  rw [strip, shape, stripped_append interrupts_lineFeed, kept, String.ofList_append,
    String.ofList_append, String.ofList_toList, String.append_assoc, strip, strip]

/-- Lines are stripped one by one. -/
theorem strip_intercalate (rows : List String) :
  strip (String.intercalate "\n" rows) = String.intercalate "\n" (rows.map strip)
  := by
  induction rows with
  | nil => rw [List.map_nil, String.intercalate_nil, strip_empty]
  | cons row rows ih =>
      cases rows with
      | nil => simp only [List.map, String.intercalate_singleton]
      | cons next rest =>
          rw [String.intercalate_cons_cons, strip_append_lineFeed, ih]
          simp only [List.map, String.intercalate_cons_cons]

/-! ### Painted texts -/

theorem isParameter_of_mem_parameter (style : Style) :
  ∀ c ∈ style.parameter.toList, isParameter c
  := by
  apply List.all_eq_true.mp
  cases style <;> rfl

theorem strip_codes_append (styles : List Style) (rest : String) :
  strip (String.join (styles.map fun style => code style.parameter) ++ rest) = strip rest
  := by
  induction styles with
  | nil => rw [List.map_nil, String.join_nil, String.empty_append]
  | cons style styles ih =>
      rw [List.map_cons, String.join_cons, String.append_assoc,
        strip_code_append (isParameter_of_mem_parameter style), ih]

theorem strip_append_reset (text rest : String) :
  strip (text ++ (reset ++ rest)) = strip text ++ strip rest
  := by
  rw [reset, strip_append_code, strip_code_append (List.all_eq_true.mp rfl)]

theorem paint_false (styles : List Style) (text : String) :
  paint false styles text = text
  := rfl

/-- A text is painted by codes around it, or shown as it is. -/
theorem paint_cases (colors : Bool) (styles : List Style) (text : String) :
  paint colors styles text = text
    ∨ paint colors styles text
      = String.join (styles.map fun style => code style.parameter) ++ text ++ reset
  := by
  rw [paint]
  split
  · exact Or.inl rfl
  · exact Or.inr rfl

/-- Stripping takes the codes away and does to the text what it does without them. -/
theorem strip_paint (colors : Bool) (styles : List Style) (text : String) :
  strip (paint colors styles text) = strip text
  := by
  rcases paint_cases colors styles text with plain | painted
  · rw [plain]
  · have ends := strip_append_reset text ""
    rw [String.append_empty, strip_empty, String.append_empty] at ends
    rw [painted, String.append_assoc, strip_codes_append, ends]

/-- The same with more text behind, which a sequence that the text ends within could otherwise reach
into. -/
theorem strip_paint_append
    (colors : Bool) (styles : List Style) {text : String} (h : EscapeFree text) (rest : String) :
  strip (paint colors styles text ++ rest) = text ++ strip rest
  := by
  rcases paint_cases colors styles text with plain | painted
  · rw [plain, strip_append_of_escapeFree h]
  · rw [painted, String.append_assoc, String.append_assoc, strip_codes_append, strip_append_reset,
      strip_of_escapeFree h]

end StyleValue.Terminal
