/-!
# Lines of a text

A line ends at a line break, or at the end of the text unless the text ends in a line break.  A
carriage return followed by a line feed is one line break.
-/

namespace StyleValue.Text

/-- The characters that end a line: line feed, vertical tab, form feed, carriage return, the file,
group and record separators, next line, and the line and paragraph separators. -/
def isLineBreak (c : Char) : Bool :=
  ['\n', '\x0b', '\x0c', '\r', '\x1c', '\x1d', '\x1e', '\u0085', '\u2028', '\u2029'].contains c

/-- Puts a character at the front of the first line. -/
def consLine (c : Char) : List (List Char) → List (List Char)
  | [] => [[c]]
  | line :: rest => (c :: line) :: rest

/-- The lines of a text, without their line breaks. -/
def splitLines : List Char → List (List Char)
  | [] => []
  | '\r' :: '\n' :: rest => [] :: splitLines rest
  | c :: rest => if isLineBreak c then [] :: splitLines rest else consLine c (splitLines rest)

theorem mem_consLine {c : Char} {ls : List (List Char)} {line : List Char}
    (h : line ∈ consLine c ls) :
  line = [c] ∨ (∃ rest ∈ ls, line = c :: rest) ∨ line ∈ ls
  := by
  cases ls with
  | nil =>
      left
      simpa [consLine] using h
  | cons first rest =>
      right
      rcases List.mem_cons.mp h with rfl | inRest
      · left
        exact ⟨first, List.mem_cons_self, rfl⟩
      · right
        exact List.mem_cons_of_mem _ inRest

/-- No line holds a line break. -/
theorem isLineBreak_eq_false_of_mem_splitLines {text line : List Char}
    (h : line ∈ splitLines text) :
  ∀ c ∈ line, isLineBreak c = false
  := by
  fun_induction splitLines text generalizing line with
  | case1 => simp at h
  | case2 rest ih =>
      rcases List.mem_cons.mp h with rfl | inRest
      · simp
      · exact ih inRest
  | case3 c rest _ isBreak ih =>
      rcases List.mem_cons.mp h with rfl | inRest
      · simp
      · exact ih inRest
  | case4 c rest _ noBreak ih =>
      rcases mem_consLine h with rfl | ⟨tail, inRest, rfl⟩ | inRest
      · simpa using noBreak
      · intro d inLine
        rcases List.mem_cons.mp inLine with rfl | inTail
        · simpa using noBreak
        · exact ih inRest d inTail
      · exact ih inRest

/-- The lines of a text, without their line breaks. -/
def lines (text : String) : List String :=
  (splitLines text.toList).map String.ofList

end StyleValue.Text
