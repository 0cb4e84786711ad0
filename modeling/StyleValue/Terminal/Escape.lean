import StyleValue.Terminal.Style

/-!
# Escape sequences

An escape sequence is the escape character followed by either a single character between `@` and `_`
other than the opening bracket, or the bracket, parameter characters from `0` to `?`, intermediate
characters from the blank to `/`, and a final character from `@` to `~`.

`Terminal.strip` takes the sequences out of a text in one pass from left to right.
-/

namespace StyleValue.Terminal

def isBetween (first last c : Char) : Bool := first ≤ c && c ≤ last

/-- The character of a sequence of two. -/
def isSingle (c : Char) : Bool := isBetween '@' '_' c && c != '['

def isParameter (c : Char) : Bool := isBetween '0' '?' c

def isIntermediate (c : Char) : Bool := isBetween ' ' '/' c

def isFinal (c : Char) : Bool := isBetween '@' '~' c

/-- What follows the final character of a control sequence, given what follows its bracket. -/
def afterControl? (cs : List Char) : Option (List Char) :=
  match (cs.dropWhile isParameter).dropWhile isIntermediate with
  | c :: rest => if isFinal c then some rest else none
  | [] => none

/-- What follows an escape sequence, given what follows its escape character. -/
def afterEscape? : List Char → Option (List Char)
  | [] => none
  | c :: rest =>
      if c = '[' then afterControl? rest else if isSingle c then some rest else none

theorem length_dropWhile_le {α : Type} (p : α → Bool) (l : List α) :
  (l.dropWhile p).length ≤ l.length
  := (List.dropWhile_suffix p).length_le

theorem length_lt_of_afterControl? {cs rest : List Char} (h : afterControl? cs = some rest) :
  rest.length < cs.length
  := by
  have fewer := length_dropWhile_le isParameter cs
  have fewest := length_dropWhile_le isIntermediate (cs.dropWhile isParameter)
  unfold afterControl? at h
  split at h
  next c tail shape =>
    rw [shape] at fewest
    split at h
    · simp only [Option.some.injEq] at h
      subst h
      simp only [List.length_cons] at fewest
      omega
    · contradiction
  next => contradiction

/-- An escape sequence takes up at least one character besides its escape character. -/
theorem length_lt_of_afterEscape? {cs rest : List Char} (h : afterEscape? cs = some rest) :
  rest.length < cs.length
  := by
  unfold afterEscape? at h
  split at h
  · contradiction
  next c tail =>
    simp only [List.length_cons]
    split at h
    · have shorter := length_lt_of_afterControl? h
      omega
    · split at h
      · simp only [Option.some.injEq] at h
        subst h
        omega
      · contradiction

/-- The characters that belong to no escape sequence. -/
def stripped : List Char → List Char
  | [] => []
  | c :: rest =>
      if c = escape then
        match h : afterEscape? rest with
        | some tail =>
            have := length_lt_of_afterEscape? h
            stripped tail
        | none => c :: stripped rest
      else
        c :: stripped rest
termination_by cs => cs.length

/-- The text without its escape sequences. -/
def strip (text : String) : String := String.ofList (stripped text.toList)

end StyleValue.Terminal
