/-!
# Styled text

Text is styled for a terminal by wrapping it in escape codes: those of the styles before it, and the
one that resets them after it.  Whether a terminal shows colours is a parameter of every function
here; `showsColors` decides it from the environment.
-/

namespace StyleValue.Terminal

/-- The character that starts an escape sequence. -/
def escape : Char := '\x1b'

/-- A way to show text. -/
inductive Style where
  | bold
  | dim
  | red
  | green
  | yellow
  | cyan
  | brightRed
  | brightBlue
  deriving DecidableEq

namespace Style

def all : List Style := [bold, dim, red, green, yellow, cyan, brightRed, brightBlue]

def name : Style → String
  | bold => "bold"
  | dim => "dim"
  | red => "red"
  | green => "green"
  | yellow => "yellow"
  | cyan => "cyan"
  | brightRed => "bright_red"
  | brightBlue => "bright_blue"

/-- The style with a given name. -/
def ofName? (text : String) : Option Style :=
  all.find? fun style => style.name = text

/-- A style is found by its name. -/
theorem ofName?_name (style : Style) :
  ofName? style.name = some style
  := by
  cases style <;> rfl

/-- The parameter of the escape code that turns a style on. -/
def parameter : Style → String
  | bold => "1"
  | dim => "2"
  | red => "31"
  | green => "32"
  | yellow => "33"
  | cyan => "36"
  | brightRed => "91"
  | brightBlue => "94"

end Style

/-- The escape code that sets how text is shown. -/
def code (parameter : String) : String := escape.toString ++ "[" ++ parameter ++ "m"

/-- The escape code that turns all styles off. -/
def reset : String := code "0"

/-- The text in the given styles, where colours are shown. -/
def paint (colors : Bool) (styles : List Style) (text : String) : String :=
  if !colors || styles.isEmpty then
    text
  else
    String.join (styles.map fun style => code style.parameter) ++ text ++ reset

/-- A name that no style has. -/
structure UnknownStyle where
  name : String
  deriving DecidableEq

/-- The styles with the given names. -/
def stylesOfNames : List String → Except UnknownStyle (List Style)
  | [] => .ok []
  | name :: rest =>
      match Style.ofName? name with
      | some style => (style :: ·) <$> stylesOfNames rest
      | none => .error ⟨name⟩

/-- The text in the styles with the given names.  Where no colours are shown the names do not
matter. -/
def paintNamed (colors : Bool) (names : List String) (text : String) :
    Except UnknownStyle String :=
  if colors then
    return paint colors (← stylesOfNames names) text
  else
    .ok text

def dimText (colors : Bool) : String → String := paint colors [.dim]

def errorCode (colors : Bool) : String → String := paint colors [.brightRed, .bold]

def locationText (colors : Bool) : String → String := paint colors [.cyan]

def documentationLink (colors : Bool) : String → String := paint colors [.brightBlue]

/-- Whether colours are shown.  A request for colours goes before a request for none, and an empty
one does not count; without a request they are shown on a terminal. -/
def showsColors (requested refused : Option String) (isTerminal : Bool) : Bool :=
  if requested.any (· ≠ "") then true
  else if refused.any (· ≠ "") then false
  else isTerminal

end StyleValue.Terminal
