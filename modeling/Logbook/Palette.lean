/-
Colours of console lines.  A palette is either plain or gives each level a colour; the colours
can be named in the settings.
-/
import Logbook.Level

namespace Logbook

/-- One value for each level. -/
structure PerLevel (α : Type) where
  debug : α
  info : α
  warn : α
  error : α
  fatal : α
  deriving DecidableEq, Repr

namespace PerLevel

variable {α β : Type}

def get (values : PerLevel α) : Level → α
  | .debug => values.debug
  | .info => values.info
  | .warn => values.warn
  | .error => values.error
  | .fatal => values.fatal

/-- The values after a function, level by level. -/
def map (f : α → β) (values : PerLevel α) : PerLevel β :=
  ⟨f values.debug, f values.info, f values.warn, f values.error, f values.fatal⟩

end PerLevel

/-- The eight colours of a terminal. -/
inductive Color where
  | black
  | red
  | green
  | yellow
  | blue
  | magenta
  | cyan
  | white
  deriving DecidableEq, Repr

namespace Color

/-- The escape sequence that switches to the colour. -/
def escape : Color → String
  | .black => "\x1b[30m"
  | .red => "\x1b[31m"
  | .green => "\x1b[32m"
  | .yellow => "\x1b[33m"
  | .blue => "\x1b[34m"
  | .magenta => "\x1b[35m"
  | .cyan => "\x1b[36m"
  | .white => "\x1b[37m"

/-- The colour with a name, between any blanks and in any mixture of ASCII cases. -/
def ofName? (s : String) : Option Color :=
  match Text.foldName s with
  | "black" => some .black
  | "red" => some .red
  | "green" => some .green
  | "yellow" => some .yellow
  | "blue" => some .blue
  | "magenta" => some .magenta
  | "purple" => some .magenta
  | "cyan" => some .cyan
  | "white" => some .white
  | _ => none

end Color

/-- How the level tag of a console line is dressed. -/
inductive Palette where
  | plain
  | colored (colors : PerLevel Color)
  deriving DecidableEq, Repr

namespace Palette

/-- The names of the colours that levels have unless the settings say otherwise. -/
def defaultNames : PerLevel String :=
  ⟨"cyan", "green", "yellow", "red", "magenta"⟩

/-- The palette of a logger that was given none. -/
def default : Palette :=
  .colored ⟨.cyan, .green, .yellow, .red, .magenta⟩

/-- The palette with named colours.  An unknown name is read as white. -/
def ofNames (names : PerLevel String) : Palette :=
  .colored (names.map fun name => (Color.ofName? name).getD .white)

/-- The escape sequence of a level's colour, empty in the plain palette. -/
def levelEscape : Palette → Level → String
  | .plain, _ => ""
  | .colored colors, level => (colors.get level).escape

/-- The escape sequence for bold type. -/
def bold : Palette → String
  | .plain => ""
  | .colored _ => "\x1b[1m"

/-- The escape sequence that ends colour and bold type. -/
def reset : Palette → String
  | .plain => ""
  | .colored _ => "\x1b[0m"

end Palette

namespace PaletteWitness

example : Palette.ofNames Palette.defaultNames = Palette.default := by decide +kernel

example : Palette.ofNames ⟨"chartreuse", " RED", "purple", "", "blue"⟩ =
    .colored ⟨.white, .red, .magenta, .white, .blue⟩ := by decide +kernel

end PaletteWitness

end Logbook
