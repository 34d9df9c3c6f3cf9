-- Colours on a terminal. Text is painted by escape sequences, or left as it is
-- when colours are off.
import CommitQuery.Query.ContentSearch

namespace CommitQuery.Screen

structure Color where
  red : Nat
  green : Nat
  blue : Nat
deriving DecidableEq, Repr

/-! ## The palette -/

def muted : Color := ⟨120, 125, 145⟩
def accent : Color := ⟨100, 180, 255⟩
def success : Color := ⟨80, 200, 120⟩
def warning : Color := ⟨255, 190, 80⟩
def failure : Color := ⟨255, 100, 100⟩
def information : Color := ⟨86, 182, 194⟩
def renamed : Color := ⟨198, 120, 221⟩
def highlighted : Color := ⟨229, 192, 123⟩

/-! ## Painting -/

/-- How results are shown: with colours or without, the columns that the author
and the message of a commit may take, and the search whose lines are shown. -/
structure Options where
  color : Bool
  authorWidth : Nat
  messageWidth : Nat
  search : Option Query.ContentSearch
deriving Repr

/-- An escape sequence. -/
def escape (code : List Char) : List Char := '\x1b' :: '[' :: code ++ ['m']

/-- The sequence that switches to a colour. -/
def foreground (c : Color) : List Char :=
  escape ("38;2;".toList ++ (toString c.red).toList ++ ';' :: (toString c.green).toList ++
    ';' :: (toString c.blue).toList)

/-- The sequence that goes back to the default colour. -/
def defaultForeground : List Char := escape ['3', '9']

def boldOn : List Char := escape ['1']

/-- The sequence that ends all styles. -/
def stylesOff : List Char := escape ['0']

namespace Options

variable (o : Options)

/-- Text in a colour. -/
def paint (c : Color) (text : List Char) : List Char :=
  if o.color then foreground c ++ text ++ defaultForeground else text

/-- Bold text in a colour. -/
def bold (c : Color) (text : List Char) : List Char :=
  if o.color then foreground c ++ boldOn ++ text ++ stylesOff else text

end Options

end CommitQuery.Screen
