/-!
What separates the parts of a TOML document: blanks, comments and the ends of lines. Each function
takes the characters that are left to read and answers those that are left after it.
-/

namespace Muster.Toml

def isSpace (c : Char) : Bool :=
  c == ' ' || c == '\t'

/-- The characters that stand for themselves in comments and texts: all but the controls, of which
only the tab is allowed. -/
def isPlain (c : Char) : Bool :=
  c == '\t' || (' ' ≤ c && c != '\x7f')

def skipSpace (cs : List Char) : List Char :=
  cs.dropWhile isSpace

def skipComment : List Char → List Char
  | '#' :: rest => rest.dropWhile isPlain
  | cs => cs

/-- The end of a line: a line feed, perhaps after a carriage return, or the end of the document. -/
def lineEnd? : List Char → Option (List Char)
  | [] => some []
  | '\n' :: rest => some rest
  | '\r' :: '\n' :: rest => some rest
  | _ => none

def endLine? (cs : List Char) : Option (List Char) :=
  lineEnd? (skipComment (skipSpace cs))

/-- Skips blanks, line ends and comments, as they may stand between the items of an array. -/
def skipFiller (inComment : Bool) : List Char → List Char
  | '\n' :: rest => skipFiller false rest
  | '\r' :: '\n' :: rest => skipFiller false rest
  | c :: rest =>
    if inComment && isPlain c then skipFiller true rest
    else if isSpace c then skipFiller false rest
    else if c == '#' then skipFiller true rest
    else c :: rest
  | [] => []

end Muster.Toml
