/-!
# Lines of a text

A rule file is read line by line (pattern.py:313–338). A line ends at any of the Unicode line
boundaries: line feed, carriage return (alone or followed by a line feed), vertical tab, form feed,
the information separators U+001C to U+001E, next line U+0085, and the line and paragraph separators
U+2028 and U+2029. Line ends are not part of the lines, and a final line end does not start an empty
line.

- `splitLines s`: the lines of `s`.
-/

namespace IgnoreRules.Text

/-- Whether `c` ends a line. -/
def isLineBreak (c : Char) : Bool :=
  c == '\n' || c == '\r' || c == '\x0b' || c == '\x0c' || c == '\x1c' || c == '\x1d' ||
    c == '\x1e' || c == '\x85' || c == '\u2028' || c == '\u2029'

/-- Splits `rest` into lines, `current` holding the characters of the open line in reverse. -/
def splitLinesFrom (current : List Char) : List Char → List String
  | [] => if current.isEmpty then [] else [String.ofList current.reverse]
  | '\r' :: '\n' :: rest => String.ofList current.reverse :: splitLinesFrom [] rest
  | c :: rest =>
    if isLineBreak c then String.ofList current.reverse :: splitLinesFrom [] rest
    else splitLinesFrom (c :: current) rest

/-- The lines of a text. -/
def splitLines (s : String) : List String := splitLinesFrom [] s.toList

end IgnoreRules.Text
