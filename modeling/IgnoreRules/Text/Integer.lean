import IgnoreRules.Text.RangeTable
import IgnoreRules.Text.Printable

/-!
# Reading and quoting integers

Numeric settings may be given as text (config.py:45–85). Such a text is read as a decimal integer:
white space around it is ignored, a sign may lead, and the digits may be those of any script (each
script's decimal digits are ten consecutive code points, from its zero), with single underscores
allowed between digits. A text that is not of this form is rejected, and the rejection quotes it the
way texts are quoted in messages.

- `Text.digitValue?`: the value of a decimal digit of any script.
- `Text.readInteger?`: the integer written by a text.
- `Text.quote`: a text in quotes with its special characters escaped.
-/

namespace IgnoreRules.Text

/-- The value of one hexadecimal digit, or `none` for any other character. -/
def hexDigit? (c : Char) : Option Nat :=
  if '0' ≤ c ∧ c ≤ '9' then some (c.toNat - '0'.toNat)
  else if 'a' ≤ c ∧ c ≤ 'f' then some (c.toNat - 'a'.toNat + 10)
  else if 'A' ≤ c ∧ c ≤ 'F' then some (c.toNat - 'A'.toNat + 10)
  else none

/-- The code points of the zero digits of the decimal digit runs of Unicode 14. -/
def digitZeros : Array Nat := #[
  0x30, 0x660, 0x6f0, 0x7c0, 0x966, 0x9e6, 0xa66, 0xae6, 0xb66, 0xbe6, 0xc66, 0xce6, 0xd66, 0xde6,
  0xe50, 0xed0, 0xf20, 0x1040, 0x1090, 0x17e0, 0x1810, 0x1946, 0x19d0, 0x1a80, 0x1a90, 0x1b50,
  0x1bb0, 0x1c40, 0x1c50, 0xa620, 0xa8d0, 0xa900, 0xa9d0, 0xa9f0, 0xaa50, 0xabf0, 0xff10, 0x104a0,
  0x10d30, 0x11066, 0x110f0, 0x11136, 0x111d0, 0x112f0, 0x11450, 0x114d0, 0x11650, 0x116c0,
  0x11730, 0x118e0, 0x11950, 0x11c50, 0x11d50, 0x11da0, 0x16a60, 0x16ac0, 0x16b50, 0x1d7ce,
  0x1d7d8, 0x1d7e2, 0x1d7ec, 0x1d7f6, 0x1e140, 0x1e2f0, 0x1e950, 0x1fbf0]

/-- The value of a decimal digit of any script. -/
def digitValue? (c : Char) : Option Nat :=
  (digitZeros.find? fun z => z ≤ c.toNat && c.toNat < z + 10).map fun z => c.toNat - z

/-- Reads digits with single underscores between them; `none` for an empty run, a leading,
trailing or doubled underscore, or any other character. -/
def readDigits (acc : Nat) (afterDigit : Bool) : List Char → Option Nat
  | [] => if afterDigit then some acc else none
  | '_' :: rest => if afterDigit then
      match rest with
      | c :: _ => if (digitValue? c).isSome then readDigits acc false rest else none
      | [] => none
    else none
  | c :: rest =>
    match digitValue? c with
    | some d => readDigits (acc * 10 + d) true rest
    | none => none

/-- The integer written by a text, if it is one. -/
def readInteger? (s : String) : Option Int :=
  let cs := (strip s).toList
  match cs with
  | '-' :: rest => (readDigits 0 false rest).map fun n => -(n : Int)
  | '+' :: rest => (readDigits 0 false rest).map fun n => (n : Int)
  | rest => (readDigits 0 false rest).map fun n => (n : Int)

/-- Hexadecimal digits of `n`, lowercase, padded with zeros to `width`. -/
def hexPadded (width n : Nat) : String :=
  let ds := Nat.toDigits 16 n
  String.ofList (List.replicate (width - ds.length) '0' ++ ds)

/-- The escaped form of one character inside quotes `q`. -/
def escapeChar (q c : Char) : String :=
  if c == q || c == '\\' then "\\" ++ c.toString
  else if c == '\t' then "\\t"
  else if c == '\n' then "\\n"
  else if c == '\r' then "\\r"
  else if c.toNat < 32 || c.toNat == 127 then "\\x" ++ hexPadded 2 c.toNat
  else if c.toNat < 127 || isPrintableChar c then c.toString
  else if c.toNat < 256 then "\\x" ++ hexPadded 2 c.toNat
  else if c.toNat < 65536 then "\\u" ++ hexPadded 4 c.toNat
  else "\\U" ++ hexPadded 8 c.toNat

/-- A text in quotes: single quotes unless the text holds a single quote and no double quote;
the quote, the backslash, control and unprintable characters are escaped. -/
def quote (s : String) : String :=
  let q := if s.contains '\'' && !s.contains '"' then '"' else '\''
  q.toString ++ String.join (s.toList.map (escapeChar q)) ++ q.toString

end IgnoreRules.Text
