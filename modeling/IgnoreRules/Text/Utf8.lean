import IgnoreRules.Text.Integer

/-!
# Decoding UTF-8 text

Rule files on disk (read by file_loader.py:122–141) are bytes that must be UTF-8 (RFC 3629). A lead
byte fixes how many continuation bytes follow and the range of the first of them: after E0, ED, F0
and F4 the range is narrowed so that overlong forms, surrogates and code points above U+10FFFF are
refused. Every later continuation byte lies in 80 to BF.

Decoding stops at the first byte sequence that is not UTF-8 and describes it:

- a byte that cannot lead a character is an invalid start, one byte long;
- a continuation byte out of its range is an invalid continuation, and the sequence covers the
  lead and the good continuation bytes before it;
- input that ends inside a character ends unexpectedly, and the sequence runs from the lead to
  the end of the input.

Text files also have their line ends unified: a carriage return, alone or before a line feed,
becomes one line feed.

- `Utf8.decode`: the text of a byte sequence, or its first bad sequence.
- `DecodeError.message`: the description of a bad sequence, with its byte positions.
- `Utf8.readText`: the text of a file's bytes, line ends unified.
-/

namespace IgnoreRules

/-- What is wrong with a byte sequence that is not UTF-8. -/
inductive DecodeProblem where
  /-- A byte that cannot lead a character. -/
  | invalidStart
  /-- A continuation byte out of its range. -/
  | invalidContinuation
  /-- The input ends inside a character. -/
  | unexpectedEnd
  deriving DecidableEq, Repr

/-- The words for a decoding problem. -/
def DecodeProblem.reason : DecodeProblem → String
  | .invalidStart => "invalid start byte"
  | .invalidContinuation => "invalid continuation byte"
  | .unexpectedEnd => "unexpected end of data"

/-- The first bad byte sequence of an input: its positions `[start, stop)`, its first byte and
what is wrong with it. -/
structure DecodeError where
  start : Nat
  stop : Nat
  byte : UInt8
  problem : DecodeProblem
  deriving DecidableEq, Repr

/-- The description of a bad sequence: one byte is named by its value, a longer sequence by its
first and last position. -/
def DecodeError.message (e : DecodeError) : String :=
  let place :=
    if e.stop == e.start + 1 then
      "byte 0x" ++ Text.hexPadded 2 e.byte.toNat ++ " in position " ++ toString e.start
    else "bytes in position " ++ toString e.start ++ "-" ++ toString (e.stop - 1)
  "'utf-8' codec can't decode " ++ place ++ ": " ++ e.problem.reason

namespace Utf8

/-- For a lead byte: how many continuation bytes follow, and the least and greatest value of the
first of them; `none` for a byte that cannot lead. -/
def lead (b : Nat) : Option (Nat × Nat × Nat) :=
  if b < 0x80 then some (0, 0x80, 0xBF)
  else if b < 0xC2 then none
  else if b < 0xE0 then some (1, 0x80, 0xBF)
  else if b == 0xE0 then some (2, 0xA0, 0xBF)
  else if b == 0xED then some (2, 0x80, 0x9F)
  else if b < 0xF0 then some (2, 0x80, 0xBF)
  else if b == 0xF0 then some (3, 0x90, 0xBF)
  else if b < 0xF4 then some (3, 0x80, 0xBF)
  else if b == 0xF4 then some (3, 0x80, 0x8F)
  else none

/-- The first problem among the `need` continuation bytes at the front of `bs`, the next one
bounded by `lo` and `hi`, with the length of the bad sequence counted from its lead (`seen` good
continuation bytes so far); an input that ends early gives length zero, as it runs to the end. -/
def tailProblem : (need lo hi seen : Nat) → List UInt8 → Option (DecodeProblem × Nat)
  | 0, _, _, _, _ => none
  | _ + 1, _, _, _, [] => some (.unexpectedEnd, 0)
  | n + 1, lo, hi, seen, b :: rest =>
    if lo ≤ b.toNat && b.toNat ≤ hi then tailProblem n 0x80 0xBF (seen + 1) rest
    else some (.invalidContinuation, seen + 1)

/-- The code point of a lead byte with its continuation bytes. -/
def codePoint (b : Nat) (tails : List UInt8) : Nat :=
  let bits := match tails.length with
    | 0 => b
    | 1 => b % 0x20
    | 2 => b % 0x10
    | _ => b % 0x08
  tails.foldl (fun acc t => acc * 64 + t.toNat % 64) bits

/-- Decodes `bs`, which starts at position `pos` of an input of `total` bytes, after the
characters `acc` (in reverse). -/
def decodeFrom (total pos : Nat) (acc : List Char) (bs : List UInt8) : Except DecodeError String :=
  match bs with
  | [] => .ok (String.ofList acc.reverse)
  | b :: rest =>
    match lead b.toNat with
    | none => .error ⟨pos, pos + 1, b, .invalidStart⟩
    | some (n, lo, hi) =>
      match tailProblem n lo hi 0 rest with
      | some (.unexpectedEnd, _) => .error ⟨pos, total, b, .unexpectedEnd⟩
      | some (problem, len) => .error ⟨pos, pos + len, b, problem⟩
      | none =>
        decodeFrom total (pos + 1 + n) (Char.ofNat (codePoint b.toNat (rest.take n)) :: acc)
          (rest.drop n)
termination_by bs.length
decreasing_by simp only [List.length_drop, List.length_cons]; omega

/-- The text of a byte sequence, or its first bad sequence. -/
def decode (bs : List UInt8) : Except DecodeError String := decodeFrom bs.length 0 [] bs

/-- Line ends as line feeds: a carriage return, alone or before a line feed, becomes one. -/
def unifyLineEnds : List Char → List Char
  | [] => []
  | '\r' :: '\n' :: rest => '\n' :: unifyLineEnds rest
  | '\r' :: rest => '\n' :: unifyLineEnds rest
  | c :: rest => c :: unifyLineEnds rest

/-- The text of a file's bytes, line ends unified. -/
def readText (bs : List UInt8) : Except DecodeError String :=
  (decode bs).map fun s => String.ofList (unifyLineEnds s.toList)

end Utf8

end IgnoreRules
