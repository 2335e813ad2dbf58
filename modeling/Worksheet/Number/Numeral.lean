import Worksheet.Number.Decimal

/-!
# Numerals at the start of a text

A text is read as a number leniently: leading space is skipped, the longest numeral that follows
counts, and what comes after it is ignored, so `12px` is twelve.  The grammar of a numeral is

* an optional sign, then
* `Infinity`, or digits with an optional point and optional further digits, or a point and at least
  one digit, then
* for the latter two, an optional exponent: `e` or `E`, an optional sign, at least one digit.

A numeral keeps the pieces as written; `Numeral.chars` puts them together again.
-/

namespace Worksheet

/-- An explicit sign. -/
inductive Sign where
  | plus
  | minus
deriving DecidableEq, Repr

/-- The character of a sign. -/
def Sign.toChar : Sign → Char
  | .plus => '+'
  | .minus => '-'

/-- A sign at the start of a text, and the rest. -/
def Sign.scan : List Char → Option Sign × List Char
  | '+' :: cs => (some .plus, cs)
  | '-' :: cs => (some .minus, cs)
  | cs => (none, cs)

/-- The characters of an optional sign. -/
def Sign.chars : Option Sign → List Char
  | none => []
  | some s => [s.toChar]

/-- A written exponent. -/
structure Exponent where
  /-- The letter that starts the exponent, in either case. -/
  mark : Char
  /-- The sign, if one is written. -/
  sign : Option Sign
  /-- The digits. -/
  digits : List Char
deriving DecidableEq, Repr

namespace Exponent

/-- The exponent as written. -/
def chars (e : Exponent) : List Char := e.mark :: (Sign.chars e.sign ++ e.digits)

/-- The value of an exponent. -/
def value (e : Exponent) : Int :=
  match e.sign with
  | some .minus => -(Text.digitsValue e.digits : Int)
  | _ => Text.digitsValue e.digits

/-- An exponent at the start of a text, and the rest; without a digit there is none. -/
def scan (cs : List Char) : Option Exponent × List Char :=
  match cs with
  | [] => (none, cs)
  | mark :: rest =>
    let (sign, rest) := Sign.scan rest
    let ds := rest.takeWhile Char.isDigit
    if (mark == 'e' || mark == 'E') && !ds.isEmpty then
      (some ⟨mark, sign, ds⟩, rest.dropWhile Char.isDigit)
    else (none, cs)

end Exponent

/-- A numeral without its sign. -/
inductive Unsigned where
  /-- The word for infinity. -/
  | infinity
  /-- Digits, the digits after a point if there is a point, and an exponent. -/
  | decimal (whole : List Char) (fraction : Option (List Char)) (exponent : Option Exponent)
deriving DecidableEq, Repr

namespace Unsigned

/-- How infinity is written. -/
def infinityWord : List Char := ['I', 'n', 'f', 'i', 'n', 'i', 't', 'y']

/-- The numeral as written. -/
def chars : Unsigned → List Char
  | infinity => infinityWord
  | decimal whole fraction exponent =>
    whole ++ (fraction.elim [] ('.' :: ·)) ++ (exponent.elim [] Exponent.chars)

/-- The decimal that digits with a point and an exponent denote. -/
def toDecimal (whole : List Char) (fraction : Option (List Char)) (exponent : Option Exponent) :
    Decimal :=
  let tail := fraction.getD []
  ⟨Text.digitsValue (whole ++ tail), (exponent.elim 0 Exponent.value) - tail.length⟩

/-- The number of the double that a numeral denotes. -/
def number : Unsigned → Nat
  | infinity => Binary64.infinity
  | decimal whole fraction exponent => (toDecimal whole fraction exponent).nearest

/-- A point at the start of a text with the digits after it, and the rest. -/
def scanFraction : List Char → Option (List Char) × List Char
  | '.' :: cs => (some (cs.takeWhile Char.isDigit), cs.dropWhile Char.isDigit)
  | cs => (none, cs)

/-- The longest unsigned numeral at the start of a text, and the rest. -/
def scan? (cs : List Char) : Option (Unsigned × List Char) :=
  if infinityWord.isPrefixOf cs then some (infinity, cs.drop infinityWord.length)
  else
    let whole := cs.takeWhile Char.isDigit
    let (fraction, rest) := scanFraction (cs.dropWhile Char.isDigit)
    if whole.isEmpty && (fraction.getD []).isEmpty then none
    else
      let (exponent, rest) := Exponent.scan rest
      some (decimal whole fraction exponent, rest)

end Unsigned

/-- A numeral: a number as written. -/
structure Numeral where
  /-- The sign, if one is written. -/
  sign : Option Sign
  /-- The numeral without its sign. -/
  size : Unsigned
deriving DecidableEq, Repr

namespace Numeral

/-- The numeral as written. -/
def chars (n : Numeral) : List Char := Sign.chars n.sign ++ n.size.chars

/-- The double that a numeral denotes. -/
def value (n : Numeral) : Float := Binary64.ofParts (n.sign == some .minus) n.size.number

/-- The longest numeral at the start of a text, and the rest. -/
def scan? (cs : List Char) : Option (Numeral × List Char) :=
  let (sign, rest) := Sign.scan cs
  (Unsigned.scan? rest).map fun (size, rest) => (⟨sign, size⟩, rest)

/-- The characters skipped before a numeral: tab, line feed, vertical tab, form feed, carriage
return, the space separators, the line and paragraph separators, and the byte order mark. -/
def isSpace (c : Char) : Bool :=
  let n := c.toNat
  (0x09 ≤ n && n ≤ 0x0d) || n == 0x20 || n == 0xa0 || n == 0x1680 ||
    (0x2000 ≤ n && n ≤ 0x200a) || n == 0x2028 || n == 0x2029 || n == 0x202f || n == 0x205f ||
    n == 0x3000 || n == 0xfeff

/-- The number at the start of a text; none if no numeral follows the leading space. -/
def read? (cs : List Char) : Option Float :=
  (scan? (cs.dropWhile isSpace)).map fun (n, _) => n.value

end Numeral

end Worksheet
