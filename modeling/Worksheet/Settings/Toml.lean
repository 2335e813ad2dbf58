/-!
# Flat TOML documents

The fragment of TOML 1.0 that a settings file can use: lines that hold nothing, a comment, or a key
and an integer.  A line ends with a line feed, before which a carriage return is dropped.  A
document with anything else in it, such as tables, dotted keys or other values, is refused; no such
document can be a settings file.

`pairs?` reads a document; repeated keys are left to its caller.
-/

namespace Worksheet.Toml

/-- The blanks inside a line. -/
def isSpace (c : Char) : Bool := c == ' ' || c == '\t'

/-- The characters that comments and quoted keys may hold: no control characters but the tab. -/
def isPrintable (c : Char) : Bool := c == '\t' || (0x20 ≤ c.toNat && c.toNat != 0x7f)

/-- The characters of a key without quotes. -/
def isBare (c : Char) : Bool := c.isAlphanum || c == '_' || c == '-'

/-- The lines of a document. -/
def lines : List Char → List (List Char)
  | [] => [[]]
  | '\r' :: '\n' :: cs => [] :: lines cs
  | '\n' :: cs => [] :: lines cs
  | c :: cs =>
    match lines cs with
    | [] => [[c]]
    | line :: rest => (c :: line) :: rest

/-- Whether nothing is left on a line but space and a comment. -/
def isVacant (cs : List Char) : Bool :=
  match cs.dropWhile isSpace with
  | [] => true
  | '#' :: comment => comment.all isPrintable
  | _ => false

/-! ### Keys -/

/-- The value of a hexadecimal digit, in either case. -/
def hexValue? (c : Char) : Option Nat :=
  if c.isDigit then some (c.toNat - '0'.toNat)
  else if 'a' ≤ c ∧ c ≤ 'f' then some (c.toNat - 'a'.toNat + 10)
  else if 'A' ≤ c ∧ c ≤ 'F' then some (c.toNat - 'A'.toNat + 10)
  else none

/-- The number that hexadecimal digits denote. -/
def hexNumber? (cs : List Char) : Option Nat :=
  cs.foldlM (fun n c => (hexValue? c).map (16 * n + ·)) 0

/-- The character with a code point in hexadecimal digits. -/
def scalar? (cs : List Char) : Option Char := do
  let n ← hexNumber? cs
  if n.isValidChar then some (Char.ofNat n) else none

/-- The character that a letter after a backslash stands for. -/
def escape? : Char → Option Char
  | 'b' => some '\x08'
  | 't' => some '\t'
  | 'n' => some '\n'
  | 'f' => some '\x0c'
  | 'r' => some '\r'
  | '"' => some '"'
  | '\\' => some '\\'
  | _ => none

/-- Puts a character before the text of a key. -/
def prepend (c : Char) (key : List Char × List Char) : List Char × List Char :=
  (c :: key.1, key.2)

/-- The text of a key up to its closing double quote, and the rest of the line. -/
def scanQuoted : List Char → Option (List Char × List Char)
  | [] => none
  | '"' :: cs => some ([], cs)
  | '\\' :: 'u' :: a :: b :: c :: d :: cs =>
    (scalar? [a, b, c, d]).bind fun x => (scanQuoted cs).map (prepend x)
  | '\\' :: 'U' :: a :: b :: c :: d :: e :: f :: g :: h :: cs =>
    (scalar? [a, b, c, d, e, f, g, h]).bind fun x => (scanQuoted cs).map (prepend x)
  | '\\' :: c :: cs => (escape? c).bind fun x => (scanQuoted cs).map (prepend x)
  | c :: cs => if isPrintable c then (scanQuoted cs).map (prepend c) else none

/-- A key at the start of a line, and the rest: between double quotes, which allow escapes, between
single quotes, which do not, or bare. -/
def scanKey? : List Char → Option (List Char × List Char)
  | '"' :: cs => scanQuoted cs
  | '\'' :: cs =>
    let key := cs.takeWhile (· != '\'')
    match cs.dropWhile (· != '\'') with
    | _ :: rest => if key.all isPrintable then some (key, rest) else none
    | [] => none
  | cs =>
    let key := cs.takeWhile isBare
    if key.isEmpty then none else some (key, cs.dropWhile isBare)

/-! ### Integers -/

/-- Digits without the underscores between them; an underscore stands between two digits. -/
def ungroup? (isDigit : Char → Bool) : List Char → Option (List Char)
  | [] => none
  | [c] => if isDigit c then some [c] else none
  | c :: '_' :: cs => if isDigit c then (ungroup? isDigit cs).map (c :: ·) else none
  | c :: cs => if isDigit c then (ungroup? isDigit cs).map (c :: ·) else none

/-- A number written in a base from two to sixteen. -/
def inBase? (base : Nat) (cs : List Char) : Option Nat := do
  let ds ← ungroup? (fun c => (hexValue? c).any (· < base)) cs
  ds.foldlM (fun n c => (hexValue? c).map (base * n + ·)) 0

/-- A decimal number; only zero itself starts with the digit zero. -/
def decimal? : List Char → Option Nat
  | ['0'] => some 0
  | '0' :: _ => none
  | cs => inBase? 10 cs

/-- An integer literal; integers have 64 bits. -/
def integer? (cs : List Char) : Option Int := do
  let n : Int ← match cs with
    | '0' :: 'x' :: ds => (inBase? 16 ds).map Int.ofNat
    | '0' :: 'o' :: ds => (inBase? 8 ds).map Int.ofNat
    | '0' :: 'b' :: ds => (inBase? 2 ds).map Int.ofNat
    | '+' :: ds => (decimal? ds).map Int.ofNat
    | '-' :: ds => (decimal? ds).map fun n => -(n : Int)
    | ds => (decimal? ds).map Int.ofNat
  if -0x8000000000000000 ≤ n ∧ n < 0x8000000000000000 then some n else none

/-! ### Documents -/

/-- The key and the value on a line. -/
def pair? (line : List Char) : Option (List Char × Int) := do
  let (key, rest) ← scanKey? (line.dropWhile isSpace)
  match rest.dropWhile isSpace with
  | '=' :: rest =>
    let rest := rest.dropWhile isSpace
    let inLiteral := fun c => !isSpace c && c != '#'
    let n ← integer? (rest.takeWhile inLiteral)
    if isVacant (rest.dropWhile inLiteral) then some (key, n) else none
  | _ => none

/-- The keys and values of a document in order; a byte order mark may come first. -/
def pairs? (cs : List Char) : Option (List (List Char × Int)) :=
  let cs := if cs.head? == some '\ufeff' then cs.tail else cs
  ((lines cs).filter fun line => !isVacant line).mapM pair?

end Worksheet.Toml
