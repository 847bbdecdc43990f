import DocumentQuery.Text.Hex
import DocumentQuery.Number.Decimal

/-!
# The grammar of JSON

An outline is what the grammar alone says of a JSON text: which values are nested how, with
numbers and strings as they are spelled and members as they stand, repeated keys included. It
says nothing of ranges, of surrogates or of depth.

* `Outline`          : the syntax tree;
* `Outline.ofText?`  : the tree of a text, which holds one value and blanks around it.

Reading is by structural recursion on a count of steps that the length of the text bounds.
-/

namespace DocumentQuery.Json

open Number (isDigit digits)

/-- One element of a string as spelled: a character, or a code unit of sixteen bits. -/
inductive Piece where
  | char (value : Char)
  | unit (value : Nat)
  deriving DecidableEq, Repr

/-- A number as spelled. The fraction is empty where there is none. -/
structure Spelled where
  negative : Bool
  whole : List Char
  fraction : List Char
  exponent : Option Int
  deriving DecidableEq, Repr

inductive Outline where
  | null
  | bool (value : Bool)
  | number (value : Spelled)
  | string (pieces : List Piece)
  | array (items : List Outline)
  | object (members : List (List Piece × Outline))
  deriving Inhabited, Repr

namespace Outline

def isBlank (c : Char) : Bool := c == ' ' || c == '\t' || c == '\n' || c == '\r'

def skipBlanks (s : List Char) : List Char := s.dropWhile isBlank

/-- The character that `\` and `c` stand for. -/
def escaped? (c : Char) : Option Char :=
  match c with
  | '"' => some '"'
  | '\\' => some '\\'
  | '/' => some '/'
  | 'b' => some '\x08'
  | 'f' => some '\x0c'
  | 'n' => some '\n'
  | 'r' => some '\r'
  | 't' => some '\t'
  | _ => none

/-- The code unit of four hexadecimal digits. -/
def unit? (a b c d : Char) : Option Nat := do
  let a ← Text.hexValue? a
  let b ← Text.hexValue? b
  let c ← Text.hexValue? c
  let d ← Text.hexValue? d
  some (4096 * a + 256 * b + 16 * c + d)

/-- The pieces up to the closing quotation mark, and what follows it. -/
def pieces? : List Char → Option (List Piece × List Char)
  | [] => none
  | '"' :: rest => some ([], rest)
  | '\\' :: 'u' :: a :: b :: c :: d :: rest => do
    let unit ← unit? a b c d
    let (pieces, after) ← pieces? rest
    some (.unit unit :: pieces, after)
  | '\\' :: e :: rest => do
    let char ← escaped? e
    let (pieces, after) ← pieces? rest
    some (.char char :: pieces, after)
  | c :: rest =>
    if c.toNat < 0x20 ∨ c = '\\' then none
    else do
      let (pieces, after) ← pieces? rest
      some (.char c :: pieces, after)

/-- The exponent of a number, if one follows. -/
def exponent? : List Char → Option (Option Int × List Char)
  | c :: rest =>
    if c = 'e' ∨ c = 'E' then
      let (negative, body) := Number.sign rest
      let (run, after) := digits body
      if run.isEmpty then none
      else
        let n : Int := Number.digitsValue run
        some (some (if negative then -n else n), after)
    else some (none, c :: rest)
  | [] => some (none, [])

/-- The fraction of a number, if one follows. -/
def fraction? : List Char → Option (List Char × List Char)
  | '.' :: rest =>
    let (run, after) := digits rest
    if run.isEmpty then none else some (run, after)
  | s => some ([], s)

/-- A number: digits without leading zeros, and any fraction and exponent. -/
def number? (s : List Char) : Option (Spelled × List Char) := do
  let (negative, body) :=
    match s with
    | '-' :: rest => (true, rest)
    | _ => (false, s)
  let (whole, after) ←
    match body with
    | '0' :: rest => some (['0'], rest)
    | _ =>
      let (run, after) := digits body
      if run.isEmpty then none else some (run, after)
  let (fraction, after) ← fraction? after
  let (exponent, after) ← exponent? after
  some (⟨negative, whole, fraction, exponent⟩, after)

mutual

/-- A value, and what follows it. -/
def value? : Nat → List Char → Option (Outline × List Char)
  | 0, _ => none
  | fuel + 1, s =>
    match skipBlanks s with
    | 'n' :: 'u' :: 'l' :: 'l' :: rest => some (null, rest)
    | 't' :: 'r' :: 'u' :: 'e' :: rest => some (bool true, rest)
    | 'f' :: 'a' :: 'l' :: 's' :: 'e' :: rest => some (bool false, rest)
    | '"' :: rest => do
      let (pieces, after) ← pieces? rest
      some (string pieces, after)
    | '[' :: rest => do
      let (items, after) ←
        match skipBlanks rest with
        | ']' :: after => some ([], after)
        | _ => items? fuel rest
      some (array items, after)
    | '\x7b' :: rest => do
      let (members, after) ←
        match skipBlanks rest with
        | '\x7d' :: after => some ([], after)
        | _ => members? fuel rest
      some (object members, after)
    | s => do
      let (spelled, after) ← number? s
      some (number spelled, after)

/-- At least one item, up to the closing bracket. -/
def items? : Nat → List Char → Option (List Outline × List Char)
  | 0, _ => none
  | fuel + 1, s => do
    let (item, rest) ← value? fuel s
    match skipBlanks rest with
    | ',' :: rest => do
      let (items, after) ← items? fuel rest
      some (item :: items, after)
    | ']' :: after => some ([item], after)
    | _ => none

/-- At least one member, up to the closing brace. -/
def members? : Nat → List Char → Option (List (List Piece × Outline) × List Char)
  | 0, _ => none
  | fuel + 1, s =>
    match skipBlanks s with
    | '"' :: rest => do
      let (key, rest) ← pieces? rest
      match skipBlanks rest with
      | ':' :: rest => do
        let (value, rest) ← value? fuel rest
        match skipBlanks rest with
        | ',' :: rest => do
          let (members, after) ← members? fuel rest
          some ((key, value) :: members, after)
        | '\x7d' :: after => some ([(key, value)], after)
        | _ => none
      | _ => none
    | _ => none

end

/-- The outline of a text. Each character is read in at most two steps. -/
def ofText? (text : String) : Option Outline := do
  let s := text.toList
  let (outline, rest) ← value? (2 * s.length + 1) s
  if (skipBlanks rest).isEmpty then some outline else none

end Outline

end DocumentQuery.Json
