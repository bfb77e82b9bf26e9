import ContentSearch.Json
import ContentSearch.Number.Hex
import ContentSearch.Number.Integer

/-!
# JSON tokens

The first half of reading JSON text: cutting it into brackets, marks, literals, numbers and
strings.
-/

namespace ContentSearch.Json

open Number

/-- A token of JSON text. -/
inductive Token
  | openList | closeList | openObject | closeObject | comma | colon
  | literal (value : Json)
  | string (s : String)

/-! ## Numbers -/

/-- The digits of a number as far as a word of 64 bits can hold them, and the power of ten that
they count. -/
structure Significand where
  digits : Nat
  exponent : Int

/-- Adds a digit if the word can hold it. -/
def Significand.push? (s : Significand) (c : Char) : Option Nat :=
  let next := s.digits * 10 + (c.toNat - 0x30)
  if next < 0x10000000000000000 then some next else none

/-- Takes in the digits before the point; from the first that does not fit on they only count. -/
def Significand.whole (s : Significand) : List Char → Significand
  | [] => s
  | c :: cs =>
    match s.push? c with
    | some digits => { s with digits }.whole cs
    | none => { s with exponent := s.exponent + cs.length + 1 }

/-- Takes in the digits after the point, up to the first that does not fit. -/
def Significand.places (s : Significand) : List Char → Significand
  | [] => s
  | c :: cs =>
    match s.push? c with
    | some digits => Significand.places ⟨digits, s.exponent - 1⟩ cs
    | none => s

/-- Divides by `10 ^ 308` while the exponent asks for more than that, at most `fuel` times. -/
def scaleDown (x : Binary64) (places : Nat) : Nat → Binary64
  | 0 => Binary64.zero false
  | fuel + 1 =>
    if places ≤ 308 then x.div (Binary64.ofScientific false 1 places)
    else scaleDown (x.div (Binary64.ofScientific false 1 308)) (places - 308) fuel

/-- The number of a significand: digits and power are rounded each by itself and then multiplied or
divided. A number out of range is refused. -/
def Significand.toBinary64? (s : Significand) : Option Binary64 :=
  let x := Binary64.ofInt s.digits
  if s.digits = 0 then some x
  else if s.exponent < 0 then some (scaleDown x s.exponent.natAbs 4)
  else if 308 < s.exponent then none
  else
    let y := x.mul (Binary64.ofScientific false 1 s.exponent)
    if y.isFinite then some y else none

/-- The exponent behind its mark. -/
def exponent? : List Char → Option Int
  | '+' :: digits => (natural? digits).map Int.ofNat
  | '-' :: digits => (natural? digits).map fun n => -(n : Int)
  | digits => (natural? digits).map Int.ofNat

/-- The exponent of a number, if it has one; `rest` is what follows the digits. -/
def finish? (s : Significand) (rest : List Char) : Option Binary64 :=
  match rest with
  | [] => s.toBinary64?
  | c :: tail =>
    if c = 'e' ∨ c = 'E' then
      (exponent? tail).bind fun e => { s with exponent := s.exponent + e }.toBinary64?
    else none

/-- A number without its sign: an integer if it is nothing but digits and fits into a word. -/
def unsigned? (cs : List Char) : Option (Nat ⊕ Binary64) :=
  let whole := cs.takeWhile Char.isDigit
  let s := Significand.whole ⟨0, 0⟩ whole
  match whole, cs.dropWhile Char.isDigit with
  | [], _ => none
  | '0' :: _ :: _, _ => none
  | _, [] => if s.exponent = 0 then some (.inl s.digits) else s.toBinary64?.map .inr
  | _, '.' :: tail =>
    let places := tail.takeWhile Char.isDigit
    if places.isEmpty then none
    else (finish? (s.places places) (tail.dropWhile Char.isDigit)).map .inr
  | _, rest => (finish? s rest).map .inr

/-- A number. Integers are kept as such where they are 64-bit integers, with a sign or without;
minus zero is none. -/
def number? : List Char → Option Json
  | '-' :: cs => (unsigned? cs).map fun
    | .inl n =>
      if n = 0 ∨ 0x8000000000000000 < n then .real (Binary64.ofInt n).negate else .int (-n)
    | .inr x => .real x.negate
  | cs => (unsigned? cs).map fun
    | .inl n => .int n
    | .inr x => .real x

/-! ## Strings -/

/-- The character that an escape of one letter stands for. -/
def escaped? (c : Char) : Option Char :=
  match c with
  | '\x22' => some '\x22'
  | '\\' => some '\\'
  | '/' => some '/'
  | 'b' => some '\x08'
  | 'f' => some '\x0c'
  | 'n' => some '\n'
  | 'r' => some '\r'
  | 't' => some '\t'
  | _ => none

/-- Whether a code is the first half of a surrogate pair. -/
def isHighSurrogate (code : Nat) : Bool :=
  Nat.ble 0xd800 code && Nat.blt code 0xdc00

/-- Whether a code is the second half of a surrogate pair. -/
def isLowSurrogate (code : Nat) : Bool :=
  Nat.ble 0xdc00 code && Nat.blt code 0xe000

/-! ## Scanning -/

/-- Where scanning stands. The characters of an open token are kept in reverse. -/
inductive Place
  | between
  | word (before : List Char)
  | number (before : List Char)
  | string (before : List Char)
  | escape (before : List Char)
  | code (before : List Char) (high? : Option Nat) (digits : List Char)
  | afterHigh (before : List Char) (high : Nat)
  | lowEscape (before : List Char) (high : Nat)

/-- Characters that numbers are made of. -/
def isNumberChar (c : Char) : Bool :=
  c.isDigit || c == '-' || c == '+' || c == '.' || c == 'e' || c == 'E'

/-- The blanks of JSON. -/
def isSpace (c : Char) : Bool :=
  c == ' ' || c == '\t' || c == '\n' || c == '\r'

/-- The literal of a word. -/
def word? (before : List Char) : Option Token :=
  match String.ofList before.reverse with
  | "null" => some (.literal .null)
  | "true" => some (.literal (.bool true))
  | "false" => some (.literal (.bool false))
  | _ => none

/-- What a character between tokens does: it may be a token itself, or begin one. -/
def start? (c : Char) : Option (List Token × Place) :=
  if isSpace c then some ([], .between)
  else if c = '[' then some ([.openList], .between)
  else if c = ']' then some ([.closeList], .between)
  else if c = '\x7b' then some ([.openObject], .between)
  else if c = '\x7d' then some ([.closeObject], .between)
  else if c = ',' then some ([.comma], .between)
  else if c = ':' then some ([.colon], .between)
  else if c = '\x22' then some ([], .string [])
  else if c.isDigit || c == '-' then some ([], .number [c])
  else if c.isAlpha then some ([], .word [c])
  else none

/-- Ends an open token at a character that is no part of it. -/
def endAt? (token? : Option Token) (c : Char) : Option (List Token × Place) :=
  token?.bind fun token => (start? c).map fun (tokens, place) => (token :: tokens, place)

/-- Takes up a code of four digits; the halves of a pair must follow upon each other. -/
def endCode? (before : List Char) (high? : Option Nat) (code : Nat) :
    Option (List Token × Place) :=
  match high? with
  | none =>
    if isHighSurrogate code then some ([], .afterHigh before code)
    else if isLowSurrogate code then none
    else some ([], .string (Char.ofNat code :: before))
  | some high =>
    if isLowSurrogate code then
      let pair := 0x10000 + (high - 0xd800) * 0x400 + (code - 0xdc00)
      some ([], .string (Char.ofNat pair :: before))
    else none

/-- What a character does: the tokens that it completes, and the place after it. -/
def advance? (place : Place) (c : Char) : Option (List Token × Place) :=
  match place with
  | .between => start? c
  | .word before =>
    if c.isAlphanum then some ([], .word (c :: before)) else endAt? (word? before) c
  | .number before =>
    if isNumberChar c then some ([], .number (c :: before))
    else endAt? ((number? before.reverse).map .literal) c
  | .string before =>
    if c = '\x22' then some ([.string (String.ofList before.reverse)], .between)
    else if c = '\\' then some ([], .escape before)
    else if c.toNat < 0x20 then none
    else some ([], .string (c :: before))
  | .escape before =>
    if c = 'u' then some ([], .code before none [])
    else (escaped? c).map fun e => ([], .string (e :: before))
  | .code before high? digits =>
    if digits.length < 3 then some ([], .code before high? (c :: digits))
    else (hexFrom? 0 (c :: digits).reverse).bind (endCode? before high?)
  | .afterHigh before high => if c = '\\' then some ([], .lowEscape before high) else none
  | .lowEscape before high => if c = 'u' then some ([], .code before (some high) []) else none

/-- The token that is completed by the end of the text. -/
def atEnd? : Place → Option (List Token)
  | .between => some []
  | .word before => (word? before).map ([·])
  | .number before => (number? before.reverse).map fun n => [.literal n]
  | _ => none

/-- The tokens of a text, from a place on. -/
def scan? (place : Place) : List Char → Option (List Token)
  | [] => atEnd? place
  | c :: cs =>
    (advance? place c).bind fun (tokens, next) => (scan? next cs).map (tokens ++ ·)

end ContentSearch.Json
