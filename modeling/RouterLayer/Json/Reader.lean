import RouterLayer.Json.Basic
import RouterLayer.Text.Quoted

/-!
Reading JSON text. A fault names what was expected and the place at which the reader stood, and
the places are those at which a reader that goes through the text once, from left to right, can
first tell that something is wrong.
-/

set_option autoImplicit false

namespace RouterLayer.Json

inductive Fault
  | value | name | colon | comma | unterminated | control | escape | codeEscape | extra
  | byteOrderMark
  deriving DecidableEq, Repr

def Fault.text : Fault → Text
  | .value => "Expecting value"
  | .name => "Expecting property name enclosed in double quotes"
  | .colon => "Expecting ':' delimiter"
  | .comma => "Expecting ',' delimiter"
  | .unterminated => "Unterminated string starting at"
  | .control => "Invalid control character at"
  | .escape => "Invalid \\escape"
  | .codeEscape => "Invalid \\uXXXX escape"
  | .extra => "Extra data"
  | .byteOrderMark => "Unexpected UTF-8 BOM (decode using utf-8-sig)"

/-- Where reading stopped. `remaining` counts the characters from the place to the end. -/
inductive Stop
  | misplaced (fault : Fault) (remaining : Nat)
  | integerTooLong (digits : Nat)
  | tooDeep
  deriving DecidableEq, Repr

abbrev Read (α : Type) := Except Stop (α × List Char)

def stopAt {α : Type} (fault : Fault) (rest : List Char) : Except Stop α :=
  .error (.misplaced fault rest.length)

def isSpace (c : Char) : Bool := c = ' ' || c = '\t' || c = '\n' || c = '\r'

def skipSpace (cs : List Char) : List Char := cs.dropWhile isSpace

def isDigit (c : Char) : Bool := '0' ≤ c && c ≤ '9'

def hexValue? (c : Char) : Option Nat :=
  if isDigit c then some (c.toNat - 48)
  else if 'a' ≤ c && c ≤ 'f' then some (c.toNat - 87)
  else if 'A' ≤ c && c ≤ 'F' then some (c.toNat - 55)
  else none

def codeUnit? (a b c d : Char) : Option Nat :=
  match hexValue? a, hexValue? b, hexValue? c, hexValue? d with
  | some a, some b, some c, some d => some (((a * 16 + b) * 16 + c) * 16 + d)
  | _, _, _, _ => none

def isHighUnit (unit : Nat) : Bool := 0xD800 ≤ unit && unit ≤ 0xDBFF

def isLowUnit (unit : Nat) : Bool := 0xDC00 ≤ unit && unit ≤ 0xDFFF

def pairedChar (high low : Nat) : Char :=
  Char.ofNat (0x10000 + (high - 0xD800) * 0x400 + (low - 0xDC00))

def simpleEscape? (c : Char) : Option Char :=
  match c with
  | '"' => some '"'
  | '\\' => some '\\'
  | '/' => some '/'
  | 'b' => some '\x08'
  | 'f' => some '\x0c'
  | 'n' => some '\n'
  | 'r' => some '\r'
  | 't' => some '\t'
  | _ => none

/-- What was read so far, the last first, and the first half of a pair that may follow. -/
structure Progress where
  done : Text
  half : Option Nat
  deriving DecidableEq, Repr

def Progress.points (p : Progress) : Text :=
  match p.half with
  | some unit => CodePoint.ofCode unit :: p.done
  | none => p.done

def Progress.push (p : Progress) (c : CodePoint) : Progress := ⟨c :: p.points, none⟩

def Progress.pushUnit (p : Progress) (unit : Nat) : Progress :=
  match p.half with
  | some high =>
    if isLowUnit unit then ⟨pairedChar high unit :: p.done, none⟩
    else if isHighUnit unit then ⟨p.points, some unit⟩
    else p.push (CodePoint.ofCode unit)
  | none => if isHighUnit unit then ⟨p.done, some unit⟩ else p.push (CodePoint.ofCode unit)

/-- The text of a string up to its closing quote; `opening` is the text from the opening
quote on. An escape by code takes four digits, and some character has to follow them. -/
def readChars (opening : List Char) (p : Progress) : List Char → Read Text
  | [] => stopAt .unterminated opening
  | '"' :: rest => .ok (p.points.reverse, rest)
  | ['\\'] => stopAt .unterminated opening
  | '\\' :: 'u' :: a :: b :: c :: d :: rest =>
    match codeUnit? a b c d, rest.isEmpty with
    | some unit, false => readChars opening (p.pushUnit unit) rest
    | _, _ => stopAt .codeEscape ('u' :: a :: b :: c :: d :: rest)
  | '\\' :: 'u' :: rest => stopAt .codeEscape ('u' :: rest)
  | '\\' :: c :: rest =>
    match simpleEscape? c with
    | some e => readChars opening (p.push e) rest
    | none => stopAt .escape ('\\' :: c :: rest)
  | c :: rest =>
    if c.toNat ≤ 0x1F then stopAt .control (c :: rest)
    else readChars opening (p.push c) rest

def readString (rest : List Char) : Read Text := readChars ('"' :: rest) ⟨[], none⟩ rest

def integerPart (cs : List Char) : Option (List Char × List Char) :=
  match cs with
  | '0' :: rest => some (['0'], rest)
  | c :: _ => if isDigit c then some (cs.takeWhile isDigit, cs.dropWhile isDigit) else none
  | [] => none

def fractionPart (cs : List Char) : List Char × List Char :=
  match cs with
  | '.' :: c :: rest =>
    if isDigit c then ((c :: rest).takeWhile isDigit, (c :: rest).dropWhile isDigit) else ([], cs)
  | _ => ([], cs)

def exponentPart (cs : List Char) : Option (Bool × List Char) × List Char :=
  let digits (negative : Bool) (rest : List Char) : Option (Bool × List Char) × List Char :=
    match rest with
    | c :: _ =>
      if isDigit c then (some (negative, rest.takeWhile isDigit), rest.dropWhile isDigit)
      else (none, cs)
    | [] => (none, cs)
  match cs with
  | e :: rest =>
    if e = 'e' || e = 'E' then
      match rest with
      | '-' :: rest => digits true rest
      | '+' :: rest => digits false rest
      | rest => digits false rest
    else (none, cs)
  | [] => (none, cs)

def digitsValue (ds : List Char) : Nat := ds.foldl (fun n d => 10 * n + (d.toNat - 48)) 0

def longestInteger : Nat := 4300

/-- Exponents beyond this bound all mean zero or infinity, whatever the digits. -/
def exponentValue (limit : Nat) (ds : List Char) : Nat :=
  let ds := ds.dropWhile (· = '0')
  if 9 < ds.length then 1000000000 + limit else digitsValue ds

def readNumber (cs : List Char) : Read Json :=
  let negative := cs.head? = some '-'
  match integerPart (if negative then cs.tail else cs) with
  | none => stopAt .value cs
  | some (whole, rest) =>
    let (fraction, rest) := fractionPart rest
    let (exponent, rest) := exponentPart rest
    match fraction, exponent with
    | [], none =>
      if longestInteger < whole.length then .error (.integerTooLong whole.length)
      else
        let n : Int := digitsValue whole
        .ok (.int (if negative then -n else n), rest)
    | _, _ =>
      let ds := whole ++ fraction
      let power : Int :=
        match exponent with
        | none => 0
        | some (down, es) =>
          let e : Int := exponentValue ds.length es
          if down then -e else e
      .ok (.float (Binary64.ofDecimal negative (digitsValue ds) (power - fraction.length)), rest)

def words : List (String × Json) := [
  ("null", .null), ("true", .bool true), ("false", .bool false), ("NaN", .float .undefined),
  ("Infinity", .float (.infinite false)), ("-Infinity", .float (.infinite true))]

def readWord? (cs : List Char) : Option (Json × List Char) :=
  words.findSome? fun w =>
    if w.1.toList.isPrefixOf cs then some (w.2, cs.drop w.1.length) else none

def readScalar (cs : List Char) : Read Json :=
  match cs with
  | '"' :: rest => (readString rest).map fun r => (.str r.1, r.2)
  | cs =>
    match readWord? cs with
    | some r => .ok r
    | none => readNumber cs

/-- One or more items and the closing bracket; `read` reads an item. Every item takes a character,
so the length of the text bounds their number. -/
def readItems (read : List Char → Read Json) : (bound : Nat) → List Char →
    Except Stop (List Json × List Char)
  | 0, cs => stopAt .value cs
  | bound + 1, cs => do
    let (item, rest) ← read cs
    match skipSpace rest with
    | ']' :: rest => return ([item], rest)
    | ',' :: rest =>
      let (items, rest) ← readItems read bound (skipSpace rest)
      return (item :: items, rest)
    | rest => stopAt .comma rest

def readMember (read : List Char → Read Json) (cs : List Char) :
    Except Stop ((Text × Json) × List Char) :=
  match cs with
  | '"' :: rest => do
    let (key, rest) ← readString rest
    match skipSpace rest with
    | ':' :: rest =>
      let (value, rest) ← read (skipSpace rest)
      return ((key, value), rest)
    | rest => stopAt .colon rest
  | cs => stopAt .name cs

def readMembers (read : List Char → Read Json) : (bound : Nat) → List Char →
    Except Stop (List (Text × Json) × List Char)
  | 0, cs => stopAt .name cs
  | bound + 1, cs => do
    let (member, rest) ← readMember read cs
    match skipSpace rest with
    | '\x7d' :: rest => return ([member], rest)
    | ',' :: rest =>
      let (members, rest) ← readMembers read bound (skipSpace rest)
      return (member :: members, rest)
    | rest => stopAt .comma rest

def readList (read : List Char → Read Json) (rest : List Char) : Read Json :=
  match skipSpace rest with
  | ']' :: rest => .ok (.list [], rest)
  | rest => (readItems read (rest.length + 1) rest).map fun r => (.list r.1, r.2)

/-- Of several members with one name the last counts, at the place of the first. -/
def readObject (read : List Char → Read Json) (rest : List Char) : Read Json :=
  match skipSpace rest with
  | '\x7d' :: rest => .ok (.object [], rest)
  | rest =>
    (readMembers read (rest.length + 1) rest).map fun r => (.object (OrderedMap.ofEntries r.1), r.2)

def deepestNesting : Nat := 990

/-- Reads one value at the front of a text; `depth` more lists and objects may open in it. -/
def readValue (depth : Nat) (cs : List Char) : Read Json :=
  match depth, cs with
  | 0, '[' :: _ | 0, '\x7b' :: _ => .error .tooDeep
  | depth + 1, '[' :: rest => readList (readValue depth) rest
  | depth + 1, '\x7b' :: rest => readObject (readValue depth) rest
  | _, cs => readScalar cs

/-- A place in a text. Lines and columns count from one, characters from zero. -/
structure Place where
  line : Nat
  column : Nat
  char : Nat
  deriving DecidableEq, Repr

def placeOf (cs : List Char) (remaining : Nat) : Place :=
  let char := cs.length - remaining
  let before := cs.take char
  ⟨before.count '\n' + 1, (before.reverse.takeWhile (· ≠ '\n')).length + 1, char⟩

structure SyntaxError where
  fault : Fault
  place : Place
  deriving DecidableEq, Repr

def SyntaxError.message (e : SyntaxError) : Text :=
  e.fault.text ++ ": line " ++ toString e.place.line ++ " column " ++ toString e.place.column ++
    " (char " ++ toString e.place.char ++ ")"

inductive ReadError
  | malformed (error : SyntaxError)
  | integerTooLong (digits : Nat)
  | tooDeep
  deriving DecidableEq, Repr

def integerTooLongText (digits : Nat) : Text :=
  "Exceeds the limit (" ++ toString longestInteger ++
    " digits) for integer string conversion: value has " ++ toString digits ++
    " digits; use sys.set_int_max_str_digits() to increase the limit"

def readDocument (cs : List Char) : Except Stop Json :=
  match cs with
  | '\uFEFF' :: _ => stopAt .byteOrderMark cs
  | _ => do
    let (value, rest) ← readValue deepestNesting (skipSpace cs)
    match skipSpace rest with
    | [] => return value
    | rest => stopAt .extra rest

def read (s : String) : Except ReadError Json :=
  match readDocument s.toList with
  | .ok value => .ok value
  | .error (.misplaced fault remaining) => .error (.malformed ⟨fault, placeOf s.toList remaining⟩)
  | .error (.integerTooLong digits) => .error (.integerTooLong digits)
  | .error .tooDeep => .error .tooDeep

end RouterLayer.Json
