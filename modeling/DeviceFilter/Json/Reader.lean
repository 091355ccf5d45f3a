import DeviceFilter.Json.Error
import DeviceFilter.Text.Utf8

/-!
Reading JSON by expected shape. A reader takes a value off the front of the remaining characters;
what it expects decides which complaint comes first when the text is both malformed and of the
wrong shape. Lists and objects may be nested up to a limit, except inside fields that are skipped.

Records are read from objects, or from lists of their fields in declaration order. Names without
data are read from strings, or from objects that map the name to null.
-/
set_option autoImplicit false

namespace DeviceFilter.Json

abbrev Reader := StateT (List Char) (Except Error)

namespace Reader

variable {α : Type}

def malformed (what : Malformed) : Reader α := throw (.malformed what)

def unfinished (what : Unfinished) : Reader α := throw (.unfinished what)

def mismatch (what : Mismatch) : Reader α := throw (.mismatch what)

def isSpace (c : Char) : Bool := c == ' ' || c == '\n' || c == '\t' || c == '\r'

/-- The next character, not consumed. -/
def peek : Reader (Option Char) := do return (← get).head?

/-- The next character after white space, not consumed. -/
def token : Reader (Option Char) := do
  modify (·.dropWhile isSpace)
  peek

def advance : Reader Unit := modify (·.drop 1)

/-- The rest of a literal whose first character decided for it. -/
def literal : List Char → Reader Unit
  | [] => pure ()
  | c :: cs => do
    match ← peek with
    | none => unfinished .value
    | some d => if c = d then advance; literal cs else malformed .expectedLiteral

/-! ## Numbers -/

/-- The longest run of digits at the front, consumed. -/
def digits : Reader (List Char) := do
  let cs ← get
  set (cs.dropWhile Char.isDigit)
  return cs.takeWhile Char.isDigit

def ofParts (negative : Bool) (significand : Nat) (exponent : Int) : Reader Number :=
  match floatOfParts negative significand exponent with
  | some x => pure (.float x)
  | none => malformed .numberOutOfRange

/-- The exponent of a number, its letter included. -/
def exponentPart (negative : Bool) (significand : Nat) (before : Int) : Reader Number := do
  advance
  let down := (← peek) == some '-'
  if down || (← peek) == some '+' then advance
  match ← peek with
  | none => unfinished .value
  | some c =>
    if !c.isDigit then malformed .invalidNumber
    else
      let e := Decimal.ofDigits (← digits)
      if e > 2147483647 then
        if significand ≠ 0 && !down then malformed .numberOutOfRange
        else return .float (if negative then -0.0 else 0.0)
      else
        ofParts negative significand (clampExponent (if down then before - e else before + e))

/-- The fraction of a number, its point included; digits that no longer fit are left out. -/
def fractionPart (negative : Bool) (significand : Nat) (before : Int) : Reader Number := do
  advance
  let ds ← digits
  if ds = [] then
    match ← peek with
    | none => unfinished .value
    | some _ => malformed .invalidNumber
  else
    let (total, count) := absorb significand ds
    let exponent := before - count
    match ← peek with
    | some 'e' | some 'E' => exponentPart negative total exponent
    | _ => ofParts negative total exponent

/-- A number after its sign. -/
def number (negative : Bool) : Reader Number := do
  match ← peek with
  | none => unfinished .value
  | some c =>
    if !c.isDigit then malformed .invalidNumber
    else
      let ds ← if c = '0' then advance *> pure ['0'] else digits
      let (n, count) := absorb 0 ds
      let dropped := ds.length - count
      match ← peek with
      | some '.' => fractionPart negative n dropped
      | some 'e' | some 'E' => exponentPart negative n dropped
      | next =>
        if c = '0' && next.any Char.isDigit then malformed .invalidNumber
        else if dropped = 0 then return Number.ofInteger negative n
        else ofParts negative n dropped

/-- A number that is not wanted; its size does not matter. -/
def skipNumber : Reader Unit := do
  match ← peek with
  | some '0' =>
    advance
    if (← peek).any Char.isDigit then malformed .invalidNumber
  | some c => if c.isDigit then discard digits else malformed .invalidNumber
  | none => malformed .invalidNumber
  if (← peek) == some '.' then
    advance
    if (← digits) = [] then malformed .invalidNumber
  if (← peek) == some 'e' || (← peek) == some 'E' then
    advance
    if (← peek) == some '+' || (← peek) == some '-' then advance
    if (← digits) = [] then malformed .invalidNumber

/-! ## Strings -/

def hexValue? (c : Char) : Option Nat :=
  if c.isDigit then some (c.toNat - '0'.toNat)
  else if 'a' ≤ c ∧ c ≤ 'f' then some (c.toNat - 'a'.toNat + 10)
  else if 'A' ≤ c ∧ c ≤ 'F' then some (c.toNat - 'A'.toNat + 10)
  else none

/-- Four hexadecimal digits; a text of fewer than four bytes has ended too early. -/
def hexEscape (cs : List Char) : Except Error Nat :=
  match (cs.take 4).mapM hexValue? with
  | some [a, b, c, d] => .ok (((a * 16 + b) * 16 + c) * 16 + d)
  | _ =>
    if (Utf8.encode (cs.take 4)).length < 4 then .error (.unfinished .string)
    else .error (.malformed .invalidEscape)

/-- The character that an escape of code units writes, and how many characters follow its `u`. -/
def unicodeEscape (cs : List Char) : Except Error (Char × Nat) := do
  let unit ← hexEscape cs
  if 0xDC00 ≤ unit ∧ unit ≤ 0xDFFF then throw (.malformed .loneSurrogate)
  else if 0xD800 ≤ unit ∧ unit ≤ 0xDBFF then
    match cs.drop 4 with
    | [] => throw (.unfinished .string)
    | '\\' :: [] => throw (.unfinished .string)
    | '\\' :: 'u' :: rest =>
      let second ← hexEscape rest
      if 0xDC00 ≤ second ∧ second ≤ 0xDFFF then
        return (Char.ofNat (0x10000 + (unit - 0xD800) * 0x400 + (second - 0xDC00)), 10)
      else throw (.malformed .loneSurrogate)
    | _ => throw (.malformed .unexpectedEndOfEscape)
  else return (Char.ofNat unit, 4)

/-- What an escape writes, and how many characters follow its backslash. -/
def escape (cs : List Char) : Except Error (Char × Nat) :=
  match cs with
  | [] => .error (.unfinished .string)
  | '"' :: _ => .ok ('"', 1)
  | '\\' :: _ => .ok ('\\', 1)
  | '/' :: _ => .ok ('/', 1)
  | 'b' :: _ => .ok ('\x08', 1)
  | 'f' :: _ => .ok ('\x0c', 1)
  | 'n' :: _ => .ok ('\n', 1)
  | 'r' :: _ => .ok ('\r', 1)
  | 't' :: _ => .ok ('\t', 1)
  | 'u' :: rest => do
    let (c, used) ← unicodeEscape rest
    return (c, used + 1)
  | _ => .error (.malformed .invalidEscape)

/-- An escape in a string that is not wanted: code units need not form a character. -/
def skipEscape (cs : List Char) : Except Error (Char × Nat) :=
  match cs with
  | 'u' :: rest => do
    let _ ← hexEscape rest
    return ('u', 5)
  | cs => escape cs

/-- A string after its opening quote: its characters, reversed onto `done`, and what follows. -/
def stringBody (readEscape : List Char → Except Error (Char × Nat)) :
    List Char → List Char → Except Error (List Char × List Char)
  | _, [] => .error (.unfinished .string)
  | done, c :: cs =>
    if c = '"' then .ok (done.reverse, cs)
    else if c = '\\' then
      match readEscape cs with
      | .error e => .error e
      | .ok (d, used) => stringBody readEscape (d :: done) (cs.drop used)
    else if c.toNat < 0x20 then .error (.malformed .controlCharacter)
    else stringBody readEscape (c :: done) cs
termination_by _ cs => cs.length
decreasing_by
  · simp only [List.length_drop, List.length_cons]; omega
  · simp only [List.length_cons]; omega

/-- The rest of a string whose opening quote was consumed. -/
def stringRest : Reader String := do
  let (cs, rest) ← stringBody escape [] (← get)
  set rest
  return String.ofList cs

def skipStringRest : Reader Unit := do
  let (_, rest) ← stringBody skipEscape [] (← get)
  set rest

/-! ## Values of a wanted type -/

/-- Complains that the next value is not what was expected. -/
def unexpected (expected : String) : Reader α := do
  let wrong (found : Found) : Reader α := mismatch (.wrongType found expected)
  match ← peek with
  | some 'n' => advance; literal ['u', 'l', 'l']; wrong .null
  | some 't' => advance; literal ['r', 'u', 'e']; wrong (.boolean true)
  | some 'f' => advance; literal ['a', 'l', 's', 'e']; wrong (.boolean false)
  | some '-' => advance; wrong (.number (← number true))
  | some '"' => advance; wrong (.string (← stringRest))
  | some '[' => wrong .list
  | some '\x7b' => wrong .object
  | some c => if c.isDigit then wrong (.number (← number false)) else malformed .expectedValue
  | none => malformed .expectedValue

/-- Runs `read` unless the text ends here. -/
def onToken (read : Char → Reader α) : Reader α := do
  match ← token with
  | none => unfinished .value
  | some c => read c

def boolean : Reader Bool := onToken fun c => do
  match c with
  | 't' => advance; literal ['r', 'u', 'e']; return true
  | 'f' => advance; literal ['a', 'l', 's', 'e']; return false
  | _ => unexpected "a boolean"

def string (expected : String) : Reader String := onToken fun c => do
  if c = '"' then advance; stringRest else unexpected expected

/-- An integer of a range; `expected` names the type of such integers. -/
def integer (range : IntegerRange) (expected : String) : Reader Int := onToken fun c => do
  let check (n : Number) : Reader Int :=
    match n with
    | .integer n =>
      if range.contains n then pure n else mismatch (.integerOutOfRange n expected)
    | .float x => mismatch (.wrongType (.number (.float x)) expected)
  if c = '-' then advance; check (← number true)
  else if c.isDigit then check (← number false)
  else unexpected expected

def null : Reader Unit := onToken fun c => do
  if c = 'n' then advance; literal ['u', 'l', 'l'] else unexpected "unit"

/-- Null, or a value. -/
def optional (read : Reader α) : Reader (Option α) := do
  match ← token with
  | some 'n' => advance; literal ['u', 'l', 'l']; return none
  | _ => return some (← read)

/-! ## Lists and objects -/

/-- Reads with one level of nesting less, and not at all when none is left. -/
def nested (levels : Nat) (read : Nat → Reader α) : Reader α :=
  match levels with
  | 0 | 1 => malformed .nestingTooDeep
  | levels + 1 => read levels

/-- Whether another list element follows; consumes the comma before it. -/
def moreElements (first : Bool) : Reader Bool := do
  match ← token with
  | none => unfinished .list
  | some ']' => return false
  | some c =>
    if first then return true
    else if c = ',' then
      advance
      match ← token with
      | some ']' => malformed .trailingComma
      | some _ => return true
      | none => unfinished .value
    else malformed .expectedListCommaOrEnd

/-- The end of a list that should have no further elements. -/
def endList : Reader Unit := do
  match ← token with
  | some ']' => advance
  | some ',' =>
    advance
    if (← token) == some ']' then malformed .trailingComma else malformed .trailingCharacters
  | some _ => malformed .trailingCharacters
  | none => unfinished .list

def elements (read : Reader α) : Nat → Bool → Reader (List α)
  | 0, _ => unfinished .list
  | fuel + 1, first => do
    if ← moreElements first then
      let a ← read
      let rest ← elements read fuel false
      return a :: rest
    else return []

/-- A list of values; every element takes at least one character. -/
def list (levels : Nat) (read : Nat → Reader α) : Reader (List α) := onToken fun c =>
  if c = '[' then nested levels fun inner => do
    advance
    let items ← elements (read inner) ((← get).length + 1) true
    endList
    return items
  else unexpected "a sequence"

/-- Whether another key follows; consumes the comma before it and its opening quote. -/
def moreKeys (first : Bool) : Reader Bool := do
  match ← token with
  | none => unfinished .object
  | some '\x7d' => return false
  | some c =>
    if first then
      if c = '"' then advance; return true else malformed .keyMustBeString
    else if c = ',' then
      advance
      match ← token with
      | some '"' => advance; return true
      | some '\x7d' => malformed .trailingComma
      | some _ => malformed .keyMustBeString
      | none => unfinished .value
    else malformed .expectedObjectCommaOrEnd

def colon : Reader Unit := do
  match ← token with
  | some ':' => advance
  | some _ => malformed .expectedColon
  | none => unfinished .object

/-! ## Skipped values -/

inductive Bracket where
  | list
  | object

/-- Where a skipped value stands: before it, after an opening bracket, or after it. -/
inductive SkipAt where
  | value
  | opened
  | done

/-- Skips one value, `outer` holding the brackets still open. Every second step takes a
character. -/
def skip : Nat → SkipAt → List Bracket → Reader Unit
  | 0, _, _ => unfinished .value
  | fuel + 1, .value, outer => onToken fun c => do
    match c with
    | 'n' => advance; literal ['u', 'l', 'l']; skip fuel .done outer
    | 't' => advance; literal ['r', 'u', 'e']; skip fuel .done outer
    | 'f' => advance; literal ['a', 'l', 's', 'e']; skip fuel .done outer
    | '-' => advance; skipNumber; skip fuel .done outer
    | '"' => advance; skipStringRest; skip fuel .done outer
    | '[' => advance; skip fuel .opened (.list :: outer)
    | '\x7b' => advance; skip fuel .opened (.object :: outer)
    | c => if c.isDigit then skipNumber; skip fuel .done outer else malformed .expectedValue
  | _ + 1, _, [] => pure ()
  | fuel + 1, place, bracket :: outer => do
    let item : Reader Unit := do
      match bracket with
      | .list => pure ()
      | .object =>
        match ← token with
        | some '"' => advance; skipStringRest; colon
        | some _ => malformed .keyMustBeString
        | none => unfinished .object
      skip fuel .value (bracket :: outer)
    match ← token, bracket, place with
    | some ']', .list, _ => advance; skip fuel .done outer
    | some '\x7d', .object, _ => advance; skip fuel .done outer
    | some _, _, .opened => item
    | some ',', _, _ => advance; item
    | some _, .list, _ => malformed .expectedListCommaOrEnd
    | some _, .object, _ => malformed .expectedObjectCommaOrEnd
    | none, .list, _ => unfinished .list
    | none, .object, _ => unfinished .object

def skipValue : Reader Unit := do skip (2 * (← get).length + 2) .value []

end Reader

/-! ## Records and names -/

/-- One field of a record: reading gives the change it makes to the record. -/
structure RecordField (σ : Type) where
  name : String
  required : Bool
  read : Nat → Reader (σ → σ)

/-- A record that starts from its defaults. -/
structure RecordFormat (σ : Type) where
  name : String
  fields : List (RecordField σ)
  default : σ

namespace RecordFormat

variable {σ : Type}

/-- The fields of an object; `seen` names the fields read before. -/
def readFields (format : RecordFormat σ) (levels : Nat) :
    Nat → Bool → List String → σ → Reader σ
  | 0, _, _, _ => Reader.unfinished .object
  | fuel + 1, first, seen, record => do
    if ← Reader.moreKeys first then
      let key ← Reader.stringRest
      match format.fields.find? (·.name == key) with
      | none =>
        Reader.colon
        Reader.skipValue
        readFields format levels fuel false seen record
      | some field =>
        if seen.contains key then Reader.mismatch (.duplicateField key)
        else
          Reader.colon
          let change ← field.read levels
          readFields format levels fuel false (key :: seen) (change record)
    else
      match format.fields.find? (fun f => f.required && !seen.contains f.name) with
      | some field => Reader.mismatch (.missingField field.name)
      | none => return record

/-- The fields of a list, in declaration order; missing ones at the end keep their defaults. -/
def readPositions (format : RecordFormat σ) (levels : Nat) :
    Nat → List (RecordField σ) → σ → Reader σ
  | _, [], record => return record
  | position, field :: fields, record => do
    if ← Reader.moreElements (position == 0) then
      let change ← field.read levels
      readPositions format levels (position + 1) fields (change record)
    else if field.required then
      Reader.mismatch (.tooShort position
        (format.name ++ " with " ++ toString format.fields.length ++ " elements"))
    else readPositions format levels position fields record

def read (format : RecordFormat σ) (levels : Nat) : Reader σ := Reader.onToken fun c =>
  if c = '[' then Reader.nested levels fun inner => do
    Reader.advance
    let record ← readPositions format inner 0 format.fields format.default
    Reader.endList
    return record
  else if c = '\x7b' then Reader.nested levels fun inner => do
    Reader.advance
    let record ← readFields format inner ((← get).length + 1) true [] format.default
    Reader.advance
    return record
  else Reader.unexpected format.name

end RecordFormat

/-- The only key of an object, up to its closing quote. -/
def onlyKey : Reader String := Reader.onToken fun c => do
  match c with
  | '"' => Reader.advance; Reader.stringRest
  | '\x7d' => Reader.malformed .expectedValue
  | _ => Reader.malformed .keyMustBeString

/-- One of some names; an object holds the name as its only key, with null. -/
def readName {α : Type} (levels : Nat) (names : List (String × α)) : Reader α :=
  let choose (name : String) : Reader α :=
    match names.lookup name with
    | some a => pure a
    | none => Reader.mismatch (.unknownVariant name (names.map (·.1)))
  Reader.onToken fun c => do
    if c = '"' then
      Reader.advance
      choose (← Reader.stringRest)
    else if c = '\x7b' then Reader.nested levels fun _ => do
      Reader.advance
      let a ← choose (← onlyKey)
      Reader.colon
      Reader.null
      match ← Reader.token with
      | some '\x7d' => Reader.advance; return a
      | some _ => Reader.malformed .expectedValue
      | none => Reader.unfinished .object
    else Reader.malformed .expectedValue

/-- Levels of nesting a text may have, plus one. -/
def nestingLimit : Nat := 128

/-- Reads a whole text; only white space may follow the value. -/
def parse {α : Type} (read : Nat → Reader α) (text : String) : Except Error α := do
  let (a, rest) ← (read nestingLimit).run text.toList
  if rest.all Reader.isSpace then return a else throw (.malformed .trailingCharacters)

end DeviceFilter.Json
