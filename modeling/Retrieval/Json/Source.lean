/-
  Retrieval/Json/Source.lean
  ==========================
  **JSON text, read but not yet interpreted.**

  Reading a text happens in two steps.  The first one, `Source.ofText?`, only checks
  the grammar and yields a tree that still knows everything the text said: members in
  their order, repeated names, and for each string and number whether it has a value
  at all.  A string with half of a surrogate pair has none, and neither has a number
  beyond the range of doubles.

  The second step asks the tree for something.  A part that nobody asks for needs the
  right grammar and no more: it may hold strings and numbers without a value, and it
  may be nested as deeply as it likes.  A part that is read as a value
  (`Source.json?`) must have one throughout and may be nested at most as many levels as
  the reader allows.
-/
import Retrieval.Json.Numeral

namespace Retrieval.Json

/-- A JSON text as it stands. -/
inductive Source where
  | null
  | bool (b : Bool)
  /-- A number, with its value if a double can hold it. -/
  | number (value : Option Number)
  /-- A string, with its text unless it has an unpaired surrogate. -/
  | string (text : Option String)
  | array (items : List Source)
  /-- An object, with its members in the order of the text. -/
  | object (members : List (Option String × Source))

namespace Source

/-! ### Strings -/

/-- An element of a string: a character, or a 16-bit unit given by number. -/
inductive Element where
  | char (c : Char)
  | unit (n : Nat)
deriving DecidableEq, Repr

def hexDigit? (c : Char) : Option Nat :=
  if '0' ≤ c ∧ c ≤ '9' then some (c.toNat - '0'.toNat)
  else if 'a' ≤ c ∧ c ≤ 'f' then some (c.toNat - 'a'.toNat + 10)
  else if 'A' ≤ c ∧ c ≤ 'F' then some (c.toNat - 'A'.toNat + 10)
  else none

def unit? (a b c d : Char) : Option Nat := do
  pure ((((← hexDigit? a) * 16 + (← hexDigit? b)) * 16 + (← hexDigit? c)) * 16 + (← hexDigit? d))

/-- The character that a letter after a backslash stands for. -/
def escaped? : Char → Option Char
  | '"' => some '"'
  | '\\' => some '\\'
  | '/' => some '/'
  | 'b' => some '\x08'
  | 'f' => some '\x0c'
  | 'n' => some '\n'
  | 'r' => some '\r'
  | 't' => some '\t'
  | _ => none

/-- The elements of a string whose opening quote has been read, and what follows the
    closing quote.  Controls below the space must be escaped. -/
def elements? : List Char → Option (List Element × List Char)
  | [] => none
  | '"' :: rest => some ([], rest)
  | '\\' :: 'u' :: a :: b :: c :: d :: rest => do
    let n ← unit? a b c d
    let (es, rest) ← elements? rest
    pure (.unit n :: es, rest)
  | '\\' :: c :: rest => do
    let e ← escaped? c
    let (es, rest) ← elements? rest
    pure (.char e :: es, rest)
  | c :: rest =>
    if c.toNat < 0x20 then none
    else do
      let (es, rest) ← elements? rest
      pure (.char c :: es, rest)

def isHighSurrogate (n : Nat) : Bool := 0xD800 ≤ n && n < 0xDC00

def isLowSurrogate (n : Nat) : Bool := 0xDC00 ≤ n && n < 0xE000

/-- The characters of a string, if its surrogates come in pairs. -/
def characters? : List Element → Option (List Char)
  | [] => some []
  | .char c :: rest => (characters? rest).map (c :: ·)
  | .unit n :: .unit m :: rest =>
    if isHighSurrogate n then
      if isLowSurrogate m then
        (characters? rest).map (Char.ofNat (0x10000 + (n - 0xD800) * 0x400 + (m - 0xDC00)) :: ·)
      else none
    else if isLowSurrogate n then none
    else (characters? (.unit m :: rest)).map (Char.ofNat n :: ·)
  | .unit n :: rest =>
    if isHighSurrogate n || isLowSurrogate n then none
    else (characters? rest).map (Char.ofNat n :: ·)

/-- The text of a string whose opening quote has been read. -/
def text? (text : List Char) : Option (Option String × List Char) := do
  let (es, rest) ← elements? text
  pure ((characters? es).map String.ofList, rest)

/-! ### Values -/

/-- Drop the blanks that may stand between the parts of a text. -/
def skipBlanks : List Char → List Char
  | ' ' :: rest | '\n' :: rest | '\t' :: rest | '\r' :: rest => skipBlanks rest
  | text => text

/-- The name of a member and the colon after it. -/
def name? (text : List Char) : Option (Option String × List Char) :=
  match skipBlanks text with
  | '"' :: rest => do
    let (name, rest) ← text? rest
    match skipBlanks rest with
    | ':' :: rest => pure (name, rest)
    | _ => none
  | _ => none

mutual

/-- The value at the start of a text and what follows it.  The first argument bounds the
    number of steps; two for each character are enough. -/
def value? : Nat → List Char → Option (Source × List Char)
  | 0, _ => none
  | fuel + 1, text =>
    match skipBlanks text with
    | 'n' :: 'u' :: 'l' :: 'l' :: rest => some (.null, rest)
    | 't' :: 'r' :: 'u' :: 'e' :: rest => some (.bool true, rest)
    | 'f' :: 'a' :: 'l' :: 's' :: 'e' :: rest => some (.bool false, rest)
    | '"' :: rest => (text? rest).map fun (t, rest) => (.string t, rest)
    | '[' :: rest =>
      match skipBlanks rest with
      | ']' :: rest => some (.array [], rest)
      | rest => (items? fuel rest).map fun (items, rest) => (.array items, rest)
    | '\x7b' :: rest =>
      match skipBlanks rest with
      | '\x7d' :: rest => some (.object [], rest)
      | rest => (members? fuel rest).map fun (members, rest) => (.object members, rest)
    | rest => (Numeral.scan? rest).map fun (n, rest) => (.number n.value?, rest)

/-- The items of an array up to its closing bracket. -/
def items? : Nat → List Char → Option (List Source × List Char)
  | 0, _ => none
  | fuel + 1, text => do
    let (item, rest) ← value? fuel text
    match skipBlanks rest with
    | ',' :: rest => (items? fuel rest).map fun (items, rest) => (item :: items, rest)
    | ']' :: rest => pure ([item], rest)
    | _ => none

/-- The members of an object up to its closing brace. -/
def members? : Nat → List Char → Option (List (Option String × Source) × List Char)
  | 0, _ => none
  | fuel + 1, text => do
    let (name, rest) ← name? text
    let (value, rest) ← value? fuel rest
    match skipBlanks rest with
    | ',' :: rest => (members? fuel rest).map fun (members, rest) => ((name, value) :: members, rest)
    | '\x7d' :: rest => pure ([(name, value)], rest)
    | _ => none

end

/-- Read a text that holds one value and nothing else. -/
def ofChars? (text : List Char) : Option Source :=
  match value? (2 * text.length + 2) text with
  | some (source, rest) => if (skipBlanks rest).isEmpty then some source else none
  | none => none

/-- Read a text that holds one value and nothing else. -/
def ofText? (text : String) : Option Source := ofChars? text.toList

/-! ### Reading as a value -/

mutual

/-- The value, if every part has one and nesting stays within the given levels. -/
def json? : Nat → Source → Option Json
  | _, .null => some .null
  | _, .bool b => some (.bool b)
  | _, .number n => n.map .number
  | _, .string t => t.map .string
  | 0, .array _ => none
  | levels + 1, .array items => (jsonItems? levels items).map .array
  | 0, .object _ => none
  | levels + 1, .object members =>
    (jsonMembers? levels members).map fun ms => .object (Dict.ofEntries ms)

def jsonItems? : Nat → List Source → Option (List Json)
  | _, [] => some []
  | levels, item :: rest => do
    let value ← json? levels item
    let values ← jsonItems? levels rest
    pure (value :: values)

/-- The names and values of the members of an object, in the order of the text. -/
def jsonMembers? : Nat → List (Option String × Source) → Option (List (String × Json))
  | _, [] => some []
  | levels, (name, member) :: rest => do
    let name ← name
    let value ← json? levels member
    let values ← jsonMembers? levels rest
    pure ((name, value) :: values)

end

/-- The levels of nesting that a text may have where it is read as a value. -/
def nestingLimit : Nat := 127

/-! ### Values as sources -/

mutual

/-- The source of a value: what a text of it would be read as. -/
def ofJson : Json → Source
  | .null => .null
  | .bool b => .bool b
  | .number n => .number (some n)
  | .string t => .string (some t)
  | .array items => .array (ofItems items)
  | .object members => .object (ofMembers members)

def ofItems : List Json → List Source
  | [] => []
  | item :: rest => ofJson item :: ofItems rest

/-- The sources of the members of an object. -/
def ofMembers : List (String × Json) → List (Option String × Source)
  | [] => []
  | (name, value) :: rest => (some name, ofJson value) :: ofMembers rest

end

mutual

def levelsOf : Json → Nat
  | .array items => levelsOfItems items + 1
  | .object members => levelsOfMembers members + 1
  | _ => 0

/-- The levels of nesting of the items of an array. -/
def levelsOfItems : List Json → Nat
  | [] => 0
  | item :: rest => max (levelsOf item) (levelsOfItems rest)

/-- The levels of nesting of the members of an object. -/
def levelsOfMembers : List (String × Json) → Nat
  | [] => 0
  | (_, value) :: rest => max (levelsOf value) (levelsOfMembers rest)

end

end Source

def ofText? (text : String) : Option Json :=
  (Source.ofText? text).bind (Source.json? Source.nestingLimit)

end Retrieval.Json
