/-
This file models JSON values with `JSON.parse` and `JSON.stringify`, and gathers in
`Runtime` what the service takes from its host without the language fixing the
answer: the date formats `Date.parse` reads, the digits a number prints as, the text
of a syntax error and SHA-256.

The parser is by recursive descent. A value never needs more fuel than it has code
units, so the length of the text is enough for every text the grammar derives.
-/

import ImportService.JsNumber

namespace ImportService

/-- What the host decides. -/
structure Runtime where
  /-- `Date.parse`, with `none` for `NaN`. -/
  dateParse : JsString → Option Int
  /-- `Number.prototype.toString` of a finite number. -/
  numberToString : Rat → JsString
  /-- The message of the `SyntaxError` that `JSON.parse` throws. -/
  syntaxErrorMessage : JsString → JsString
  /-- The hexadecimal SHA-256 digest of the UTF-8 form of a text. -/
  sha256 : JsString → JsString

/-- A JSON value. The members of an object have distinct names, in the order in which the
names first occurred. -/
inductive Json
  | null
  | bool (value : Bool)
  | number (value : JsNumber)
  | string (value : JsString)
  | array (items : List Json)
  | object (members : List (JsString × Json))

namespace Json

/-- The member of a name; `none` is `undefined`. -/
def get? (members : List (JsString × Json)) (name : String) : Option Json :=
  members.lookup (JsString.ofString name)

/-- Set a member: a name that occurs again keeps its place and takes the new value. -/
def setMember (name : JsString) (value : Json) :
    List (JsString × Json) → List (JsString × Json)
  | [] => [(name, value)]
  | (other, old) :: rest =>
      if other = name then (name, value) :: rest else (other, old) :: setMember name value rest

/-! ### Parsing -/

/-- The white space of the JSON grammar, which is less than `trim` strips. -/
def skipSpace (text : JsString) : JsString :=
  text.dropWhile fun unit => unit == 0x20 || unit == 0x09 || unit == 0x0a || unit == 0x0d

/-- The text after a literal, if it starts with it. -/
def expect (literal : String) (text : JsString) : Option JsString :=
  let units := JsString.ofString literal
  if units.isPrefixOf text then some (text.drop units.length) else none

/-- A number: no leading zeros, and digits on both sides of a point. -/
def parseNumber (text : JsString) : Option (JsNumber × JsString) :=
  let (negative, unsigned) := match text with
    | 0x2d :: rest => (true, rest)
    | rest => (false, rest)
  let (whole, afterWhole) := match unsigned with
    | 0x30 :: rest => ([0x30], rest)
    | rest => rest.span JsString.isDigit
  if whole.isEmpty then none
  else
    let (fraction, afterFraction) := match afterWhole with
      | 0x2e :: rest =>
          let (digits, after) := rest.span JsString.isDigit
          if digits.isEmpty then ([], afterWhole) else (digits, after)
      | rest => ([], rest)
    let (exponent, rest) := JsNumber.scanExponent afterFraction
    let value := JsNumber.ofRat (JsNumber.decimal whole fraction exponent)
    some (if negative then value.negate else value, rest)

/-- The code unit a one-letter escape stands for. -/
def escaped (letter : UInt16) : Option UInt16 :=
  if letter = 0x22 || letter = 0x5c || letter = 0x2f then some letter
  else if letter = 0x62 then some 0x08
  else if letter = 0x66 then some 0x0c
  else if letter = 0x6e then some 0x0a
  else if letter = 0x72 then some 0x0d
  else if letter = 0x74 then some 0x09
  else none

/-- The rest of a string after its opening quote. A `\uXXXX` escape may be an unpaired
surrogate, and U+0000. -/
def parseString : JsString → Option (JsString × JsString)
  | [] => none
  | 0x22 :: rest => some ([], rest)
  | 0x5c :: 0x75 :: first :: second :: third :: fourth :: rest => do
      let unit ← JsNumber.inBase 16 [first, second, third, fourth]
      let (tail, after) ← parseString rest
      some (UInt16.ofNat unit :: tail, after)
  | 0x5c :: letter :: rest => do
      let unit ← escaped letter
      let (tail, after) ← parseString rest
      some (unit :: tail, after)
  | unit :: rest =>
      if unit < 0x20 || unit = 0x5c then none
      else do
        let (tail, after) ← parseString rest
        some (unit :: tail, after)

mutual

/-- A value and the text after it. -/
def parseValue : Nat → JsString → Option (Json × JsString)
  | 0, _ => none
  | fuel + 1, text =>
      match skipSpace text with
      | [] => none
      | 0x22 :: rest => do
          let (value, after) ← parseString rest
          some (.string value, after)
      | 0x5b :: rest =>
          match skipSpace rest with
          | 0x5d :: after => some (.array [], after)
          | _ => do
              let (items, after) ← parseItems fuel rest
              some (.array items, after)
      | 0x7b :: rest =>
          match skipSpace rest with
          | 0x7d :: after => some (.object [], after)
          | _ => do
              let (members, after) ← parseMembers fuel [] rest
              some (.object members, after)
      | start =>
          match expect "null" start, expect "true" start, expect "false" start with
          | some after, _, _ => some (.null, after)
          | _, some after, _ => some (.bool true, after)
          | _, _, some after => some (.bool false, after)
          | none, none, none => (parseNumber start).map fun (value, after) => (.number value, after)

/-- The items of a non-empty array, up to its closing bracket. -/
def parseItems : Nat → JsString → Option (List Json × JsString)
  | 0, _ => none
  | fuel + 1, text => do
      let (item, after) ← parseValue fuel text
      match skipSpace after with
      | 0x2c :: rest =>
          let (items, closed) ← parseItems fuel rest
          some (item :: items, closed)
      | 0x5d :: closed => some ([item], closed)
      | _ => none

/-- The members of a non-empty object, up to its closing brace. -/
def parseMembers : Nat → List (JsString × Json) → JsString →
    Option (List (JsString × Json) × JsString)
  | 0, _, _ => none
  | fuel + 1, members, text =>
      match skipSpace text with
      | 0x22 :: rest => do
          let (name, afterName) ← parseString rest
          match skipSpace afterName with
          | 0x3a :: afterColon =>
              let (value, after) ← parseValue fuel afterColon
              let members := setMember name value members
              match skipSpace after with
              | 0x2c :: rest => parseMembers fuel members rest
              | 0x7d :: closed => some (members, closed)
              | _ => none
          | _ => none
      | _ => none

end

/-- `JSON.parse`, with `none` for a `SyntaxError`. -/
def parse (text : JsString) : Option Json := do
  let (value, after) ← parseValue (text.length + 1) text
  if (skipSpace after).isEmpty then some value else none

/-! ### Serialising -/

/-- A hexadecimal digit in lower case. -/
def hexDigit (value : Nat) : UInt16 :=
  UInt16.ofNat (if value < 10 then 0x30 + value else 0x57 + value)

/-- The `\uXXXX` escape of a code unit. -/
def unicodeEscape (unit : UInt16) : JsString :=
  [0x5c, 0x75, hexDigit (unit.toNat / 0x1000), hexDigit (unit.toNat / 0x100 % 0x10),
    hexDigit (unit.toNat / 0x10 % 0x10), hexDigit (unit.toNat % 0x10)]

/-- A unit in a quoted string. What needs no escape stays as it is. -/
def quoteUnit (unit : UInt16) : JsString :=
  if unit = 0x22 || unit = 0x5c then [0x5c, unit]
  else if unit = 0x08 then [0x5c, 0x62]
  else if unit = 0x09 then [0x5c, 0x74]
  else if unit = 0x0a then [0x5c, 0x6e]
  else if unit = 0x0c then [0x5c, 0x66]
  else if unit = 0x0d then [0x5c, 0x72]
  else if unit < 0x20 then unicodeEscape unit
  else [unit]

/-- The text between the quotes: control characters and unpaired surrogates are escaped. -/
def quoteUnits : JsString → JsString
  | [] => []
  | [unit] =>
      if JsString.isHighSurrogate unit || JsString.isLowSurrogate unit then unicodeEscape unit
      else quoteUnit unit
  | unit :: next :: rest =>
      if JsString.isHighSurrogate unit && JsString.isLowSurrogate next then
        unit :: next :: quoteUnits rest
      else if JsString.isHighSurrogate unit || JsString.isLowSurrogate unit then
        unicodeEscape unit ++ quoteUnits (next :: rest)
      else quoteUnit unit ++ quoteUnits (next :: rest)

/-- A quoted string. -/
def quote (text : JsString) : JsString := 0x22 :: quoteUnits text ++ [0x22]

/-- The array index a member name denotes: decimal digits without a leading zero, below
`2 ^ 32 - 1`. -/
def arrayIndex (name : JsString) : Option Nat :=
  let value := JsNumber.digitsValue name
  if name.isEmpty || !name.all JsString.isDigit || JsString.ofNat value ≠ name ||
      2 ^ 32 - 1 ≤ value then none
  else some value

/-- The order in which an object lists its members: array indices first, ascending, then the
other names as they came. -/
def enumerated {Value : Type} (members : List (JsString × Value)) : List (JsString × Value) :=
  let isIndex := fun member : JsString × Value => (arrayIndex member.1).isSome
  (members.filter isIndex).mergeSort
      (fun first second =>
        decide ((arrayIndex first.1).getD 0 ≤ (arrayIndex second.1).getD 0)) ++
    members.filter fun member => !isIndex member

/-- The texts with a separator between them. -/
def joined (separator : JsString) : List JsString → JsString
  | [] => []
  | [text] => text
  | text :: rest => text ++ separator ++ joined separator rest

mutual

/-- `JSON.stringify` of a value that `JSON.parse` returned. -/
def stringify (runtime : Runtime) : Json → JsString
  | .null => JsString.ofString "null"
  | .bool true => JsString.ofString "true"
  | .bool false => JsString.ofString "false"
  | .number (.finite value) => runtime.numberToString value
  | .number _ => JsString.ofString "null"
  | .string value => quote value
  | .array items =>
      JsString.ofString "[" ++ joined (JsString.ofString ",") (itemTexts runtime items) ++
        JsString.ofString "]"
  | .object members =>
      JsString.ofString "\x7b" ++
        joined (JsString.ofString ",")
          ((enumerated (memberTexts runtime members)).map fun (name, text) =>
            quote name ++ JsString.ofString ":" ++ text) ++
        JsString.ofString "\x7d"

/-- The texts of the items of an array. -/
def itemTexts (runtime : Runtime) : List Json → List JsString
  | [] => []
  | item :: rest => stringify runtime item :: itemTexts runtime rest

/-- The names of the members of an object with the texts of their values. -/
def memberTexts (runtime : Runtime) : List (JsString × Json) → List (JsString × JsString)
  | [] => []
  | (name, value) :: rest => (name, stringify runtime value) :: memberTexts runtime rest

end

end Json

end ImportService
