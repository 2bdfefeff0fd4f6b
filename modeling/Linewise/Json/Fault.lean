import Linewise.Decimal.Shortest
import Linewise.Text.Quoted

namespace Linewise.Json

/-- A floating point number with the fewest digits that read back, always with a point or a signed
exponent. The point stands among the digits or near them from `1e-5` up to `1e16`. -/
def floatText (x : Float) : String :=
  let sign := if x.toBits.toNat < 1 <<< 63 then "" else "-"
  match BinaryFloat.ofBits? x.toBits with
  | none => sign ++ "0.0"
  | some binary =>
    let decimal := binary.shortest
    let digits := Nat.toDigits 10 decimal.digits
    let point := (digits.length : Int) + decimal.exponent
    let written :=
      if 0 ≤ decimal.exponent ∧ point ≤ 16 then
        digits ++ List.replicate decimal.exponent.toNat '0' ++ ['.', '0']
      else if 0 < point ∧ point ≤ 16 then
        digits.take point.toNat ++ '.' :: digits.drop point.toNat
      else if -5 < point ∧ point ≤ 0 then
        '0' :: '.' :: List.replicate (-point).toNat '0' ++ digits
      else
        let fraction := if digits.length = 1 then [] else '.' :: digits.drop 1
        let mark := if 0 < point then ['e', '+'] else ['e']
        digits.take 1 ++ fraction ++ mark ++ (toString (point - 1)).toList
    sign ++ String.ofList written

/-- A value that stands where one of another kind is wanted. -/
inductive Found where
  | null
  | bool (value : Bool)
  | integer (value : Int)
  | float (value : Float)
  | string (value : String)
  | list
  | object

def Found.describe : Found → String
  | null => "null"
  | bool value => "boolean \x60" ++ toString value ++ "\x60"
  | integer value => "integer \x60" ++ toString value ++ "\x60"
  | float value => "floating point \x60" ++ floatText value ++ "\x60"
  | string value => "string " ++ quoted value
  | list => "sequence"
  | object => "map"

inductive Fault where
  | endInValue
  | endInString
  | endInList
  | endInObject
  | expectedValue
  /-- A word that begins like `null`, `true` or `false` goes on otherwise. -/
  | expectedWord
  | expectedColon
  | expectedListEnd
  | expectedObjectEnd
  | keyNotString
  | trailingComma
  | trailingCharacters
  | invalidNumber
  | numberOutOfRange
  | invalidEscape
  | brokenSurrogatePair
  | loneSurrogate
  | controlCharacter
  | invalidText
  | tooDeep
  | wrongKind (found : Found) (wanted : String)
  | wrongInteger (found : Int) (wanted : String)
  /-- A list that stands for a record ends after `length` of its `fields`. -/
  | tooShort (length : Nat) (record : String) (fields : Nat)
  | missingField (name : String)
  | duplicateField (name : String)

def Fault.message : Fault → String
  | endInValue => "EOF while parsing a value"
  | endInString => "EOF while parsing a string"
  | endInList => "EOF while parsing a list"
  | endInObject => "EOF while parsing an object"
  | expectedValue => "expected value"
  | expectedWord => "expected ident"
  | expectedColon => "expected \x60:\x60"
  | expectedListEnd => "expected \x60,\x60 or \x60]\x60"
  | expectedObjectEnd => "expected \x60,\x60 or \x60\x7d\x60"
  | keyNotString => "key must be a string"
  | trailingComma => "trailing comma"
  | trailingCharacters => "trailing characters"
  | invalidNumber => "invalid number"
  | numberOutOfRange => "number out of range"
  | invalidEscape => "invalid escape"
  | brokenSurrogatePair => "unexpected end of hex escape"
  | loneSurrogate => "lone leading surrogate in hex escape"
  | controlCharacter =>
    "control character (\\u0000-\\u001F) found while parsing a string"
  | invalidText => "invalid unicode code point"
  | tooDeep => "recursion limit exceeded"
  | wrongKind found wanted => "invalid type: " ++ found.describe ++ ", expected " ++ wanted
  | wrongInteger found wanted =>
    "invalid value: " ++ (Found.integer found).describe ++ ", expected " ++ wanted
  | tooShort length record fields =>
    "invalid length " ++ toString length ++ ", expected struct " ++ record ++ " with " ++
      toString fields ++ " elements"
  | missingField name => "missing field \x60" ++ name ++ "\x60"
  | duplicateField name => "duplicate field \x60" ++ name ++ "\x60"

end Linewise.Json
