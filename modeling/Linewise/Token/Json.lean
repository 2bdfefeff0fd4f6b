import Linewise.Json.Record
import Linewise.Token

namespace Linewise.Token

mutual

def write : Token → List Char
  | ⟨label, text, start, row, parts⟩ =>
    "\x7b\"identifier\":".toList ++ Json.writeText label ++ ",\"content\":".toList ++
      Json.writeText text ++ ",\"position\":".toList ++ (Nat.repr start).toList ++
      ",\"lineno\":".toList ++ (Nat.repr row).toList ++ writeParts parts ++ ['\x7d']

def writeParts : List Token → List Char
  | [] => []
  | part :: parts => ",\"parts\":[".toList ++ part.write ++ writeMore parts ++ [']']

def writeMore : List Token → List Char
  | [] => []
  | token :: tokens => ',' :: token.write ++ writeMore tokens

end

def toJson (token : Token) : String := String.ofList token.write

structure Draft where
  label? : Option String
  text? : Option String
  start? : Option Nat
  row? : Option Nat
  parts? : Option (List Token)

namespace Draft

def blank : Draft := ⟨none, none, none, none, none⟩

def fields (readParts : Json.Reader (List Token)) : List (Json.Field Draft) := [
  .of "identifier" true label? (fun value draft ↦ { draft with label? := value }) Json.readString,
  .of "content" true text? (fun value draft ↦ { draft with text? := value }) Json.readString,
  .of "position" true start? (fun value draft ↦ { draft with start? := value }) Json.readCount,
  .of "lineno" true row? (fun value draft ↦ { draft with row? := value }) Json.readCount,
  .of "parts" false parts? (fun value draft ↦ { draft with parts? := value }) readParts]

def token (draft : Draft) : Token :=
  ⟨draft.label?.getD "", draft.text?.getD "", draft.start?.getD 0, draft.row?.getD 0,
    draft.parts?.getD []⟩

end Draft

/-- A token in which lists and objects are nested at most `depth` deep. -/
def read : Nat → Json.Reader Token
  | 0 => readWith none
  | 1 => readWith (some (Json.readList none))
  | depth + 2 => readWith (some (Json.readList (some (read depth))))
where
  readWith (readParts? : Option (Json.Reader (List Token))) : Json.Reader Token := fun source ↦
    (Json.readRecord "Token" (readParts?.map Draft.fields) .blank source).map
      fun (draft, rest) ↦ (draft.token, rest)

def ofJson (text : String) : Except Json.Fault Token :=
  Json.readDocument (read Json.depthLimit) (.ofString text)

end Linewise.Token
