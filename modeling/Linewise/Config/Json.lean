import Linewise.Config
import Linewise.Json.Record

namespace Linewise

namespace RuleConfig

mutual

def write : RuleConfig → List Char
  | ⟨label, pattern, parts⟩ =>
    "\x7b\"identifier\":".toList ++ Json.writeText label ++ ",\"pattern\":".toList ++
      Json.writeText pattern ++ writeParts parts ++ ['\x7d']

def writeParts : List RuleConfig → List Char
  | [] => []
  | part :: parts => ",\"parts\":[".toList ++ part.write ++ writeMore parts ++ [']']

def writeMore : List RuleConfig → List Char
  | [] => []
  | rule :: rules => ',' :: rule.write ++ writeMore rules

end

structure Draft where
  label? : Option String
  pattern? : Option String
  parts? : Option (List RuleConfig)

namespace Draft

def blank : Draft := ⟨none, none, none⟩

def fields (readParts : Json.Reader (List RuleConfig)) : List (Json.Field Draft) := [
  .of "identifier" true label? (fun value draft ↦ { draft with label? := value }) Json.readString,
  .of "pattern" true pattern? (fun value draft ↦ { draft with pattern? := value })
    Json.readString,
  .of "parts" false parts? (fun value draft ↦ { draft with parts? := value }) readParts]

def rule (draft : Draft) : RuleConfig :=
  ⟨draft.label?.getD "", draft.pattern?.getD "", draft.parts?.getD []⟩

end Draft

/-- A rule in which lists and objects are nested at most `depth` deep. -/
def read : Nat → Json.Reader RuleConfig
  | 0 => readWith none
  | 1 => readWith (some (Json.readList none))
  | depth + 2 => readWith (some (Json.readList (some (read depth))))
where
  readWith (readParts? : Option (Json.Reader (List RuleConfig))) : Json.Reader RuleConfig :=
    fun source ↦
      (Json.readRecord "RuleConfig" (readParts?.map Draft.fields) .blank source).map
        fun (draft, rest) ↦ (draft.rule, rest)

end RuleConfig

namespace Config

def writeRules : List RuleConfig → List Char
  | [] => ['[', ']']
  | rule :: rules => '[' :: rule.write ++ RuleConfig.writeMore rules ++ [']']

/-- The object that stands for a configuration. A label for stray characters that is not set has no
key. -/
def write (config : Config) : List Char :=
  "\x7b\"rules\":".toList ++ writeRules config.rules ++ ",\"skip_whitespace\":".toList ++
    (if config.skipBlanks then "true" else "false").toList ++
    (match config.strayLabel? with
      | none => []
      | some label => ",\"unmatched_identifier\":".toList ++ Json.writeText label) ++ ['\x7d']

def toJson (config : Config) : String := String.ofList config.write

structure Draft where
  rules? : Option (List RuleConfig)
  skipBlanks? : Option Bool
  strayLabel? : Option (Option String)

namespace Draft

def blank : Draft := ⟨none, none, none⟩

def fields (readRules : Json.Reader (List RuleConfig)) : List (Json.Field Draft) := [
  .of "rules" true rules? (fun value draft ↦ { draft with rules? := value }) readRules,
  .of "skip_whitespace" false skipBlanks? (fun value draft ↦ { draft with skipBlanks? := value })
    Json.readBool,
  .of "unmatched_identifier" false strayLabel?
    (fun value draft ↦ { draft with strayLabel? := value }) (Json.readOptional Json.readString)]

def config (draft : Draft) : Config :=
  ⟨draft.rules?.getD [], draft.skipBlanks?.getD false, draft.strayLabel?.getD none⟩

end Draft

def read (depth : Nat) : Json.Reader Config := fun source ↦
  (Json.readRecord "LexerConfig"
    (some (Draft.fields (Json.readList (some (RuleConfig.read depth))))) .blank source).map
    fun (draft, rest) ↦ (draft.config, rest)

def ofSource (source : Json.Source) : Except Error Config :=
  (Json.readDocument (read (Json.depthLimit - 2)) source).mapError fun fault ↦
    .unreadable fault.message

def ofJson (text : String) : Except Error Config := ofSource (.ofString text)

def ofFile (path : String) (content? : Option (List UInt8)) : Except Error Config :=
  match content? with
  | none => .error (.missingFile path)
  | some content => ofSource (.ofBytes content)

end Config

end Linewise
