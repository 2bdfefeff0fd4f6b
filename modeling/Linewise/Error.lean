import Linewise.Pattern
import Linewise.ScanError

namespace Linewise

inductive Error where
  | unmatched (error : ScanError)
  | invalidPattern (source : String) (fault : PatternFault)
  | unreadable (reason : String)
  | missingFile (path : String)
  /-- A part of a rule, with this label, has parts. -/
  | nestedParts (label : String)
  deriving DecidableEq, Repr

def Error.message : Error → String
  | unmatched error => "Lex error: " ++ error.render
  | invalidPattern source fault => "Invalid pattern \x60" ++ source ++ "\x60: " ++ fault.message
  | unreadable reason => "Config error: Failed to parse lexer config: " ++ reason
  | missingFile path =>
    "Config error: Failed to open lexer config " ++ path ++
      ": No such file or directory (os error 2)"
  | nestedParts label =>
    "Config error: rule \x60" ++ label ++ "\x60: parts cannot have parts of their own"

end Linewise
