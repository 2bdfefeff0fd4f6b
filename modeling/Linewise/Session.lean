import Linewise.Lexer
import Linewise.Rule.Source

namespace Linewise

structure Session where
  draft : Lexer
  current : Lexer

inductive Command where
  | addRule (source : RuleSource)
  | setSkipBlanks (skip : Bool)
  | setStrayLabel (label : String)
  | build
  | use (sources : List RuleSource)
  | lex (text : String)

inductive Reply where
  | done
  | refused (error : Error)
  | inUse (lexer : Lexer)
  | lexed (result : Except ScanError (List (List Token)))

namespace Session

def start : Session := ⟨.bare, .bare⟩

/-- Adds a rule to the draft. A pattern at fault loses the whole draft, but a part at fault is found
before the draft is touched. -/
def addRule (session : Session) (source : RuleSource) : Session × Reply :=
  let finish (rule : Except Error Rule) : Session × Reply :=
    match rule with
    | .error error => ({ session with draft := .bare }, .refused error)
    | .ok rule => ({ session with draft := session.draft.apply (.rule rule) }, .done)
  match source with
  | .compound label pattern parts =>
    match compileParts parts with
    | .error error => (session, .refused error)
    | .ok parts => finish (Rule.ofParts label pattern parts)
  | source => finish source.compile

def step (session : Session) : Command → Session × Reply
  | .addRule source => session.addRule source
  | .setSkipBlanks skip => ({ session with draft := session.draft.apply (.skipBlanks skip) }, .done)
  | .setStrayLabel label =>
    ({ session with draft := session.draft.apply (.strayLabel label) }, .done)
  | .build => (⟨.bare, session.draft⟩, .inUse session.draft)
  | .use sources =>
    match sources.mapM RuleSource.compile with
    | .error error => (session, .refused error)
    | .ok rules =>
      let lexer := Lexer.ofSettings (rules.map .rule)
      ({ session with current := lexer }, .inUse lexer)
  | .lex text => (session, .lexed (session.current.lex text))

def replies (session : Session) : List Command → List Reply
  | [] => []
  | command :: commands =>
    let (session, reply) := session.step command
    reply :: session.replies commands

end Session

end Linewise
