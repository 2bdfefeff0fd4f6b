import Linewise.Text.Cursor
import Linewise.Text.Lines
import Linewise.Text.Blank
import Linewise.Unicode.Property
import Linewise.Unicode.CaseFolding
import Linewise.Regex.Search
import Linewise.Regex.Reader
import Linewise.Rule
import Linewise.Session
import Linewise.Json.Record
import Linewise.Token.Json
import Linewise.Config.Json
import Linewise.Lexer.Steps
import Linewise.Proofs.Place
import Linewise.Proofs.Classification
import Linewise.Proofs.Gathering
import Linewise.Proofs.LineByLine
import Linewise.Proofs.TwoPhases
import Linewise.Proofs.Guarded
import Linewise.Proofs.Tiling
import Linewise.Proofs.RuleTokens
import Linewise.Proofs.Coverage
import Linewise.Proofs.OneCharacter
import Linewise.Proofs.Merging
import Linewise.Proofs.WithoutFlags
import Linewise.Proofs.Endings
import Linewise.Proofs.Concatenation
import Linewise.Proofs.Strays
import Linewise.Proofs.FirstStray
import Linewise.Proofs.SkippedBlanks
import Linewise.Proofs.Printing
import Linewise.Proofs.Construction
import Linewise.Proofs.TokenBounds
import Linewise.Proofs.Json.ConfigRoundTrip
import Linewise.Proofs.Json.TokenRoundTrip
import Linewise.Proofs.Relaxation
import Linewise.Proofs.PartCover
import Linewise.Proofs.IdleRules
import Linewise.Proofs.MaximalRuns
import Linewise.Proofs.Rendering
import Linewise.Proofs.Display
import Linewise.Proofs.CallOrder
import Linewise.Proofs.GuardedRules
