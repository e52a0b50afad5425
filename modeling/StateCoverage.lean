import StateCoverage.Analysis
import StateCoverage.Command.Options
import StateCoverage.Command.Readers
import StateCoverage.Command.Report
import StateCoverage.Command.Run
import StateCoverage.Command.Usage
import StateCoverage.Decimal.Shortest
import StateCoverage.Diagnostic
import StateCoverage.Files.Discovery
import StateCoverage.Files.Glob
import StateCoverage.Files.Tree
import StateCoverage.Main
import StateCoverage.OrderedMap
import StateCoverage.Scope
import StateCoverage.Settings
import StateCoverage.Settings.File
import StateCoverage.Settings.Reading
import StateCoverage.Settings.Value
import StateCoverage.Site
import StateCoverage.Source.Display
import StateCoverage.Source.Lexer
import StateCoverage.Source.Literal
import StateCoverage.Source.Node
import StateCoverage.Source.Number
import StateCoverage.Source.Parser
import StateCoverage.Source.Parser.Basic
import StateCoverage.Source.Parser.Display
import StateCoverage.Source.Parser.Expression
import StateCoverage.Source.Parser.Params
import StateCoverage.Source.Parser.Pattern
import StateCoverage.Source.Parser.Statement
import StateCoverage.Source.Parser.StringLiteral
import StateCoverage.Source.Parser.Target
import StateCoverage.Source.Shape
import StateCoverage.Source.Span
import StateCoverage.Source.Token
import StateCoverage.Source.Tree
import StateCoverage.Text.Digit
import StateCoverage.Text.Identifier
import StateCoverage.Text.Json
import StateCoverage.Text.Lines
import StateCoverage.Text.Lowercase
import StateCoverage.Text.Numeral
import StateCoverage.Text.Portions
import StateCoverage.Text.Printable
import StateCoverage.Text.Quoted
import StateCoverage.Text.Utf8
import StateCoverage.Thunk
import StateCoverage.Transition
import StateCoverage.Yaml.Date
import StateCoverage.Yaml.Key
import StateCoverage.Yaml.Lexer
import StateCoverage.Yaml.Lexer.Basic
import StateCoverage.Yaml.Lexer.Scalar
import StateCoverage.Yaml.Lexer.Tag
import StateCoverage.Yaml.Merge
import StateCoverage.Yaml.Node
import StateCoverage.Yaml.Object
import StateCoverage.Yaml.Reading
import StateCoverage.Yaml.Scalar
import StateCoverage.Yaml.Stream
import StateCoverage.Yaml.Tag
import StateCoverage.Yaml.Token
import StateCoverage.Proofs.Entries
import StateCoverage.Proofs.Transition
import StateCoverage.Proofs.Gaps
import StateCoverage.Proofs.Returns
import StateCoverage.Proofs.Sites
import StateCoverage.Proofs.ScopeChains
import StateCoverage.Proofs.Provenance
import StateCoverage.Proofs.Agreement
import StateCoverage.Proofs.Evaluation
import StateCoverage.Proofs.LexicalScopes
import StateCoverage.Proofs.StackWalk
import StateCoverage.Proofs.Resolution
import StateCoverage.Proofs.Relabelling
import StateCoverage.Proofs.Reformatting
import StateCoverage.Proofs.FactoryScopes
import StateCoverage.Proofs.Spellings
import StateCoverage.Proofs.Respelling
import StateCoverage.Proofs.KeywordForm
import StateCoverage.Proofs.Rebinding
import StateCoverage.Proofs.SourceOrder
import StateCoverage.Proofs.TransitionTable
import StateCoverage.Proofs.Runs
import StateCoverage.Proofs.SettingsFaults
import StateCoverage.Proofs.DisplayMaps
import StateCoverage.Proofs.FilePlaces
import StateCoverage.Proofs.FileDiscovery
import StateCoverage.Proofs.SettingsChecks
import StateCoverage.Proofs.JsonReading
import StateCoverage.Proofs.Reports
