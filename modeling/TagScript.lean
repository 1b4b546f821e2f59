import TagScript.Build
import TagScript.Build.Argument
import TagScript.Build.Compile
import TagScript.Build.Document
import TagScript.Build.Element
import TagScript.Build.Invoke
import TagScript.Build.Run
import TagScript.Command
import TagScript.Command.Builtin
import TagScript.Command.Date
import TagScript.Command.Parameter
import TagScript.Command.Table
import TagScript.Config
import TagScript.Config.Data
import TagScript.Config.EncodingName
import TagScript.Config.Override
import TagScript.Diagnostic
import TagScript.Document
import TagScript.Element
import TagScript.Fault
import TagScript.Fields
import TagScript.Json.Basic
import TagScript.Json.Reader
import TagScript.Json.Same
import TagScript.Json.Shown
import TagScript.Json.Writer
import TagScript.Log
import TagScript.Metrics
import TagScript.Name
import TagScript.Number.Amount
import TagScript.Number.Binary
import TagScript.Number.Reader
import TagScript.Number.Rounding
import TagScript.Number.Shortest
import TagScript.Position
import TagScript.Proofs.Build.ArgumentRules
import TagScript.Proofs.Build.Asides
import TagScript.Proofs.Build.BoundedElements
import TagScript.Proofs.Build.BoundedRuns
import TagScript.Proofs.Build.BraceNotation
import TagScript.Proofs.Build.BuiltinCommands
import TagScript.Proofs.Build.CacheLedgers
import TagScript.Proofs.Build.CommandNames
import TagScript.Proofs.Build.CommandTables
import TagScript.Proofs.Build.Complaints
import TagScript.Proofs.Build.ConstructorCalls
import TagScript.Proofs.Build.Declarations
import TagScript.Proofs.Build.DepthLimits
import TagScript.Proofs.Build.Documents
import TagScript.Proofs.Build.DroppedArguments
import TagScript.Proofs.Build.Escapes
import TagScript.Proofs.Build.FixedBindings
import TagScript.Proofs.Build.Heights
import TagScript.Proofs.Build.Independence
import TagScript.Proofs.Build.Kept
import TagScript.Proofs.Build.LenientElements
import TagScript.Proofs.Build.Levels
import TagScript.Proofs.Build.Lockstep
import TagScript.Proofs.Build.NotedRuns
import TagScript.Proofs.Build.Obedience
import TagScript.Proofs.Build.ObedientRuns
import TagScript.Proofs.Build.OptionalCommas
import TagScript.Proofs.Build.PairedArguments
import TagScript.Proofs.Build.ParameterScopes
import TagScript.Proofs.Build.Primitives
import TagScript.Proofs.Build.Regime
import TagScript.Proofs.Build.RegimeScripts
import TagScript.Proofs.Build.RepeatedAttributes
import TagScript.Proofs.Build.ReportedPlaces
import TagScript.Proofs.Build.ReportedWords
import TagScript.Proofs.Build.ResolvedNames
import TagScript.Proofs.Build.ScopeFrames
import TagScript.Proofs.Build.Scoping
import TagScript.Proofs.Build.SparedStreams
import TagScript.Proofs.Build.StatementOrder
import TagScript.Proofs.Build.StreamedArguments
import TagScript.Proofs.Build.StrictPolicies
import TagScript.Proofs.Build.Successes
import TagScript.Proofs.Build.TakenValues
import TagScript.Proofs.Build.Telling
import TagScript.Proofs.Build.Termination
import TagScript.Proofs.Build.ToldNames
import TagScript.Proofs.Build.UnboundNames
import TagScript.Proofs.Build.VisibleVariables
import TagScript.Proofs.Build.WriteOnce
import TagScript.Proofs.Build.WrittenTexts
import TagScript.Proofs.Command.Parameters
import TagScript.Proofs.Config.Overriding
import TagScript.Proofs.Config.Reading
import TagScript.Proofs.Config.RoundTrip
import TagScript.Proofs.Json.RoundTrip
import TagScript.Proofs.Script.Boundaries
import TagScript.Proofs.Script.BracketCounters
import TagScript.Proofs.Script.BracketPairs
import TagScript.Proofs.Script.CommaRows
import TagScript.Proofs.Script.CompiledStatements
import TagScript.Proofs.Script.GroupTexts
import TagScript.Proofs.Script.Groups
import TagScript.Proofs.Script.GuardedTexts
import TagScript.Proofs.Script.NamedByWords
import TagScript.Proofs.Script.NestedStatements
import TagScript.Proofs.Script.NestedWords
import TagScript.Proofs.Script.Nesting
import TagScript.Proofs.Script.NumberWords
import TagScript.Proofs.Script.WalkedTokens
import TagScript.Proofs.Template.Caching
import TagScript.Proofs.Template.CompiledTokens
import TagScript.Proofs.Template.Making
import TagScript.Proofs.Template.MovedTokens
import TagScript.Proofs.Template.RecentlyUsed
import TagScript.Proofs.Template.Recompiling
import TagScript.Proofs.Template.Replacement
import TagScript.Proofs.Template.Replay
import TagScript.Proofs.Template.Respelling
import TagScript.Proofs.Template.Splicing
import TagScript.Proofs.Token.Lookahead
import TagScript.Proofs.Token.Stretch
import TagScript.Proofs.Token.Tiling
import TagScript.Proofs.Value.Every
import TagScript.Proofs.Value.Flags
import TagScript.Proofs.Value.Leaves
import TagScript.Proofs.Value.Refusals
import TagScript.Proofs.Xml.Accepted
import TagScript.Proofs.Xml.Bindings
import TagScript.Proofs.Xml.DeclaredVersions
import TagScript.Proofs.Xml.ExpandedNames
import TagScript.Proofs.Xml.HandedNames
import TagScript.Proofs.Xml.Heads
import TagScript.Proofs.Xml.Reading
import TagScript.Proofs.Xml.Refused
import TagScript.Proofs.Xml.RoundTrip
import TagScript.Proofs.Xml.StatedBindings
import TagScript.Registry
import TagScript.Row
import TagScript.Scope
import TagScript.Script
import TagScript.Script.Evaluate
import TagScript.Script.Literal
import TagScript.Script.Nest
import TagScript.Session
import TagScript.Stream
import TagScript.Template
import TagScript.Template.Cache
import TagScript.Template.Rewrite
import TagScript.Template.Word
import TagScript.Text.Case
import TagScript.Text.CaseTable
import TagScript.Text.Class
import TagScript.Text.ClassTable
import TagScript.Text.Lines
import TagScript.Text.Quoted
import TagScript.Token
import TagScript.Token.Lexer
import TagScript.Value
import TagScript.Value.Cast
import TagScript.Value.Member
import TagScript.Value.Text
import TagScript.Xml.Char
import TagScript.Xml.CharSet
import TagScript.Xml.CodePage
import TagScript.Xml.CodePage.Latin
import TagScript.Xml.CodePage.Macintosh
import TagScript.Xml.CodePage.National
import TagScript.Xml.CodePage.Parts
import TagScript.Xml.CodePage.Vendor
import TagScript.Xml.Encoding
import TagScript.Xml.Grid
import TagScript.Xml.Grid.Big5
import TagScript.Xml.Grid.Cns
import TagScript.Xml.Grid.Hanja
import TagScript.Xml.Grid.Hanzi
import TagScript.Xml.Grid.Kanji
import TagScript.Xml.Naming
import TagScript.Xml.OfElement
import TagScript.Xml.Packed
import TagScript.Xml.Shifting
import TagScript.Xml.Shortened
import TagScript.Xml.ToElement
import TagScript.Xml.Tree
import TagScript.Xml.Uri
import TagScript.Xml.Utf7
import TagScript.Xml.Writer
