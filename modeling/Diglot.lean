import Diglot.Ascending
import Diglot.Command.Arguments
import Diglot.Command.Basic
import Diglot.Command.Convert
import Diglot.Command.Lexicon
import Diglot.Command.Run
import Diglot.Command.Verify
import Diglot.Conversion
import Diglot.Coverage
import Diglot.Decimal.Binary
import Diglot.Decimal.Shortest
import Diglot.Dictionary.Library
import Diglot.Dictionary.Project
import Diglot.Dictionary.Snapshot
import Diglot.Event
import Diglot.Fault
import Diglot.FileTree
import Diglot.Glossary
import Diglot.Invalid
import Diglot.Json.Basic
import Diglot.Json.Reader
import Diglot.Json.Writer
import Diglot.Keyword
import Diglot.Lexeme.Basic
import Diglot.Lexeme.Comment
import Diglot.Lexeme.Cut
import Diglot.Lexeme.Literal
import Diglot.Lexeme.Number
import Diglot.Lexeme.Operator
import Diglot.Lexeme.Scan
import Diglot.Lexeme.Word
import Diglot.Lexicon
import Diglot.Main
import Diglot.Markup
import Diglot.Mode
import Diglot.Path
import Diglot.Rewording
import Diglot.RoundTrip
import Diglot.Setting
import Diglot.Table
import Diglot.Text.Basic
import Diglot.Text.Blank
import Diglot.Text.CodeRanges
import Diglot.Text.Digit
import Diglot.Text.Letter
import Diglot.Text.Lines
import Diglot.Text.Mark
import Diglot.Text.Numeral
import Diglot.Text.Quoted
import Diglot.Text.Raw
import Diglot.Text.Unprintable
import Diglot.Text.Utf8
import Diglot.Token
import Diglot.Workspace.Basic
import Diglot.Workspace.Dictionary
import Diglot.Workspace.Source
import Diglot.Proofs.Characters
import Diglot.Proofs.Resumption
import Diglot.Proofs.SteadyLexemes
import Diglot.Proofs.Forms
import Diglot.Proofs.SteadySteps
import Diglot.Proofs.LexemeShapes
import Diglot.Proofs.SwappedWords
import Diglot.Proofs.BareLexemes
import Diglot.Proofs.Decoding
import Diglot.Proofs.LocalizedTrip
import Diglot.Proofs.ForeignWords
import Diglot.Proofs.HybridPassage
import Diglot.Proofs.FrameStack
import Diglot.Proofs.Tiling
import Diglot.Proofs.PlainModes
import Diglot.Proofs.Shadowing
import Diglot.Proofs.TwoTables
import Diglot.Proofs.WrittenJson
import Diglot.Proofs.ProjectNames
import Diglot.Proofs.TurnedSlashes
import Diglot.Proofs.StrippedMarkup
import Diglot.Proofs.HybridCycle
import Diglot.Proofs.LiteralTexts
import Diglot.Proofs.TextPieces
import Diglot.Proofs.DictionaryEntries
import Diglot.Proofs.LineDifferences
import Diglot.Proofs.LineFeeds
import Diglot.Proofs.EncodedText
import Diglot.Proofs.FileTrees
import Diglot.Proofs.Sessions
import Diglot.Proofs.Snapshots
import Diglot.Proofs.AddedEntries
import Diglot.Proofs.DictionaryHistories
import Diglot.Proofs.KeptResults
import Diglot.Proofs.FirstConflict
import Diglot.Proofs.ClosedIsolates
import Diglot.Proofs.NestedInterpolations
import Diglot.Proofs.InterpolatedLiterals
import Diglot.Proofs.FirstClash
import Diglot.Proofs.MaximalLexemes
import Diglot.Proofs.MemberAccess
import Diglot.Proofs.GatheredDeclarations
import Diglot.Proofs.DictionaryReading
import Diglot.Proofs.RewrittenDictionaries
import Diglot.Proofs.DecodedText
import Diglot.Proofs.RestartedScans
import Diglot.Proofs.UncoveredNames
import Diglot.Proofs.SlashOpeners
import Diglot.Proofs.CodeTokens
import Diglot.Proofs.NestedComments
import Diglot.Proofs.VerbatimLiterals
import Diglot.Proofs.LongestNumbers
