import Headline.Main
import Headline.Session
import Headline.Title.WordFile
import Headline.Proofs.Check
import Headline.Proofs.RuleOptions
import Headline.Proofs.Session
import Headline.Proofs.Batch
import Headline.Proofs.CommandLine
import Headline.Proofs.Text.CaseTable
import Headline.Proofs.Text.Casing
import Headline.Proofs.Text.Caseless
import Headline.Proofs.Title.Acronym
import Headline.Proofs.Title.Pieces
import Headline.Proofs.Title.Case
import Headline.Proofs.Arguments.Overlay
import Headline.Proofs.Log.Threshold
import Headline.Proofs.Title.Accepted
import Headline.Proofs.Document.Nesting
import Headline.Proofs.Document.Outline
import Headline.Proofs.Document.Frames
import Headline.Proofs.Document.Tree
import Headline.Proofs.Text.Lines
import Headline.Proofs.Document.Step
import Headline.Proofs.Document.Source
import Headline.Proofs.InPlace
import Headline.Proofs.Files.Tree
import Headline.Proofs.Files.Path
import Headline.Proofs.Files.Documents
import Headline.Proofs.IgnoredCode
import Headline.Proofs.Isolation
import Headline.Proofs.Title.Separators
import Headline.Proofs.Title.Locality
import Headline.Proofs.Pattern.Limits
import Headline.Proofs.RuleOptions.Breakdown
import Headline.Proofs.RuleOptions.Refused
import Headline.Proofs.RuleOptions.Spellings
import Headline.Proofs.Text.Utf8
import Headline.Proofs.Value.Order
import Headline.Proofs.Yaml.File
import Headline.Proofs.OptionsFile
import Headline.Proofs.Title.WordFile
import Headline.Proofs.Document.Positions
import Headline.Proofs.Document.Overclosed
import Headline.Proofs.Document.Spans
import Headline.Proofs.Markup
