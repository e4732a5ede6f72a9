import DesignCompiler.Command.Arguments
import DesignCompiler.Command.Files
import DesignCompiler.Command.Output
import DesignCompiler.Command.Run
import DesignCompiler.Component.ClassName
import DesignCompiler.Component.Script
import DesignCompiler.Component.Sections
import DesignCompiler.Component.StyleSheet
import DesignCompiler.Component.Template
import DesignCompiler.Design.Draft
import DesignCompiler.Design.Node
import DesignCompiler.Design.Reading
import DesignCompiler.Design.Response
import DesignCompiler.Json.Message
import DesignCompiler.Json.Outline
import DesignCompiler.Json.Problem
import DesignCompiler.Json.Reading
import DesignCompiler.Json.Scalar
import DesignCompiler.Json.Value
import DesignCompiler.Json.Writer
import DesignCompiler.Main
import DesignCompiler.Number.Binary64
import DesignCompiler.Number.Decimal
import DesignCompiler.Number.Text
import DesignCompiler.Proofs.Command.Files
import DesignCompiler.Proofs.Command.Output
import DesignCompiler.Proofs.Command.Paths
import DesignCompiler.Proofs.Command.Run
import DesignCompiler.Proofs.Component.ClassName
import DesignCompiler.Proofs.Component.Declarations
import DesignCompiler.Proofs.Component.Indentation
import DesignCompiler.Proofs.Component.Levels
import DesignCompiler.Proofs.Component.Readback
import DesignCompiler.Proofs.Component.Script
import DesignCompiler.Proofs.Component.Sections
import DesignCompiler.Proofs.Component.Selectors
import DesignCompiler.Proofs.Component.StyleSheet
import DesignCompiler.Proofs.Design.Acceptance
import DesignCompiler.Proofs.Design.Agreement
import DesignCompiler.Proofs.Design.Depth
import DesignCompiler.Proofs.Design.Fields
import DesignCompiler.Proofs.Design.Nesting
import DesignCompiler.Proofs.Design.Places
import DesignCompiler.Proofs.Design.Respelling
import DesignCompiler.Proofs.Design.Response
import DesignCompiler.Proofs.Design.Styles
import DesignCompiler.Proofs.Json.Bare
import DesignCompiler.Proofs.Json.Grammar
import DesignCompiler.Proofs.Json.Locality
import DesignCompiler.Proofs.Json.Members
import DesignCompiler.Proofs.Json.Numbers
import DesignCompiler.Proofs.Json.Proper
import DesignCompiler.Proofs.Json.Reading
import DesignCompiler.Proofs.Json.Spelling
import DesignCompiler.Proofs.Json.Strings
import DesignCompiler.Proofs.Json.Written
import DesignCompiler.Proofs.Number.Characters
import DesignCompiler.Proofs.Number.Nearest
import DesignCompiler.Proofs.Number.Numeral
import DesignCompiler.Proofs.Number.Overflow
import DesignCompiler.Proofs.Number.Printing
import DesignCompiler.Proofs.Number.Rounding
import DesignCompiler.Proofs.Number.Shortest
import DesignCompiler.Proofs.Source.DesignUrl
import DesignCompiler.Proofs.Source.FileKey
import DesignCompiler.Proofs.Source.Locator
import DesignCompiler.Proofs.Source.Padding
import DesignCompiler.Proofs.Source.Request
import DesignCompiler.Proofs.Source.Saved
import DesignCompiler.Proofs.Source.Session
import DesignCompiler.Proofs.Source.Wire
import DesignCompiler.Proofs.Text.Infix
import DesignCompiler.Proofs.Text.Runs
import DesignCompiler.Proofs.Text.Trim
import DesignCompiler.Proofs.Text.Utf8
import DesignCompiler.Proofs.Url.Parsing
import DesignCompiler.Proofs.Url.Path
import DesignCompiler.Proofs.Url.Percent
import DesignCompiler.Proofs.Url.Query
import DesignCompiler.Source.Locator
import DesignCompiler.Source.Request
import DesignCompiler.Source.Saved
import DesignCompiler.Source.Session
import DesignCompiler.Text.Blank
import DesignCompiler.Text.Casing
import DesignCompiler.Text.Direction
import DesignCompiler.Text.Joining
import DesignCompiler.Text.Lines
import DesignCompiler.Text.Lowercase
import DesignCompiler.Text.Marks
import DesignCompiler.Text.Quoted
import DesignCompiler.Text.Ranges
import DesignCompiler.Text.Split
import DesignCompiler.Text.Utf8
import DesignCompiler.Url.Domain.Characters
import DesignCompiler.Url.Domain.Label
import DesignCompiler.Url.Domain.Punycode
import DesignCompiler.Url.Host
import DesignCompiler.Url.Ip
import DesignCompiler.Url.Parsing
import DesignCompiler.Url.Path
import DesignCompiler.Url.Percent
import DesignCompiler.Url.Query
