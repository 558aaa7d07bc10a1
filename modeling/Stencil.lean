import Stencil.Render
import Stencil.Json.Reader
import Stencil.Sheet
import Stencil.Sheet.Separated
import Stencil.Sheet.Workbook
import Stencil.Decimal.Reader
import Stencil.Pointer
import Stencil.Query.Reader
import Stencil.Query.Select
import Stencil.Source
import Stencil.Folder
import Stencil.Library
import Stencil.Delimiter.Json
import Stencil.Server
import Stencil.Program
import Stencil.Main
import Stencil.Glob.Reader
import Stencil.Proofs.Grammar.Body
import Stencil.Proofs.Delimiter
import Stencil.Proofs.Token.First
import Stencil.Proofs.Token.Strict
import Stencil.Proofs.Token.Scan
import Stencil.Proofs.Loop.Reading
import Stencil.Proofs.Grammar.Block
import Stencil.Proofs.Grammar.Scan
import Stencil.Proofs.Grammar.Uniform
import Stencil.Proofs.Loop.Match
import Stencil.Proofs.Loop.Scan
import Stencil.Proofs.Loop.Written
import Stencil.Proofs.Substitution
import Stencil.Proofs.Scope.Alignment
import Stencil.Proofs.Scope.Expansion
import Stencil.Proofs.Render.Final
import Stencil.Proofs.Loop.Element
import Stencil.Proofs.Scope.Collision
import Stencil.Proofs.Loop.Parts
import Stencil.Proofs.Loop.Span
import Stencil.Proofs.Text.LineEnding
import Stencil.Proofs.Json.Control
import Stencil.Proofs.Json.Literal
import Stencil.Proofs.Json.RoundTrip
import Stencil.Proofs.Pattern.Language
import Stencil.Proofs.Pattern.LineEnding
import Stencil.Proofs.Grammar.LineEnding
import Stencil.Proofs.Loop.LineEnding
import Stencil.Proofs.Scope.LineEnding
import Stencil.Proofs.Render.LineEnding
import Stencil.Proofs.Render.Shortfall
import Stencil.Proofs.Sheet.Quoted
import Stencil.Proofs.FilePath
import Stencil.Proofs.FileTree.Walk
import Stencil.Proofs.FileTree.Growth
import Stencil.Proofs.FileTree.Likeness
import Stencil.Proofs.Library
import Stencil.Proofs.Server.Answer
import Stencil.Proofs.Server.Confinement
import Stencil.Proofs.Server.Registration
import Stencil.Proofs.Alignment.Shift
import Stencil.Proofs.Alignment.Aligned
import Stencil.Proofs.Scope.Takeover
import Stencil.Proofs.Sheet.Transposition
import Stencil.Proofs.Output
