import Stencil.Main
import Stencil.Proofs.Document.Transfer
import Stencil.Proofs.Expr.Lexeme
import Stencil.Proofs.Expr.Position
import Stencil.Proofs.Markup.RawText
import Stencil.Proofs.Markup.RoundTrip
import Stencil.Proofs.Markup.Spacing
import Stencil.Proofs.Markup.TagEnd
import Stencil.Proofs.Markup.Unquoted
import Stencil.Proofs.Page.Nesting
import Stencil.Proofs.Page.Sharing
import Stencil.Proofs.Page.Static
import Stencil.Proofs.Route.Address
import Stencil.Proofs.Route.Call
import Stencil.Proofs.Route.Name
import Stencil.Proofs.Route.Query
import Stencil.Proofs.Route.Table
import Stencil.Proofs.Segment.Braces
import Stencil.Proofs.Value.Arithmetic
import Stencil.Proofs.Value.Nested
import Stencil.Proofs.Value.Order
import Stencil.Proofs.Value.Sets
