import UtilityCss.Main
import UtilityCss.Rule.Summary
import UtilityCss.Theme.Codec
import UtilityCss.Proofs.StableSort
import UtilityCss.Proofs.Compile.Order
import UtilityCss.Proofs.Css.ReadBack
import UtilityCss.Proofs.Regex.Code
import UtilityCss.Proofs.Regex.Search
import UtilityCss.Proofs.Regex.Group.Expr
import UtilityCss.Proofs.Rule.Anchored
import UtilityCss.Proofs.Regex.Quote
import UtilityCss.Proofs.Rule.Family
import UtilityCss.Proofs.Css.Sealed
import UtilityCss.Proofs.Rule.Sealed
import UtilityCss.Proofs.Theme.Sealed
import UtilityCss.Proofs.Theme.Missing
import UtilityCss.Proofs.Compile.Isolation
import UtilityCss.Proofs.Rule.BuiltIn
import UtilityCss.Proofs.Rule.Extension
import UtilityCss.Proofs.Token.Slug
import UtilityCss.Proofs.Css.Identifier
import UtilityCss.Proofs.Compile.Spacing
import UtilityCss.Proofs.Compile.Kept
import UtilityCss.Proofs.File.Locate
import UtilityCss.Proofs.File.Order
import UtilityCss.Proofs.Content.Extract
import UtilityCss.Proofs.Content.Joined
import UtilityCss.Proofs.Content.Selected
import UtilityCss.Proofs.Content.Listed
import UtilityCss.Proofs.Project.Layout
import UtilityCss.Proofs.Css.IdentifierReader
import UtilityCss.Proofs.Rule.Disjoint
import UtilityCss.Proofs.Command.Stages
import UtilityCss.Proofs.Command.Output
import UtilityCss.Proofs.Command.Report
import UtilityCss.Proofs.Theme.Names
import UtilityCss.Proofs.Theme.Occurrences
import UtilityCss.Proofs.Token.Fluid
import UtilityCss.Proofs.Token.Registry
import UtilityCss.Proofs.Token.Words
import UtilityCss.Proofs.Regex.Group.Indices
import UtilityCss.Proofs.Rule.Template
import UtilityCss.Proofs.Rule.Arity
import UtilityCss.Proofs.Config.RoundTrip
