import TypedScript.Main
import TypedScript.Proofs.ArrowErrors
import TypedScript.Proofs.Chains
import TypedScript.Proofs.Comments
import TypedScript.Proofs.ConditionalBan
import TypedScript.Proofs.Consequent
import TypedScript.Proofs.Current
import TypedScript.Proofs.Diagnostic.Template
import TypedScript.Proofs.Grouping
import TypedScript.Proofs.Hosted
import TypedScript.Proofs.Labels
import TypedScript.Proofs.Lexer.Keywords
import TypedScript.Proofs.Lexer.Literals
import TypedScript.Proofs.Lexer.LongestMatch
import TypedScript.Proofs.Lexer.Names
import TypedScript.Proofs.Lexer.Peeking
import TypedScript.Proofs.Lexer.Places
import TypedScript.Proofs.Lexer.Strings
import TypedScript.Proofs.Limit
import TypedScript.Proofs.Lists
import TypedScript.Proofs.Modifiers
import TypedScript.Proofs.NamesAndRegions
import TypedScript.Proofs.Reported
import TypedScript.Proofs.Respaced
import TypedScript.Proofs.Respelled
import TypedScript.Proofs.ReturnStatements
import TypedScript.Proofs.Scope.Unordered
import TypedScript.Proofs.Shifted.Class
import TypedScript.Proofs.Shifted.Declaration
import TypedScript.Proofs.Shifted.Export
import TypedScript.Proofs.Shifted.Rule
import TypedScript.Proofs.Spans
import TypedScript.Proofs.Speculation
import TypedScript.Proofs.Termination
import TypedScript.Proofs.Tiling
import TypedScript.Proofs.TypePosition
import TypedScript.Proofs.TypeStart
import TypedScript.Proofs.Unbounded
import TypedScript.Proofs.Visited
import TypedScript.Proofs.WellShaped
import TypedScript.Text.Interner
