import PageTemplates.Config
import PageTemplates.Config.Document
import PageTemplates.Config.Reading
import PageTemplates.Context
import PageTemplates.Dictionary
import PageTemplates.Engine
import PageTemplates.Expr.Evaluation
import PageTemplates.Expr.Grammar
import PageTemplates.Expr.Scan
import PageTemplates.Expr.Token
import PageTemplates.Expr.Tree
import PageTemplates.Json
import PageTemplates.Json.Reader
import PageTemplates.Json.Writer
import PageTemplates.Number.Exact
import PageTemplates.Number.Reading
import PageTemplates.Number.Shortest
import PageTemplates.Number.Style
import PageTemplates.Number.Word
import PageTemplates.Operator
import PageTemplates.Page
import PageTemplates.Path
import PageTemplates.Render
import PageTemplates.Render.Error
import PageTemplates.Scheme
import PageTemplates.Storage
import PageTemplates.Storage.Table
import PageTemplates.Storage.Tree
import PageTemplates.Template
import PageTemplates.Template.Cache
import PageTemplates.Template.Piece
import PageTemplates.Template.Segment
import PageTemplates.Text.Blank
import PageTemplates.Text.Letter
import PageTemplates.Text.Lines
import PageTemplates.Text.Markup
import PageTemplates.Text.Quoted
import PageTemplates.Text.Ranges
import PageTemplates.Text.Split
import PageTemplates.Text.Units
import PageTemplates.Value
import PageTemplates.Value.Comparison
import PageTemplates.Value.Member
import PageTemplates.Value.Operation
import PageTemplates.View
import PageTemplates.View.Cache
import PageTemplates.View.Target
import PageTemplates.View.Watch
import PageTemplates.Yaml
import PageTemplates.Proofs.Grammar.Derivation
import PageTemplates.Proofs.Grammar.Brackets
import PageTemplates.Proofs.Grammar.Soundness
import PageTemplates.Proofs.Grammar.Completeness
import PageTemplates.Proofs.Grammar.Acceptance
import PageTemplates.Proofs.Evaluation.Plain
import PageTemplates.Proofs.Evaluation.Chain
import PageTemplates.Proofs.Dictionary
import PageTemplates.Proofs.Render.Fixed
import PageTemplates.Proofs.Cache.Coherence
import PageTemplates.Proofs.Cache.Transparency
import PageTemplates.Proofs.Path
import PageTemplates.Proofs.Render.Invariant
import PageTemplates.Proofs.View.Confinement
import PageTemplates.Proofs.Render.DepthLimit
import PageTemplates.Proofs.Grammar.Names
import PageTemplates.Proofs.Render.DeniedNames
import PageTemplates.Proofs.Evaluation.ErasedContext
import PageTemplates.Proofs.View.Reachable
import PageTemplates.Proofs.Render.Erasure
import PageTemplates.Proofs.Text.Markup
import PageTemplates.Proofs.Render.Injection
import PageTemplates.Proofs.Text.Pattern
import PageTemplates.Proofs.Text.Blank
import PageTemplates.Proofs.Template.Delimiters
import PageTemplates.Proofs.Template.Texts
import PageTemplates.Proofs.Text.Units
import PageTemplates.Proofs.Scan.Number
import PageTemplates.Proofs.Scan.Spelling
import PageTemplates.Proofs.Grammar.Printing
import PageTemplates.Proofs.Grammar.RoundTrip
import PageTemplates.Proofs.View.Journal
import PageTemplates.Proofs.View.LastWrite
import PageTemplates.Proofs.Render.Composition
import PageTemplates.Proofs.View.Log
import PageTemplates.Proofs.View.Effects
import PageTemplates.Proofs.Value.Depth
import PageTemplates.Proofs.Value.StrictEquality
import PageTemplates.Proofs.Value.LooseEquality
import PageTemplates.Proofs.Text.Entities
import PageTemplates.Proofs.Render.Agreement
import PageTemplates.Proofs.Render.Footprint
import PageTemplates.Proofs.Scan.Literal
import PageTemplates.Proofs.Scan.Remainder
import PageTemplates.Proofs.Scan.Reading
import PageTemplates.Proofs.Scan.Layout
import PageTemplates.Proofs.Grammar.Refusals
import PageTemplates.Proofs.Value.Order
import PageTemplates.Proofs.Evaluation.Origin
import PageTemplates.Proofs.Grammar.Counted
import PageTemplates.Proofs.Grammar.Counter
import PageTemplates.Proofs.Template.Classification
import PageTemplates.Proofs.Template.ExpressionSize
import PageTemplates.Proofs.Yaml
import PageTemplates.Proofs.Text.Lines
import PageTemplates.Proofs.Scheme.Loading
import PageTemplates.Proofs.Scheme.Order
import PageTemplates.Proofs.Engine.Page
import PageTemplates.Proofs.Cache.Requests
import PageTemplates.Proofs.Engine.Requests
import PageTemplates.Proofs.Value.OwnProperties
import PageTemplates.Proofs.Scan.NumericTexts
import PageTemplates.Proofs.Number.Whole
import PageTemplates.Proofs.Number.IntegerPart
import PageTemplates.Proofs.Number.Word
