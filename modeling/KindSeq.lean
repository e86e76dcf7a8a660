import KindSeq.Nibble
import KindSeq.Digits
import KindSeq.Hash
import KindSeq.Term
import KindSeq.Integer
import KindSeq.Stream
import KindSeq.Identity
import KindSeq.Sequence.Basic
import KindSeq.Sequence.Slot
import KindSeq.Sequence.Transform
import KindSeq.Sequence.Fold
import KindSeq.Sequence.Set
import KindSeq.Declarations
import KindSeq.Function
import KindSeq.Name
import KindSeq.Reflection
import KindSeq.Source.Character
import KindSeq.Source.Character.Letter
import KindSeq.Source.Character.Printed
import KindSeq.Source.Token
import KindSeq.Source.Lexer
import KindSeq.Source.Quoted
import KindSeq.Source.Spelling
import KindSeq.Source.TreeParser
import KindSeq.Literal
import KindSeq.Source.Grammar.Goal
import KindSeq.Source.Grammar.Path
import KindSeq.Source.Grammar.Type
import KindSeq.Source.Grammar.Pattern
import KindSeq.Source.Grammar.Expr
import KindSeq.Source.Grammar.Definition
import KindSeq.Source.Grammar.Item
import KindSeq.Source.Grammar.Statement
import KindSeq.Source.Grammar
import KindSeq.Expansion.Integer
import KindSeq.Expansion.Depth
import KindSeq.Expansion.NibbleTable
import KindSeq.Expansion.Routing
import KindSeq.Expansion.Derive
import KindSeq.Expansion.Implementation
import KindSeq.Program.Op
import KindSeq.Program.Expr
import KindSeq.Program.Query
import KindSeq.Proofs.NibbleTable
import KindSeq.Proofs.Arithmetic
import KindSeq.Proofs.StreamComparison
import KindSeq.Proofs.StreamDepth
import KindSeq.Proofs.DecimalNumerals
import KindSeq.Proofs.IdentityComparison
import KindSeq.Proofs.TypeIdentity
import KindSeq.Proofs.KindEquality
import KindSeq.Proofs.Membership
import KindSeq.Proofs.Deduplication
import KindSeq.Proofs.Transformation
import KindSeq.Proofs.SetInvariant
import KindSeq.Proofs.SetEquality
import KindSeq.Proofs.Aggregates
import KindSeq.Proofs.SetObservables
import KindSeq.Proofs.LiteralEvaluation
import KindSeq.Proofs.LiteralArithmetic
import KindSeq.Proofs.KindSoundness
import KindSeq.Proofs.IntegerEncoding
import KindSeq.Proofs.NameStreams
import KindSeq.Proofs.NameCollisions
import KindSeq.Proofs.IdentityAgreement
import KindSeq.Proofs.FlagCollapse
import KindSeq.Proofs.EarliestError
import KindSeq.Proofs.SetMapping
import KindSeq.Proofs.Insertion
import KindSeq.Proofs.Union
import KindSeq.Proofs.Concatenation
import KindSeq.Proofs.LeftFold
import KindSeq.Proofs.WrappingSum
import KindSeq.Proofs.Quantifiers
import KindSeq.Proofs.LiteralLists
import KindSeq.Proofs.LiteralRejection
import KindSeq.Proofs.Negation
import KindSeq.Proofs.Inspection
import KindSeq.Proofs.DepthAliases
import KindSeq.Proofs.DerivedIdentity
