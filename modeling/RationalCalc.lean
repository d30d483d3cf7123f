import RationalCalc.Chat.Session
import RationalCalc.CommandLine.Run
import RationalCalc.Main
import RationalCalc.Pool.Bench
import RationalCalc.Proofs.Decimals
import RationalCalc.Proofs.Characters
import RationalCalc.Proofs.Climbing
import RationalCalc.Proofs.Conversion
import RationalCalc.Proofs.Execution
import RationalCalc.Proofs.Pooling
import RationalCalc.Proofs.Transparency
import RationalCalc.Proofs.Binary64.Rounding
import RationalCalc.Proofs.Binary64.Operations
import RationalCalc.Proofs.Binary64.Nearest
import RationalCalc.Proofs.Binary64.Accuracy
import RationalCalc.Proofs.Binary64.Logarithm
import RationalCalc.Proofs.Binary64.LogGamma
import RationalCalc.Proofs.Binary64.Decimal
import RationalCalc.Proofs.Counting
import RationalCalc.Proofs.Estimates
import RationalCalc.Proofs.Guards
import RationalCalc.Proofs.Segments
import RationalCalc.Proofs.Lexing
import RationalCalc.Proofs.Violations
import RationalCalc.Proofs.Conservation
import RationalCalc.Proofs.Denotation
import RationalCalc.Proofs.Alternation
import RationalCalc.Proofs.Composition
import RationalCalc.Proofs.Admission
import RationalCalc.Proofs.ExactReading
import RationalCalc.Proofs.Rounding
import RationalCalc.Proofs.DecimalReading
import RationalCalc.Proofs.Parentheses
import RationalCalc.Proofs.Faults
import RationalCalc.Proofs.Leasing
import RationalCalc.Proofs.Custody
import RationalCalc.Proofs.Borrowing
import RationalCalc.Proofs.Recycling
import RationalCalc.Proofs.Permission
import RationalCalc.Proofs.Replies
import RationalCalc.Proofs.Products
import RationalCalc.Proofs.Powers
import RationalCalc.Proofs.Quotations
import RationalCalc.Proofs.Streams
import RationalCalc.Proofs.Checked.Evaluation
import RationalCalc.Proofs.LowestTerms
import RationalCalc.Proofs.DecimalForm
import RationalCalc.Proofs.OperandOrder
import RationalCalc.Proofs.Separation
import RationalCalc.Proofs.TokenLines
import RationalCalc.Proofs.Folding
import RationalCalc.Proofs.LiteralReading
import RationalCalc.Proofs.Variants
