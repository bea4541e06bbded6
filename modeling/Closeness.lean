import Closeness.Proofs.Nearest
import Closeness.Proofs.Spacing
import Closeness.Proofs.Value
import Closeness.Session
import Closeness.Value.Operations
import Closeness.Proofs.Widening
import Closeness.Proofs.Acceptance
import Closeness.Proofs.ScientificText
import Closeness.Proofs.DecimalReading
import Closeness.Proofs.SignificantDigits
import Closeness.Proofs.ScientificRoundTrip
import Closeness.Proofs.Endpoints
import Closeness.Proofs.PatternRoundTrip
import Closeness.Proofs.SumOrder
import Closeness.Proofs.Validity
import Closeness.Proofs.Reflexivity
import Closeness.Proofs.RegularNest
import Closeness.Proofs.NestCandidates
import Closeness.Proofs.StepCount
import Closeness.Proofs.Symmetry
import Closeness.Proofs.SessionHistory
import Closeness.Proofs.DescriptionReading
import Closeness.Proofs.Monotonicity
import Closeness.Proofs.RelativeMargin
import Closeness.Proofs.GreaterTolerance
import Closeness.Proofs.Convexity
import Closeness.Proofs.Alike
import Closeness.Proofs.CorrectRounding
import Closeness.Proofs.MarginExcess
import Closeness.Proofs.MarginOverflow
import Closeness.Proofs.StepPosition
import Closeness.Proofs.EffectiveMargin
import Closeness.Proofs.Rejection
import Closeness.Proofs.Midpoints
import Closeness.Proofs.FractionRange
import Closeness.Proofs.ListCandidates
import Closeness.Proofs.DecimalPlaces
import Closeness.Proofs.FixedNotation
import Closeness.Proofs.NormalNumbers
import Closeness.Proofs.FinerSteps
import Closeness.Proofs.NarrowedTarget
import Closeness.Proofs.OppositeTargets
import Closeness.Proofs.StableText
import Closeness.Proofs.Narrowing
import Closeness.Proofs.WholeNumberText
