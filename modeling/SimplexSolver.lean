import SimplexSolver.Number.Binary64
import SimplexSolver.Page
import SimplexSolver.Solve.Session
import SimplexSolver.Proofs.Cells
import SimplexSolver.Proofs.Selection
import SimplexSolver.Proofs.Steps
import SimplexSolver.Proofs.Reached
import SimplexSolver.Proofs.Basis
import SimplexSolver.Proofs.Equations
import SimplexSolver.Proofs.FineRuns
import SimplexSolver.Proofs.Answers
import SimplexSolver.Proofs.Histories
import SimplexSolver.Proofs.Multipliers
import SimplexSolver.Proofs.Certificates
import SimplexSolver.Proofs.Representation
import SimplexSolver.Proofs.Cycling
import SimplexSolver.Proofs.FeasibleAnswers
import SimplexSolver.Proofs.Courses
import SimplexSolver.Proofs.Degeneracy
import SimplexSolver.Proofs.Walks
import SimplexSolver.Proofs.Replays
import SimplexSolver.Proofs.Interleaving
import SimplexSolver.Proofs.OrderlyWalks
import SimplexSolver.Proofs.Truncation
import SimplexSolver.Proofs.Cancelling
import SimplexSolver.Proofs.Signs
import SimplexSolver.Proofs.Finiteness
import SimplexSolver.Proofs.Mirroring
import SimplexSolver.Proofs.Reversal
import SimplexSolver.Proofs.Drift
import SimplexSolver.Proofs.Normalizing
import SimplexSolver.Proofs.Roundings
import SimplexSolver.Proofs.Corners
import SimplexSolver.Proofs.DrawnOptima
import SimplexSolver.Proofs.Clipping
import SimplexSolver.Proofs.Characters
import SimplexSolver.Proofs.Places
import SimplexSolver.Proofs.WrittenNumbers
import SimplexSolver.Proofs.WrittenTerms
import SimplexSolver.Proofs.Expressions
import SimplexSolver.Proofs.InputFormats
import SimplexSolver.Proofs.DoubleRange
import SimplexSolver.Proofs.NearestDoubles
import SimplexSolver.Proofs.ShortDecimals
import SimplexSolver.Proofs.SignificantDigits
import SimplexSolver.Proofs.DisplayedExpressions
import SimplexSolver.Proofs.FormFailures
import SimplexSolver.Proofs.NearFractions
import SimplexSolver.Proofs.ShortFractions
