import Cubing.Main
import Cubing.Proofs.Moves.Backtracking
import Cubing.Proofs.Moves.Composition
import Cubing.Proofs.Moves.Fitting
import Cubing.Proofs.Moves.Lines
import Cubing.Proofs.Net.Rows
import Cubing.Proofs.Net.Validity
import Cubing.Proofs.Net.Visiting
import Cubing.Proofs.Puzzle.Batches
import Cubing.Proofs.Puzzle.Printing
import Cubing.Proofs.Shell.Checking
import Cubing.Proofs.Shell.Conversation
import Cubing.Proofs.Shell.Sessions
import Cubing.Proofs.Shell.Thresholds
import Cubing.Proofs.Solid.Blocks
import Cubing.Proofs.Solid.Slices
import Cubing.Proofs.Solid.Stretching
import Cubing.Proofs.Solid.Tiling
import Cubing.Proofs.Solid.Twist
import Cubing.Proofs.Solid.Uniform
import Cubing.Proofs.Solid.Views
import Cubing.Proofs.Turn.Amounts
import Cubing.Proofs.Turn.Coaxial
import Cubing.Proofs.Turn.Focus
import Cubing.Proofs.Turn.Safety
import Cubing.Proofs.Turn.Spinning
import Cubing.Proofs.Turn.Viewpoint
import Cubing.Shell.Completion
