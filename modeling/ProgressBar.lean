import ProgressBar.Main
import ProgressBar.Bar.Edit
import ProgressBar.Iteration.Nest
import ProgressBar.Screen
import ProgressBar.Proofs.Bar.Length
import ProgressBar.Proofs.Bar.Scaling
import ProgressBar.Proofs.Bar.Renderable
import ProgressBar.Proofs.Bar.Plain
import ProgressBar.Proofs.Printing
import ProgressBar.Proofs.Iteration.Signal
import ProgressBar.Proofs.Iteration.Reaction
import ProgressBar.Proofs.Iteration.Supply
import ProgressBar.Proofs.Iteration.Transparency
import ProgressBar.Proofs.Iteration.Transcript
import ProgressBar.Proofs.Bar.Frames
import ProgressBar.Proofs.Bar.DrawnOver
import ProgressBar.Proofs.Bar.NormalForm
import ProgressBar.Proofs.Bar.Cells
import ProgressBar.Proofs.Bar.Drift
import ProgressBar.Proofs.Bar.Recognition
import ProgressBar.Proofs.Program.Output
import ProgressBar.Proofs.Program.InPlace
import ProgressBar.Proofs.Iteration.Answers
import ProgressBar.Proofs.Iteration.Promise
import ProgressBar.Proofs.Refusing
import ProgressBar.Proofs.CommandLine.Order
import ProgressBar.Proofs.CommandLine.Values
import ProgressBar.Proofs.CommandLine.Spelling
import ProgressBar.Proofs.Iteration.Acts
import ProgressBar.Proofs.Iteration.Failure
import ProgressBar.Proofs.Program.AsIteration
import ProgressBar.Proofs.Program.Precedence
import ProgressBar.Proofs.Limited
import ProgressBar.Proofs.Template.Occurrences
import ProgressBar.Proofs.Template.Length
import ProgressBar.Proofs.Template.Passes
import ProgressBar.Proofs.Program.BreakingOff
