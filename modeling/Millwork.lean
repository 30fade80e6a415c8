import Millwork.Main
import Millwork.Service.Api
import Millwork.Json.Printer
import Millwork.Proofs.Program.MotionSafety
import Millwork.Proofs.Program.Noninterference
import Millwork.Proofs.Job.Compilation
import Millwork.Proofs.Job.Oversize
import Millwork.Proofs.Program.Respelling
import Millwork.Proofs.Program.Stamp
import Millwork.Proofs.Controller.Grammar
import Millwork.Proofs.Number.Finite
import Millwork.Proofs.Program.WellFormed
import Millwork.Proofs.Controller.Offset
import Millwork.Proofs.Program.Compensation
import Millwork.Proofs.Program.Composition
import Millwork.Proofs.Service.Agreement
import Millwork.Proofs.Program.Operands
import Millwork.Proofs.Job.Meaning
import Millwork.Proofs.Service.Problems
import Millwork.Proofs.Program.Warnings
import Millwork.Proofs.Program.Route
import Millwork.Proofs.Service.Surfaces
import Millwork.Proofs.Number.Canonical
import Millwork.Proofs.Program.Division
import Millwork.Proofs.Program.Depths
import Millwork.Proofs.Program.Pockets
import Millwork.Proofs.Machine.Merge
import Millwork.Proofs.Program.Rates
import Millwork.Proofs.Tool.Lookup
import Millwork.Proofs.Job.Truths
import Millwork.Proofs.Program.FileName
import Millwork.Proofs.Program.Lines
import Millwork.Proofs.Service.Listing
