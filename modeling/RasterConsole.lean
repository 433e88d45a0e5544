import RasterConsole.Arithmetic
import RasterConsole.Bus
import RasterConsole.CommandLine
import RasterConsole.CommandLine.Options
import RasterConsole.CommandLine.Program
import RasterConsole.Console
import RasterConsole.Decimal.Binary64
import RasterConsole.Decimal.Shortest
import RasterConsole.Fault
import RasterConsole.Geometry
import RasterConsole.Main
import RasterConsole.Memory
import RasterConsole.Processor
import RasterConsole.Processor.Activity
import RasterConsole.Processor.Alu
import RasterConsole.Processor.Execution
import RasterConsole.Processor.Instruction
import RasterConsole.Processor.Status
import RasterConsole.Proofs.Bus.Course
import RasterConsole.Proofs.Bus.Delivery
import RasterConsole.Proofs.Bus.Invariants
import RasterConsole.Proofs.Bus.Ledger
import RasterConsole.Proofs.Bus.Limits
import RasterConsole.Proofs.Bus.Lockstep
import RasterConsole.Proofs.Bus.Overdue
import RasterConsole.Proofs.Bus.PaidAhead
import RasterConsole.Proofs.Bus.Partial
import RasterConsole.Proofs.Bus.Settling
import RasterConsole.Proofs.Bus.Words
import RasterConsole.Proofs.CommandLine.Outcomes
import RasterConsole.Proofs.CommandLine.Stages
import RasterConsole.Proofs.Console.Booting
import RasterConsole.Proofs.Console.Budgets
import RasterConsole.Proofs.Console.Clocks
import RasterConsole.Proofs.Console.Debt
import RasterConsole.Proofs.Console.Exactness
import RasterConsole.Proofs.Console.Faults
import RasterConsole.Proofs.Console.Framing
import RasterConsole.Proofs.Console.Limits
import RasterConsole.Proofs.Console.Partial
import RasterConsole.Proofs.Console.Reachable
import RasterConsole.Proofs.Console.Reporting
import RasterConsole.Proofs.Console.Restarting
import RasterConsole.Proofs.Console.SingleStep
import RasterConsole.Proofs.Console.Stepping
import RasterConsole.Proofs.Console.Termination
import RasterConsole.Proofs.Console.UnknownOpcodes
import RasterConsole.Proofs.Console.Words
import RasterConsole.Proofs.Memory.Contents
import RasterConsole.Proofs.Memory.History
import RasterConsole.Proofs.Processor.Accesses
import RasterConsole.Proofs.Processor.Allowance
import RasterConsole.Proofs.Processor.Arithmetic
import RasterConsole.Proofs.Processor.Course
import RasterConsole.Proofs.Processor.Footprint
import RasterConsole.Proofs.Processor.Guest
import RasterConsole.Proofs.Processor.Interrupts
import RasterConsole.Proofs.Processor.Operands
import RasterConsole.Proofs.Processor.Orderly
import RasterConsole.Proofs.Processor.Overdue
import RasterConsole.Proofs.Processor.Partial
import RasterConsole.Proofs.Processor.Requests
import RasterConsole.Proofs.Processor.Runs
import RasterConsole.Proofs.Processor.Shifts
import RasterConsole.Proofs.Processor.Stack
import RasterConsole.Proofs.Processor.Starts
import RasterConsole.Proofs.Processor.Timing
import RasterConsole.Proofs.Processor.Vectors
import RasterConsole.Proofs.Processor.Words
import RasterConsole.Proofs.Ticks.Requests
import RasterConsole.Proofs.Video.Addressing
import RasterConsole.Proofs.Video.Beam
import RasterConsole.Proofs.Video.Clock
import RasterConsole.Proofs.Video.Counts
import RasterConsole.Proofs.Video.Events
import RasterConsole.Proofs.Video.Exposure
import RasterConsole.Proofs.Video.Limits
import RasterConsole.Proofs.Video.Partial
import RasterConsole.Proofs.Video.Playfield
import RasterConsole.Proofs.Video.Registers
import RasterConsole.Proofs.Video.Statistics
import RasterConsole.Proofs.Video.Words
import RasterConsole.Report
import RasterConsole.Settings
import RasterConsole.Settings.Reading
import RasterConsole.Text.Hexadecimal
import RasterConsole.Text.Json
import RasterConsole.Ticks
import RasterConsole.Toml.Document
import RasterConsole.Toml.Node
import RasterConsole.Toml.Reader
import RasterConsole.Toml.Scalar
import RasterConsole.Toml.Text
import RasterConsole.Video.Palette
import RasterConsole.Video.Picture
import RasterConsole.Video.Png
import RasterConsole.Video.Raster
import RasterConsole.Video.Register
import RasterConsole.Word
