import ByteMachine.Byte
import ByteMachine.LoadFault
import ByteMachine.Text.CharClass
import ByteMachine.Text.Unprintable
import ByteMachine.Text.Blank
import ByteMachine.Text.Quoted
import ByteMachine.Storage.Memory
import ByteMachine.Storage.Registers
import ByteMachine.Isa.Flags
import ByteMachine.Isa.Opcode
import ByteMachine.Isa.Instruction
import ByteMachine.Isa.State
import ByteMachine.Isa.Trap
import ByteMachine.Isa.Execution
import ByteMachine.Log.Trace
import ByteMachine.Log.Message
import ByteMachine.Image.Line
import ByteMachine.Image.Literal
import ByteMachine.Image.Reading
import ByteMachine.Machine.Sink
import ByteMachine.Machine.Fault
import ByteMachine.Machine.Basic
import ByteMachine.Machine.Step
import ByteMachine.Machine.Run
import ByteMachine.CommandLine.Folder
import ByteMachine.CommandLine.Invocation
import ByteMachine.CommandLine.Logger
import ByteMachine.CommandLine.Plain
import ByteMachine.CommandLine.Report
import ByteMachine.Main
import ByteMachine.Proofs.Execution.Effect
import ByteMachine.Proofs.Manual.Refinement
import ByteMachine.Proofs.Cycle.Outcome
import ByteMachine.Proofs.Cycle.Course
import ByteMachine.Proofs.Stack.Depth
import ByteMachine.Proofs.Stack.Matching
import ByteMachine.Proofs.Output.Ascii
import ByteMachine.Proofs.Session.Actions
import ByteMachine.Proofs.Session.Truncation
import ByteMachine.Proofs.Execution.Agreement
import ByteMachine.Proofs.Execution.Calls
import ByteMachine.Proofs.Execution.Renaming
import ByteMachine.Proofs.Cycle.Footprint
import ByteMachine.Proofs.Image.Encoding
import ByteMachine.Proofs.Image.Lines
import ByteMachine.Proofs.Image.Grammar
import ByteMachine.Proofs.Run.Bound
import ByteMachine.Proofs.Run.Failure
import ByteMachine.Proofs.Session.Commands
import ByteMachine.Proofs.Session.Lifecycle
import ByteMachine.Proofs.Run.Iteration
import ByteMachine.Proofs.Stack.Contents
import ByteMachine.Proofs.Session.Comparison
import ByteMachine.Proofs.Output.Transcript
import ByteMachine.Proofs.Session.Printing
import ByteMachine.Proofs.Run.StraightLine
import ByteMachine.Proofs.Session.Loading
import ByteMachine.Proofs.Image.Rendering
import ByteMachine.Proofs.Image.Accounting
import ByteMachine.Proofs.Image.Joining
import ByteMachine.Proofs.Image.Width
import ByteMachine.Proofs.CommandLine.Aloud
import ByteMachine.Proofs.CommandLine.FrontEnd
import ByteMachine.Proofs.Run.Position
import ByteMachine.Proofs.Execution.Arithmetic
import ByteMachine.Proofs.Execution.Chains
import ByteMachine.Proofs.Execution.Layout
import ByteMachine.Proofs.Output.Columns
import ByteMachine.Proofs.Session.Logging
import ByteMachine.Proofs.Output.Fields
import ByteMachine.Proofs.Stack.Passing
