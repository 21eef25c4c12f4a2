import TankDuel.Arena.Basic
import TankDuel.Arena.Coord
import TankDuel.Arena.Direction
import TankDuel.Arena.Grid
import TankDuel.Arena.Level
import TankDuel.Arena.Map
import TankDuel.Arena.Ray
import TankDuel.Assembly.Compile
import TankDuel.Assembly.Error
import TankDuel.Assembly.Lexeme
import TankDuel.Assembly.Statement
import TankDuel.Assembly.Token
import TankDuel.Battle.Basic
import TankDuel.Battle.Board
import TankDuel.Battle.Bullet
import TankDuel.Battle.Log
import TankDuel.Battle.Moves
import TankDuel.Battle.Play
import TankDuel.Battle.Sanity
import TankDuel.Battle.Snapshot
import TankDuel.Battle.Tank
import TankDuel.Battle.Turn
import TankDuel.Command.Arguments
import TankDuel.Command.Check
import TankDuel.Command.Files
import TankDuel.Command.Run
import TankDuel.Command.Tournament
import TankDuel.Config.Basic
import TankDuel.Config.Document
import TankDuel.Config.Read
import TankDuel.Machine.Action
import TankDuel.Machine.Cpu
import TankDuel.Machine.Execute
import TankDuel.Machine.Opcode
import TankDuel.Machine.Operand
import TankDuel.Machine.Operation
import TankDuel.Machine.Program
import TankDuel.Machine.Register
import TankDuel.Machine.RegisterFile
import TankDuel.Main
import TankDuel.Proofs.Arena.Coord
import TankDuel.Proofs.Arena.Drawing
import TankDuel.Proofs.Arena.Map
import TankDuel.Proofs.Arena.Obstacle
import TankDuel.Proofs.Arena.Ray
import TankDuel.Proofs.Arena.Walls
import TankDuel.Proofs.Assembly.Capitals
import TankDuel.Proofs.Assembly.Comments
import TankDuel.Proofs.Assembly.ErrorLine
import TankDuel.Proofs.Assembly.Grammar
import TankDuel.Proofs.Assembly.Joining
import TankDuel.Proofs.Assembly.Lexing
import TankDuel.Proofs.Assembly.Listing
import TankDuel.Proofs.Assembly.Operands
import TankDuel.Proofs.Assembly.Printing
import TankDuel.Proofs.Assembly.Reassembly
import TankDuel.Proofs.Assembly.WellFormed
import TankDuel.Proofs.Battle.Ammo
import TankDuel.Proofs.Battle.Board
import TankDuel.Proofs.Battle.BulletPhase
import TankDuel.Proofs.Battle.Course
import TankDuel.Proofs.Battle.Damage
import TankDuel.Proofs.Battle.Deeds
import TankDuel.Proofs.Battle.Ending
import TankDuel.Proofs.Battle.Fairness
import TankDuel.Proofs.Battle.Feedback
import TankDuel.Proofs.Battle.Flight
import TankDuel.Proofs.Battle.Halted
import TankDuel.Proofs.Battle.Halting
import TankDuel.Proofs.Battle.History
import TankDuel.Proofs.Battle.Interference
import TankDuel.Proofs.Battle.Living
import TankDuel.Proofs.Battle.Lull
import TankDuel.Proofs.Battle.Machines
import TankDuel.Proofs.Battle.MessageLimit
import TankDuel.Proofs.Battle.Messages
import TankDuel.Proofs.Battle.Mirror
import TankDuel.Proofs.Battle.Moves
import TankDuel.Proofs.Battle.Numbering
import TankDuel.Proofs.Battle.Observation
import TankDuel.Proofs.Battle.Outcome
import TankDuel.Proofs.Battle.Phases
import TankDuel.Proofs.Battle.Priority
import TankDuel.Proofs.Battle.Refusal
import TankDuel.Proofs.Battle.Request
import TankDuel.Proofs.Battle.Rest
import TankDuel.Proofs.Battle.Restart
import TankDuel.Proofs.Battle.Sanity
import TankDuel.Proofs.Battle.Sensing
import TankDuel.Proofs.Battle.Sight
import TankDuel.Proofs.Battle.Soundness
import TankDuel.Proofs.Battle.Spending
import TankDuel.Proofs.Battle.Stepping
import TankDuel.Proofs.Battle.Trajectory
import TankDuel.Proofs.Battle.Turn
import TankDuel.Proofs.Command.Run
import TankDuel.Proofs.Machine.Arithmetic
import TankDuel.Proofs.Machine.Branching
import TankDuel.Proofs.Machine.Budget
import TankDuel.Proofs.Machine.Commands
import TankDuel.Proofs.Machine.Execution
import TankDuel.Proofs.Machine.Faults
import TankDuel.Proofs.Machine.Labels
import TankDuel.Proofs.Machine.Lifecycle
import TankDuel.Proofs.Machine.Operation
import TankDuel.Proofs.Machine.ProgramCounter
import TankDuel.Proofs.Machine.Step
import TankDuel.Proofs.Machine.Work
import TankDuel.Proofs.Report.Tournament
import TankDuel.Proofs.Sequence
import TankDuel.Proofs.Text.Capitals
import TankDuel.Proofs.Text.Csv
import TankDuel.Proofs.Text.Decimal
import TankDuel.Proofs.Text.Lines
import TankDuel.Proofs.Text.Numerals
import TankDuel.Proofs.Tournament.Counts
import TankDuel.Proofs.Tournament.Parts
import TankDuel.Proofs.Tournament.Schedule
import TankDuel.Proofs.Tournament.Standings
import TankDuel.Report.Battle
import TankDuel.Report.Json
import TankDuel.Report.Tournament
import TankDuel.Side
import TankDuel.Text.Blank
import TankDuel.Text.Caseless
import TankDuel.Text.Column
import TankDuel.Text.Decimal
import TankDuel.Text.Json
import TankDuel.Text.Lines
import TankDuel.Tournament.Basic
import TankDuel.Tournament.Play
