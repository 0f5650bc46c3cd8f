import Sm83Cost.Text.Basic
import Sm83Cost.Text.Ranges
import Sm83Cost.Text.Blank
import Sm83Cost.Text.Word
import Sm83Cost.Text.Digit
import Sm83Cost.Text.Printable
import Sm83Cost.Text.Case
import Sm83Cost.Text.Quoted
import Sm83Cost.Text.Lines
import Sm83Cost.Text.Utf8
import Sm83Cost.Numeral
import Sm83Cost.Literal
import Sm83Cost.Operand
import Sm83Cost.Store
import Sm83Cost.Opcode.Entry
import Sm83Cost.Opcode.Set
import Sm83Cost.Opcode.Table
import Sm83Cost.Opcode.Lookup
import Sm83Cost.Line.Nesting
import Sm83Cost.Line.Directive
import Sm83Cost.Line.Basic
import Sm83Cost.Config.Setting
import Sm83Cost.Config.Basic
import Sm83Cost.Text.Caseless
import Sm83Cost.Registry
import Sm83Cost.Macro
import Sm83Cost.Routine.Basic
import Sm83Cost.Routine.Comments
import Sm83Cost.File.Path
import Sm83Cost.File.Tree
import Sm83Cost.Fault
import Sm83Cost.Journal
import Sm83Cost.Scan.Landmark
import Sm83Cost.Scan.Scanner
import Sm83Cost.Scan.Body
import Sm83Cost.Scan.Document
import Sm83Cost.Cost.Basic
import Sm83Cost.Cost.StartPoints
import Sm83Cost.Cost.Session
import Sm83Cost.Listing
import Sm83Cost.Opcode.Describe
import Sm83Cost.Routine.Describe
import Sm83Cost.Source
import Sm83Cost.Workspace
import Sm83Cost.Command.Options
import Sm83Cost.Command.Failure
import Sm83Cost.Command.HostError
import Sm83Cost.Command.Help
import Sm83Cost.Command.Run
import Sm83Cost.Main
import Sm83Cost.Proofs.Cost.Visits
import Sm83Cost.Proofs.Cost.RunningTotals
import Sm83Cost.Proofs.Scan.Steps
import Sm83Cost.Proofs.Scan.Expansion
import Sm83Cost.Proofs.File.Spelling
import Sm83Cost.Proofs.Scan.Run
import Sm83Cost.Proofs.Scan.OpenedFiles
import Sm83Cost.Proofs.File.Directory
import Sm83Cost.Proofs.Scan.Reachability
import Sm83Cost.Proofs.Line.View
import Sm83Cost.Proofs.Scan.Abreast
import Sm83Cost.Proofs.Cost.Abreast
import Sm83Cost.Proofs.Cost.Isolation
import Sm83Cost.Proofs.Line.Caseless
import Sm83Cost.Proofs.Cost.Caseless
import Sm83Cost.Proofs.Text.Keyword
import Sm83Cost.Proofs.Line.Code
import Sm83Cost.Proofs.Scan.Code
import Sm83Cost.Proofs.Cost.Remarks
import Sm83Cost.Proofs.Cost.Definitions
import Sm83Cost.Proofs.Line.Operands
import Sm83Cost.Proofs.Line.Rendering
import Sm83Cost.Proofs.Opcode.Cycles
import Sm83Cost.Proofs.Scan.Keeping
import Sm83Cost.Proofs.Cost.Writing
import Sm83Cost.Proofs.Cost.Configurations
import Sm83Cost.Proofs.Cost.Branches
import Sm83Cost.Proofs.Cost.Predefs
import Sm83Cost.Proofs.Line.Numerals
import Sm83Cost.Proofs.Cost.Completion
import Sm83Cost.Proofs.Cost.StartPoints
import Sm83Cost.Proofs.Cost.Nonnegative
import Sm83Cost.Proofs.Routine.Labels
import Sm83Cost.Proofs.Routine.Registration
import Sm83Cost.Proofs.Routine.Workspace
import Sm83Cost.Proofs.Routine.Reachable
import Sm83Cost.Proofs.Repetition
import Sm83Cost.Proofs.Routine.Documentation
import Sm83Cost.Proofs.Opcode.Keys
import Sm83Cost.Proofs.Opcode.Brackets
import Sm83Cost.Proofs.Opcode.Forms
import Sm83Cost.Proofs.Opcode.Operands
import Sm83Cost.Proofs.Cost.Bodies
import Sm83Cost.Proofs.Text.Capitals
import Sm83Cost.Proofs.Line.Retracing
import Sm83Cost.Proofs.Opcode.Guesses
import Sm83Cost.Proofs.Opcode.Resolution
import Sm83Cost.Proofs.Opcode.Symbols
import Sm83Cost.Proofs.Opcode.Literals
import Sm83Cost.Proofs.Opcode.MemorySpelling
import Sm83Cost.Proofs.Opcode.BitNumbers
import Sm83Cost.Proofs.Scan.Blocks
import Sm83Cost.Proofs.Scan.LastBlocks
import Sm83Cost.Proofs.Line.DataItems
import Sm83Cost.Proofs.Cost.DataLines
import Sm83Cost.Proofs.Routine.Registers
import Sm83Cost.Proofs.Routine.LastLabels
import Sm83Cost.Proofs.Routine.ParsedLabels
import Sm83Cost.Proofs.Scan.Prices
import Sm83Cost.Proofs.Scan.Interchange
import Sm83Cost.Proofs.Scan.Rescan
import Sm83Cost.Proofs.File.Walk
import Sm83Cost.Proofs.Traversal
import Sm83Cost.Proofs.Opcode.Construction
import Sm83Cost.Proofs.Text.Small
import Sm83Cost.Proofs.Numeral.DigitTexts
import Sm83Cost.Proofs.Config.Values
import Sm83Cost.Proofs.Config.Settings
import Sm83Cost.Proofs.Store.Written
import Sm83Cost.Proofs.Config.Refusals
import Sm83Cost.Proofs.Listing.Numbers
import Sm83Cost.Proofs.Listing.Layout
import Sm83Cost.Proofs.Numeral.Notations
import Sm83Cost.Proofs.Cost.LabelledLines
import Sm83Cost.Proofs.Command.Lookup
import Sm83Cost.Proofs.Registry.History
