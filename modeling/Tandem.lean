import Tandem.Assembly.Assembler
import Tandem.Assembly.Error
import Tandem.Assembly.Expansion
import Tandem.Assembly.Listing
import Tandem.Assembly.Source
import Tandem.Assembly.Word
import Tandem.Cbor.Decode
import Tandem.Cbor.Item
import Tandem.Channel.Basic
import Tandem.Channel.Queue
import Tandem.Channel.Writer
import Tandem.Command.Options
import Tandem.Command.Run
import Tandem.Defines
import Tandem.Expr.Argument
import Tandem.Expr.Builtin
import Tandem.Expr.Compare
import Tandem.Expr.Dict
import Tandem.Expr.Eval
import Tandem.Expr.Failure
import Tandem.Expr.FloatText
import Tandem.Expr.Key
import Tandem.Expr.Layout
import Tandem.Expr.Literal
import Tandem.Expr.Method
import Tandem.Expr.Number
import Tandem.Expr.Operator
import Tandem.Expr.Parser
import Tandem.Expr.Range
import Tandem.Expr.Render
import Tandem.Expr.Scope
import Tandem.Expr.Sequence
import Tandem.Expr.Signature
import Tandem.Expr.Store
import Tandem.Expr.StringMethod
import Tandem.Expr.Template
import Tandem.Expr.Term
import Tandem.Expr.Token
import Tandem.Expr.Value
import Tandem.Host.Basic
import Tandem.Host.Memory
import Tandem.Machine.Fault
import Tandem.Machine.Instance
import Tandem.Machine.Instruction
import Tandem.Machine.Program
import Tandem.Machine.Register
import Tandem.Main
import Tandem.Message
import Tandem.Path
import Tandem.Proofs.Assembly.BlankLines
import Tandem.Proofs.Assembly.Expansion
import Tandem.Proofs.Assembly.FirstError
import Tandem.Proofs.Assembly.Grammar
import Tandem.Proofs.Assembly.Jumps
import Tandem.Proofs.Assembly.Layout
import Tandem.Proofs.Assembly.Linking
import Tandem.Proofs.Assembly.Listing
import Tandem.Proofs.Assembly.Numbers
import Tandem.Proofs.Assembly.Reading
import Tandem.Proofs.Assembly.Relisting
import Tandem.Proofs.Assembly.Source
import Tandem.Proofs.Assembly.Spelling
import Tandem.Proofs.Assembly.Splicing
import Tandem.Proofs.Cbor.Delimited
import Tandem.Proofs.Cbor.Order
import Tandem.Proofs.Cbor.Reading
import Tandem.Proofs.Channel.Contents
import Tandem.Proofs.Channel.Fifo
import Tandem.Proofs.Channel.Storage
import Tandem.Proofs.Channel.Taps
import Tandem.Proofs.Channel.Writing
import Tandem.Proofs.Defines
import Tandem.Proofs.Machine.Coherence
import Tandem.Proofs.Machine.Dump
import Tandem.Proofs.Machine.Registers
import Tandem.Proofs.Machine.Step
import Tandem.Proofs.Path.Normal
import Tandem.Proofs.Path.Resolving
import Tandem.Proofs.Report.Damage
import Tandem.Proofs.Report.Reading
import Tandem.Proofs.Report.Roundtrip
import Tandem.Proofs.Schedule.Accounting
import Tandem.Proofs.Schedule.Calls
import Tandem.Proofs.Schedule.Coherence
import Tandem.Proofs.Schedule.Conservation
import Tandem.Proofs.Schedule.Cutoff
import Tandem.Proofs.Schedule.Cycles
import Tandem.Proofs.Schedule.Effects
import Tandem.Proofs.Schedule.Faults
import Tandem.Proofs.Schedule.Forgetting
import Tandem.Proofs.Schedule.Halting
import Tandem.Proofs.Schedule.History
import Tandem.Proofs.Schedule.InPlace
import Tandem.Proofs.Schedule.Independence
import Tandem.Proofs.Schedule.Interleaving
import Tandem.Proofs.Schedule.Progress
import Tandem.Proofs.Schedule.Restart
import Tandem.Proofs.Schedule.Standstill
import Tandem.Proofs.Schedule.Symmetry
import Tandem.Proofs.Schedule.Target
import Tandem.Proofs.Schedule.Tracing
import Tandem.Proofs.Schedule.Transcript
import Tandem.Proofs.Table
import Tandem.Proofs.Text.Blank
import Tandem.Proofs.Text.Decimal
import Tandem.Proofs.Text.Utf8
import Tandem.Report.Basic
import Tandem.Report.Decode
import Tandem.Report.Encode
import Tandem.Schedule.Duo
import Tandem.Schedule.Pair
import Tandem.Settings
import Tandem.Table
import Tandem.Text.Basic
import Tandem.Text.Blank
import Tandem.Text.Case
import Tandem.Text.Digit
import Tandem.Text.FloatLiteral
import Tandem.Text.Letter
import Tandem.Text.Literal
import Tandem.Text.Numeral
import Tandem.Text.Piece
import Tandem.Text.Quote
import Tandem.Text.Search
import Tandem.Text.Utf8
import Tandem.Text.Visible
import Tandem.Toml.Document
import Tandem.Toml.Quoted
import Tandem.Toml.Scalar
import Tandem.Toml.Value
