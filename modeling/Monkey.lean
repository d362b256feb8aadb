import Monkey.Token
import Monkey.Token.Lexer
import Monkey.Binary64
import Monkey.Decimal.Shortest
import Monkey.Decimal.Read
import Monkey.Text.Blank
import Monkey.Text.DecimalDigit
import Monkey.Text.Printable
import Monkey.Text.Word
import Monkey.Number
import Monkey.Fault
import Monkey.Syntax
import Monkey.Syntax.Printer
import Monkey.Syntax.Parser
import Monkey.Text.Sha256
import Monkey.Value
import Monkey.Heap
import Monkey.Heap.Clone
import Monkey.Value.Text
import Monkey.Value.View
import Monkey.Machine
import Monkey.Builtins
import Monkey.Eval
import Monkey.Session
import Monkey.Bench.Datum
import Monkey.Bench.Programs
import Monkey.Bench.Suite
import Monkey.Bench.Modules
import Monkey.Bench.Library
import Monkey.Bench.Harness
import Monkey.Decimal.Fixed
import Monkey.Text.Lines
import Monkey.Report.Json
import Monkey.Report.Json.Read
import Monkey.Report.Sort
import Monkey.Report.Json.Ops
import Monkey.Report.Step
import Monkey.Report.Coverage
import Monkey.Report.SelfCheck
import Monkey.Report.Measure
import Monkey.Main
import Monkey.Proofs.Lexing
import Monkey.Proofs.Parsing
import Monkey.Proofs.Precedence
import Monkey.Proofs.Printable
import Monkey.Proofs.PrintedText
import Monkey.Proofs.RoundTrip
import Monkey.Proofs.ScopeGrowth
import Monkey.Proofs.ScopeDiscipline
import Monkey.Proofs.Signals
import Monkey.Proofs.Holes
import Monkey.Proofs.Instances
import Monkey.Proofs.Errors
import Monkey.Proofs.Arithmetic
import Monkey.Proofs.Copies
import Monkey.Proofs.Sealing
import Monkey.Proofs.Encapsulation
import Monkey.Proofs.Replay
import Monkey.Proofs.Lookahead
import Monkey.Proofs.LineSplit
import Monkey.Proofs.LineLexing
import Monkey.Proofs.LineByLine
import Monkey.Proofs.Comments
import Monkey.Proofs.TextAfterLine
import Monkey.Proofs.HashLiterals
import Monkey.Proofs.ScopeStack
import Monkey.Proofs.LexerProgress
import Monkey.Proofs.IntegerText
