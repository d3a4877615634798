import Logo.Animation.Engine
import Logo.Animation.Queue
import Logo.Animation.Script
import Logo.Bindings
import Logo.Calls
import Logo.Canvas
import Logo.Color
import Logo.Color.Names
import Logo.CommandLine
import Logo.Error
import Logo.Illustration
import Logo.Machine
import Logo.Machine.Action
import Logo.Machine.Coercion
import Logo.Machine.Meaning
import Logo.Main
import Logo.Number.Decimal
import Logo.Number.Exact
import Logo.Number.Numeral
import Logo.Number.Rounding
import Logo.Number.Written
import Logo.Options
import Logo.Path
import Logo.Picture.Checksum
import Logo.Picture.File
import Logo.Picture.Flood
import Logo.Picture.Grid
import Logo.Picture.Line
import Logo.Picture.Triangle
import Logo.Platform
import Logo.Primitive
import Logo.Program
import Logo.Program.Expression
import Logo.Program.Statement
import Logo.Report
import Logo.Scene
import Logo.Session
import Logo.Stage
import Logo.Text.Blank
import Logo.Text.CaseFold
import Logo.Text.CaseRun
import Logo.Text.Digit
import Logo.Text.Line
import Logo.Text.Quoted
import Logo.Text.UpperCase
import Logo.Text.Utf8
import Logo.Token
import Logo.Token.Scan
import Logo.Tree
import Logo.Turtle
import Logo.Window
import Logo.Proofs.Effectful
import Logo.Proofs.Agreement
import Logo.Proofs.Machine.Alike
import Logo.Proofs.Machine.Independence
import Logo.Proofs.Animation.Serial
import Logo.Proofs.Animation.Lockstep
import Logo.Proofs.Scene
import Logo.Proofs.Session.Alike
import Logo.Proofs.Session.Watching
import Logo.Proofs.Session.Pacing
import Logo.Proofs.Session.WholeRun
import Logo.Proofs.Program.Grammar
import Logo.Proofs.Program.Expressions
import Logo.Proofs.Program.Statements
import Logo.Proofs.Program.WellFormed
import Logo.Proofs.Program.Relocation
import Logo.Proofs.Program.Parallel.Expressions
import Logo.Proofs.Text.UpperCase
import Logo.Proofs.Token.Layout
import Logo.Proofs.Token.Spelling
import Logo.Proofs.Number.Plain
import Logo.Proofs.Program.Printed
import Logo.Proofs.Program.Rereading
import Logo.Proofs.Program.RoundTrip
import Logo.Proofs.Animation.History
import Logo.Proofs.Animation.Order
import Logo.Proofs.Picture.Grid
import Logo.Proofs.Canvas.Sprite
import Logo.Proofs.Canvas.Ink
import Logo.Proofs.Machine.Journal
import Logo.Proofs.Conduct
import Logo.Proofs.Machine.Expected
import Logo.Proofs.Machine.Comparison
import Logo.Proofs.Machine.Primitives
import Logo.Proofs.Program.Nodes
import Logo.Proofs.Machine.Correspondence
import Logo.Proofs.Machine.Trees
import Logo.Proofs.Machine.Studio
import Logo.Proofs.Machine.Bindings
import Logo.Proofs.Machine.Endings
import Logo.Proofs.Machine.Signals
import Logo.Proofs.Machine.Calls
import Logo.Proofs.Machine.Substitution
import Logo.Proofs.Machine.Rounds
import Logo.Proofs.Machine.Unrolling
import Logo.Proofs.Machine.Checked
import Logo.Proofs.Program.Parallel.Statements
import Logo.Proofs.Program.Progress
import Logo.Proofs.Program.Coverage
import Logo.Proofs.Token.Places
import Logo.Proofs.Token.Lines
import Logo.Proofs.Token.Tiling
import Logo.Proofs.Program.Spacing
import Logo.Proofs.Program.Continuation
import Logo.Proofs.Canvas.AtRest
import Logo.Proofs.Animation.Ledger
import Logo.Proofs.Animation.Cancel
import Logo.Proofs.Animation.Tick
import Logo.Proofs.Picture.Flood
import Logo.Proofs.Number.Order
import Logo.Proofs.Number.Sum
import Logo.Proofs.Animation.Timers
import Logo.Proofs.Animation.Completion
import Logo.Proofs.Canvas.Motion
import Logo.Proofs.Picture.Rectangle
import Logo.Proofs.Canvas.Reversing
import Logo.Proofs.Session.Schedule
import Logo.Proofs.Session.Restart
import Logo.Proofs.Program.Chains
import Logo.Proofs.Program.Calls
import Logo.Proofs.Turtle
import Logo.Proofs.Number.Reading
import Logo.Proofs.Number.Folding
import Logo.Proofs.Machine.Equality
import Logo.Proofs.Program.Paths
import Logo.Proofs.Report
import Logo.Proofs.Program.Room
