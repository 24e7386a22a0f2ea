import GameNight.Number.Double
import GameNight.Text.Character
import GameNight.Text.Quoted
import GameNight.Number.Decimal
import GameNight.Field
import GameNight.Number.Written
import GameNight.Game
import GameNight.Program
import GameNight.Text.Line
import GameNight.Files
import GameNight.Json
import GameNight.Messages.Ability
import GameNight.Messages.Repertoire
import GameNight.Messages.Argument
import GameNight.Messages.Template
import GameNight.Messages.Catalogue
import GameNight.Table
import GameNight.Catalogue
import GameNight.Clause
import GameNight.Planner
import GameNight.Shortlist
import GameNight.Console
import GameNight.Journal
import GameNight.Settings
import GameNight.Launch
import GameNight.Main
import GameNight.Proofs.Text.Lines
import GameNight.Proofs.Table.Rows
import GameNight.Proofs.Catalogue.Entries
import GameNight.Proofs.Text.Letters
import GameNight.Proofs.Table.Cells
import GameNight.Proofs.Catalogue.Columns
import GameNight.Proofs.Files.Directories
import GameNight.Proofs.Files.Writing
import GameNight.Proofs.Clause.Grammar
import GameNight.Proofs.Number.Range
import GameNight.Proofs.Game.Order
import GameNight.Proofs.Json.Content
import GameNight.Proofs.Messages.Paths
import GameNight.Proofs.Messages.Loading
import GameNight.Proofs.Messages.Fallback
import GameNight.Proofs.Number.Reading
import GameNight.Proofs.Messages.Segments
import GameNight.Proofs.Catalogue.Loading
import GameNight.Proofs.Planner.Collapsing
import GameNight.Proofs.Planner.History
import GameNight.Proofs.Planner.Failure
import GameNight.Proofs.Clause.Evaluation
import GameNight.Proofs.Shortlist.History
import GameNight.Proofs.Console.Lines
import GameNight.Proofs.Number.Whole
import GameNight.Proofs.Text.Words
import GameNight.Proofs.Number.Printed
import GameNight.Proofs.Game.Shown
import GameNight.Proofs.Shortlist.Selection
import GameNight.Proofs.Shortlist.Adding
import GameNight.Proofs.Console.Numbering
import GameNight.Proofs.Shortlist.Refusal
import GameNight.Proofs.Console.Faults
import GameNight.Proofs.Console.Frame
import GameNight.Proofs.Console.Sessions
import GameNight.Proofs.Console.SortClause
import GameNight.Proofs.Console.Sorting
import GameNight.Proofs.Journal.Sessions
import GameNight.Proofs.Messages.Merging
import GameNight.Proofs.Messages.Unfit
import GameNight.Proofs.Messages.Stumbling
import GameNight.Proofs.Planner.Comparisons
import GameNight.Proofs.Settings.File
import GameNight.Proofs.Shortlist.Saving
