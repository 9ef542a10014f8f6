import QueryConsole.Config
import QueryConsole.LogFilter
import QueryConsole.Proofs.Config.Loading
import QueryConsole.Proofs.Config.Saving
import QueryConsole.Proofs.Console.ByteBuffer
import QueryConsole.Proofs.Console.DatabaseCycle
import QueryConsole.Proofs.Console.Expansion
import QueryConsole.Proofs.Console.Failures
import QueryConsole.Proofs.Console.Flows
import QueryConsole.Proofs.Console.LastQuestion
import QueryConsole.Proofs.Console.Position
import QueryConsole.Proofs.Console.SelectedSchema
import QueryConsole.Proofs.Console.Session
import QueryConsole.Proofs.Console.TreeLines
import QueryConsole.Proofs.Locale.Language
import QueryConsole.Proofs.Results.CsvExport
import QueryConsole.Proofs.Results.DisplayedTable
import QueryConsole.Proofs.Results.Export
import QueryConsole.Proofs.Results.Label
import QueryConsole.Proofs.Screen.CanvasRows
import QueryConsole.Proofs.Screen.CursorRange
import QueryConsole.Proofs.Screen.Wrap
import QueryConsole.Proofs.Screen.WrapCursor
import QueryConsole.Proofs.Service.DatabaseName
import QueryConsole.Proofs.Service.Endpoint
import QueryConsole.Proofs.Service.Question
import QueryConsole.Proofs.Service.Reply
import QueryConsole.Proofs.Service.Schema
import QueryConsole.Proofs.Text.Truncate
import QueryConsole.Proofs.Workbench.BlankQuestion
import QueryConsole.Proofs.Workbench.Checked
import QueryConsole.Proofs.Workbench.HiddenCause
import QueryConsole.Proofs.Workbench.LateSettlement
import QueryConsole.Proofs.Workbench.Loop
import QueryConsole.Proofs.Workbench.QuestionBox
import QueryConsole.Proofs.Workbench.ShownCell
import QueryConsole.Proofs.Workbench.StatusBar
import QueryConsole.Proofs.Workbench.Submission
import QueryConsole.Proofs.Workbench.TreeCursor
import QueryConsole.Service.Server
import QueryConsole.Text.Truncate
import QueryConsole.Workbench.Loop
