import Tactician.Analysis.Classify
import Tactician.Analysis.Evaluation
import Tactician.Analysis.Evaluator
import Tactician.Analysis.Extract
import Tactician.Analysis.Puzzle
import Tactician.Analysis.Report
import Tactician.Analysis.Table
import Tactician.Chess.Basic
import Tactician.Chess.Board
import Tactician.Chess.Fen
import Tactician.Chess.Legal
import Tactician.Chess.Outcome
import Tactician.Chess.Position
import Tactician.Chess.San
import Tactician.Chess.Uci
import Tactician.Command.Adapter
import Tactician.Command.Arguments
import Tactician.Command.Miner
import Tactician.Command.Table
import Tactician.Data.Json
import Tactician.Data.Prefix
import Tactician.Data.Show
import Tactician.Data.Value
import Tactician.Engine.Host
import Tactician.Engine.Info
import Tactician.Engine.Pool
import Tactician.Engine.Scripted
import Tactician.Engine.Search
import Tactician.Main
import Tactician.Number.Binary
import Tactician.Number.Fixed
import Tactician.Number.Shortest
import Tactician.Number.Significant
import Tactician.Openings.Book
import Tactician.Pgn.Export
import Tactician.Pgn.Game
import Tactician.Pgn.Reader
import Tactician.Pgn.Token
import Tactician.Proofs.Chess.PositionKey
import Tactician.Proofs.Engine.Cache
import Tactician.Proofs.Engine.Snapshots
import Tactician.Proofs.Mining.AcceptedMoves
import Tactician.Proofs.Mining.Candidate
import Tactician.Proofs.Mining.Classification
import Tactician.Proofs.Mining.Decomposition
import Tactician.Proofs.Mining.Evaluations
import Tactician.Proofs.Mining.Framing
import Tactician.Proofs.Mining.Grading
import Tactician.Proofs.Mining.LegalPrefix
import Tactician.Proofs.Mining.NormalForm
import Tactician.Proofs.Mining.Pipeline
import Tactician.Proofs.Mining.Selection
import Tactician.Proofs.Mining.SolutionLine
import Tactician.Proofs.Mining.Thresholds
import Tactician.Proofs.Openings.Matching
import Tactician.Proofs.Server.Trimming
import Tactician.Proofs.Settings.Preferences
import Tactician.Proofs.Store.Columns
import Tactician.Proofs.Store.Filters
import Tactician.Proofs.Store.Identifiers
import Tactician.Proofs.Store.Ingest
import Tactician.Proofs.Store.Isolation
import Tactician.Proofs.Store.Progress
import Tactician.Proofs.Store.Reachable
import Tactician.Proofs.Store.Reingest
import Tactician.Proofs.Store.Replace
import Tactician.Proofs.Store.RoundTrip
import Tactician.Proofs.Store.Steps
import Tactician.Proofs.Text.NormalForms
import Tactician.Proofs.Training.Statistics
import Tactician.Server.Response
import Tactician.Server.Tools
import Tactician.Settings.Basic
import Tactician.Settings.Preferences
import Tactician.Store.Basic
import Tactician.Store.Practice
import Tactician.Store.Query
import Tactician.Store.Record
import Tactician.Store.Row
import Tactician.Store.Stamp
import Tactician.Store.Sync
import Tactician.Tactics.Line
import Tactician.Tactics.Motif
import Tactician.Text.Blank
import Tactician.Text.Case
import Tactician.Text.Numeral
import Tactician.Text.Quoted
import Tactician.Training.Attempt
