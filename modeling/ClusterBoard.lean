import ClusterBoard.Board.NodeTable
import ClusterBoard.Board.Pager
import ClusterBoard.Calendar
import ClusterBoard.CommandLine.Run
import ClusterBoard.Console.EventLoop
import ClusterBoard.Console.Session
import ClusterBoard.Console.Turns
import ClusterBoard.Console.View.Screen
import ClusterBoard.Json.Printer
import ClusterBoard.Json.Reader
import ClusterBoard.Main
import ClusterBoard.Page.Document
import ClusterBoard.Record.Collection
import ClusterBoard.Report
import ClusterBoard.Settings.Load
import ClusterBoard.Terminal.Listing
import ClusterBoard.Proofs.Json.Fields
import ClusterBoard.Proofs.Json.Numerals
import ClusterBoard.Proofs.Json.Literals
import ClusterBoard.Proofs.Json.OneLine
import ClusterBoard.Proofs.Text.Numbers
import ClusterBoard.Proofs.Text.Pieces
import ClusterBoard.Proofs.Text.SingleLine
import ClusterBoard.Proofs.Text.HeadLines
import ClusterBoard.Proofs.Record.Decoding
import ClusterBoard.Proofs.Record.JobTable
import ClusterBoard.Proofs.Record.Lookups
import ClusterBoard.Proofs.Record.NodeStatus
import ClusterBoard.Proofs.Board.Grouping
import ClusterBoard.Proofs.Board.Navigation
import ClusterBoard.Proofs.Board.UserRing
import ClusterBoard.Proofs.Board.Paging
import ClusterBoard.Proofs.Board.PagerRuns
import ClusterBoard.Proofs.Board.Refreshing
import ClusterBoard.Proofs.Board.PageMoves
import ClusterBoard.Proofs.Settings.Modes
import ClusterBoard.Proofs.Settings.Overrides
import ClusterBoard.Proofs.Web.Replies
import ClusterBoard.Proofs.Web.Percent
import ClusterBoard.Proofs.Page.ErrorRegion
import ClusterBoard.Proofs.Page.Escaping
import ClusterBoard.Proofs.Page.Structure
import ClusterBoard.Proofs.Page.Placeholders
import ClusterBoard.Proofs.Terminal.PageHints
import ClusterBoard.Proofs.Polling
import ClusterBoard.Proofs.Console.Runs
import ClusterBoard.Proofs.Console.Details
import ClusterBoard.Proofs.Console.Redraw
import ClusterBoard.Proofs.Console.Toggles
import ClusterBoard.Proofs.Console.FirstRow
import ClusterBoard.Proofs.Console.Fetching
import ClusterBoard.Proofs.Console.Failures
import ClusterBoard.Proofs.Console.FullQueue
import ClusterBoard.Proofs.Console.LoopInvariants
import ClusterBoard.Proofs.Console.Turns
import ClusterBoard.Proofs.Console.Scrolling
import ClusterBoard.Proofs.Console.RowHeights
import ClusterBoard.Proofs.Web.Paths
import ClusterBoard.Proofs.Web.Addresses
import ClusterBoard.Proofs.Web.Lookups
import ClusterBoard.Proofs.Web.Links
import ClusterBoard.Proofs.Web.RankLinks
import ClusterBoard.Proofs.Web.DistinctLinks
import ClusterBoard.Proofs.Web.Origins
import ClusterBoard.Proofs.Web.Listings
