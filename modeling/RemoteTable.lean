import RemoteTable.Connection.Address
import RemoteTable.Connection.Basic
import RemoteTable.Main
import RemoteTable.Proofs.Connection.Ending
import RemoteTable.Proofs.Connection.Relaying
import RemoteTable.Proofs.Page.Run
import RemoteTable.Proofs.Page.Handling
import RemoteTable.Proofs.Page.Balance
import RemoteTable.Proofs.Page.Demultiplexing
import RemoteTable.Proofs.Table.Placement
import RemoteTable.Proofs.Table.Counting
import RemoteTable.Proofs.Table.Showing
import RemoteTable.Proofs.Session.Sending
import RemoteTable.Proofs.Table.Attribution
import RemoteTable.Proofs.Page.Attribution
import RemoteTable.Proofs.Page.Moves
import RemoteTable.Proofs.Page.Draining
import RemoteTable.Proofs.Page.Termination
import RemoteTable.Proofs.Page.Superseding
import RemoteTable.Proofs.Page.Noninterference
import RemoteTable.Proofs.Page.Cancellation
import RemoteTable.Proofs.Page.RangeResult
import RemoteTable.Proofs.Page.Refusal
import RemoteTable.Proofs.Viewer.Faults
import RemoteTable.Proofs.Number.Grouping
import RemoteTable.Proofs.Number.Significant
import RemoteTable.Proofs.Session.Bars
import RemoteTable.Proofs.Protocol.RoundTrip
import RemoteTable.Proofs.Protocol.Framing
import RemoteTable.Proofs.Page.Frames
import RemoteTable.Proofs.Page.Bootstrap
import RemoteTable.Proofs.Page.Succession
import RemoteTable.Proofs.Page.RangeShown
import RemoteTable.Proofs.Page.RangeOrigin
import RemoteTable.Proofs.Table.Recency
import RemoteTable.Proofs.Table.Completion
import RemoteTable.Proofs.Page.Waiting
import RemoteTable.Proofs.Page.Lineage
import RemoteTable.Proofs.Page.AllRows
import RemoteTable.Proofs.Page.Home
import RemoteTable.Proofs.Page.Observation
import RemoteTable.Proofs.Table.Columns
import RemoteTable.Proofs.Page.Columns
import RemoteTable.Proofs.Page.Headers
import RemoteTable.Proofs.Viewer.Modality
import RemoteTable.Proofs.Viewer.SchemaRequest
import RemoteTable.Proofs.Viewer.Selection
import RemoteTable.Proofs.Screen.Widths
