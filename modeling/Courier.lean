import Courier.Artifact.Basic
import Courier.Artifact.Classify
import Courier.Artifact.Distribution
import Courier.Artifact.Error
import Courier.Artifact.FileName
import Courier.Decimal.Double
import Courier.Decimal.Shortest
import Courier.FileTree.Basic
import Courier.FileTree.Lookup
import Courier.FileTree.Walk
import Courier.Http.Message
import Courier.Http.Script
import Courier.Http.Session
import Courier.Http.Wire
import Courier.Json.Basic
import Courier.Json.Number
import Courier.Json.Token
import Courier.Json.Tree
import Courier.Link.Address
import Courier.Link.Arrival
import Courier.Link.Connection
import Courier.Link.Conversation
import Courier.Link.Fault
import Courier.Link.Peer
import Courier.Link.Sink
import Courier.Listing
import Courier.Main
import Courier.Packet.Basic
import Courier.Packet.Decoder
import Courier.Packet.Error
import Courier.Packet.Frame
import Courier.Program.Arguments
import Courier.Program.Packages
import Courier.Program.PeerClient
import Courier.Proofs.Artifact.Detection
import Courier.Proofs.Artifact.Grammar
import Courier.Proofs.Artifact.Names
import Courier.Proofs.Artifact.RpmGrammar
import Courier.Proofs.FileTree.Collection
import Courier.Proofs.Http.Exchanges
import Courier.Proofs.Link.Capacity
import Courier.Proofs.Link.Console
import Courier.Proofs.Link.Deeds
import Courier.Proofs.Link.Endurance
import Courier.Proofs.Link.Reading
import Courier.Proofs.Link.Receiving
import Courier.Proofs.Link.Sending
import Courier.Proofs.Link.Story
import Courier.Proofs.Link.Writing
import Courier.Proofs.Packet.Accounting
import Courier.Proofs.Packet.Agreement
import Courier.Proofs.Packet.Damage
import Courier.Proofs.Packet.Drain
import Courier.Proofs.Packet.Frame
import Courier.Proofs.Packet.Segmentation
import Courier.Proofs.Packet.Stream
import Courier.Proofs.Packet.Verdict
import Courier.Proofs.Program.Classifying
import Courier.Proofs.Program.Credentials
import Courier.Proofs.Program.Lines
import Courier.Proofs.Publishing.Addressing
import Courier.Proofs.Publishing.ContentAddress
import Courier.Proofs.Publishing.Managed
import Courier.Proofs.Publishing.Partition
import Courier.Proofs.Publishing.Protocol
import Courier.Proofs.Publishing.Pruning
import Courier.Proofs.Publishing.Rerun
import Courier.Proofs.Publishing.Resumption
import Courier.Proofs.Publishing.Steps
import Courier.Proofs.Retention.KeyOrder
import Courier.Proofs.Retention.Lines
import Courier.Proofs.Retention.Selection
import Courier.Proofs.Retention.Stability
import Courier.Proofs.Retention.VersionOrder
import Courier.Proofs.Settings.Document
import Courier.Proofs.Settings.Layers
import Courier.Proofs.Url.Written
import Courier.Proofs.Version.NormalForm
import Courier.Proofs.Version.Series
import Courier.Publishing.Client
import Courier.Publishing.Error
import Courier.Publishing.Plan
import Courier.Publishing.Prune
import Courier.Publishing.Publish
import Courier.Report
import Courier.Repository
import Courier.Retention.Key
import Courier.Retention.Plan
import Courier.Settings.Basic
import Courier.Settings.Document
import Courier.Settings.Load
import Courier.Text.Base64
import Courier.Text.Blank
import Courier.Text.Cut
import Courier.Text.Numeral
import Courier.Text.Utf8
import Courier.Time.Date
import Courier.Time.Timestamp
import Courier.Unicode.CombiningClass
import Courier.Unicode.Composite
import Courier.Unicode.Direction
import Courier.Unicode.Joining
import Courier.Unicode.Mark
import Courier.Unicode.Normal
import Courier.Unicode.Table
import Courier.Url.Basic
import Courier.Url.Folding
import Courier.Url.Host
import Courier.Url.Label
import Courier.Url.Parse
import Courier.Url.Percent
import Courier.Url.Punycode
import Courier.Url.Segments
import Courier.Version
import Courier.Yaml.Lexer
import Courier.Yaml.Node
import Courier.Yaml.Scalar
import Courier.Yaml.Spot
import Courier.Yaml.Token
