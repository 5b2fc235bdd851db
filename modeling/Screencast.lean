import Screencast.Audio.Basic
import Screencast.Audio.Encoding
import Screencast.Audio.Recording
import Screencast.Audio.Session
import Screencast.Binary32.Basic
import Screencast.Binary32.Decimal
import Screencast.Binary32.Fraction16
import Screencast.Bytes
import Screencast.Capture.Clock
import Screencast.Capture.Scripted
import Screencast.Capture.Source
import Screencast.Capture.Synthetic
import Screencast.Config.File
import Screencast.Config.Form
import Screencast.Config.Settings
import Screencast.Control.Decoding
import Screencast.Control.Handling
import Screencast.Control.Message
import Screencast.Control.Outbox
import Screencast.Control.Session
import Screencast.Control.Wire
import Screencast.Control.Writer
import Screencast.Device.Basic
import Screencast.Device.Geometry
import Screencast.Device.Input
import Screencast.Device.Platform
import Screencast.Encoder.Bridge
import Screencast.Encoder.Format
import Screencast.Encoder.Host
import Screencast.Encoder.Listening
import Screencast.Encoder.Scripted
import Screencast.Encoder.Synthetic
import Screencast.Error
import Screencast.Geometry.Basic
import Screencast.Geometry.Position
import Screencast.Geometry.ScreenLayout
import Screencast.Geometry.VideoSize
import Screencast.Main
import Screencast.Options.Basic
import Screencast.Options.Codec
import Screencast.Options.CodecOption
import Screencast.Queue
import Screencast.Record.Call
import Screencast.Record.Failure
import Screencast.Record.Geometry
import Screencast.Record.Message
import Screencast.Record.Options
import Screencast.Record.Reading
import Screencast.Record.Script
import Screencast.Record.Value
import Screencast.Scheduling
import Screencast.Session.Basic
import Screencast.Session.Endpoint
import Screencast.Session.Line
import Screencast.Session.Supervisor
import Screencast.Session.Synthetic
import Screencast.Session.Worker
import Screencast.Stream.Adts
import Screencast.Stream.Channel
import Screencast.Stream.Framer
import Screencast.Stream.NameField
import Screencast.Stream.Packet
import Screencast.Stream.Sink
import Screencast.Stream.Transfer
import Screencast.Text.Blank
import Screencast.Text.Decimal
import Screencast.Text.Fields
import Screencast.Text.Integer
import Screencast.Text.Truncate
import Screencast.Toml.Document
import Screencast.Toml.Printer
import Screencast.Toml.Quoted
import Screencast.Toml.Scalar
import Screencast.Toml.Scan
import Screencast.Toml.Tree
import Screencast.Video.Fallback
import Screencast.Video.Session
import Screencast.Proofs.Bytes
import Screencast.Proofs.Scheduling
import Screencast.Proofs.Binary32.Fraction16
import Screencast.Proofs.Control.Draining
import Screencast.Proofs.Control.Framing
import Screencast.Proofs.Text.Truncate
import Screencast.Proofs.Control.Frame
import Screencast.Proofs.Control.Grammar
import Screencast.Proofs.Control.RoundTrip
import Screencast.Proofs.Control.Chunking
import Screencast.Proofs.Control.Outbox
import Screencast.Proofs.Control.Writer
import Screencast.Proofs.Control.Posting
import Screencast.Proofs.Control.Halting
import Screencast.Proofs.Control.Serving
import Screencast.Proofs.Control.Reading
import Screencast.Proofs.Stream.Open
import Screencast.Proofs.Stream.Playback
import Screencast.Proofs.Geometry.VideoSize
import Screencast.Proofs.Geometry.Turning
import Screencast.Proofs.Device.Layout
import Screencast.Proofs.Device.Pointing
import Screencast.Proofs.Encoder.Format
import Screencast.Proofs.Stream.Transfer
import Screencast.Proofs.Stream.Frames
import Screencast.Proofs.Video.Outline
import Screencast.Proofs.Video.Refinement
import Screencast.Proofs.Video.Run
import Screencast.Proofs.Video.Resources
import Screencast.Proofs.Video.Fallback
import Screencast.Proofs.Video.Delivery
import Screencast.Proofs.Video.Stream
import Screencast.Proofs.Control.Answers
import Screencast.Proofs.Control.Portions
import Screencast.Proofs.Video.Rotation
import Screencast.Proofs.Session.Stopping
import Screencast.Proofs.Audio.Outline
import Screencast.Proofs.Audio.Refinement
import Screencast.Proofs.Encoder.Creation
import Screencast.Proofs.Encoder.Listening
import Screencast.Proofs.Audio.Run
import Screencast.Proofs.Audio.Resources
import Screencast.Proofs.Capture.Clock
import Screencast.Proofs.Audio.Stream
import Screencast.Proofs.Audio.Order
import Screencast.Proofs.Audio.Pipeline
import Screencast.Proofs.Audio.Waiting
import Screencast.Proofs.Audio.Recording
import Screencast.Proofs.Device.Watching
import Screencast.Proofs.Session.Opening
import Screencast.Proofs.Session.Supervision
import Screencast.Proofs.Session.Run
import Screencast.Proofs.Session.Verdict
import Screencast.Proofs.Stream.Adts
import Screencast.Proofs.Queue
import Screencast.Proofs.Encoder.Bridge
import Screencast.Proofs.Video.Limit
import Screencast.Proofs.Stream.Announcement
import Screencast.Proofs.Audio.Announcement
import Screencast.Proofs.Video.Announcement
import Screencast.Proofs.Session.Announcement
import Screencast.Proofs.Device.Landing
import Screencast.Proofs.Control.Appending
import Screencast.Proofs.Stream.Shortage
import Screencast.Proofs.Geometry.Scaling
import Screencast.Proofs.Device.Orientation
import Screencast.Proofs.Stream.Opening
import Screencast.Proofs.Encoder.Lending
import Screencast.Proofs.Video.Lending
import Screencast.Proofs.Video.Returning
import Screencast.Proofs.Audio.Lending
import Screencast.Proofs.Audio.Returning
import Screencast.Proofs.Session.Lending
import Screencast.Proofs.Geometry.Cropping
import Screencast.Proofs.Session.Completion
import Screencast.Proofs.Device.Input
import Screencast.Proofs.Control.Course
import Screencast.Proofs.Control.Gating
import Screencast.Proofs.Control.Autosync
import Screencast.Proofs.Text.Blank
import Screencast.Proofs.Text.Fields
import Screencast.Proofs.Text.Integer
import Screencast.Proofs.Options.Listing
import Screencast.Proofs.Options.Crop
import Screencast.Proofs.Config.Settings
import Screencast.Proofs.Encoder.Entries
import Screencast.Proofs.Text.Boundary
import Screencast.Proofs.Stream.NameField
import Screencast.Proofs.Device.QuarterTurns
import Screencast.Proofs.Service
import Screencast.Proofs.Video.Service
import Screencast.Proofs.Video.Holding
import Screencast.Proofs.Audio.Service
import Screencast.Proofs.Audio.Monitoring
