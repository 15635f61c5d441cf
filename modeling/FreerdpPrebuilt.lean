import FreerdpPrebuilt.Audio.Device
import FreerdpPrebuilt.Lib.Machine
import FreerdpPrebuilt.Audio.Claim
import FreerdpPrebuilt.Audio.Sink
import FreerdpPrebuilt.Session.Command
import FreerdpPrebuilt.Session.Thread
import FreerdpPrebuilt.Session.Lifetime
import FreerdpPrebuilt.Session.Interleave
import FreerdpPrebuilt.Resize.Route
import FreerdpPrebuilt.Resize.Order
import FreerdpPrebuilt.Resize.Debounce
import FreerdpPrebuilt.Resize.Density
import FreerdpPrebuilt.Resize.Serials
import FreerdpPrebuilt.Camera.Endpoint
import FreerdpPrebuilt.Camera.System
import FreerdpPrebuilt.Camera.Stream
import FreerdpPrebuilt.Camera.Frame
import FreerdpPrebuilt.Lib.Meter
import FreerdpPrebuilt.Lib.History
import FreerdpPrebuilt.Lib.Mailbox
import FreerdpPrebuilt.Camera.Metering
import FreerdpPrebuilt.Camera.Presence
import FreerdpPrebuilt.Camera.Channels
import FreerdpPrebuilt.Camera.Announce
import FreerdpPrebuilt.Session.Wakeup
import FreerdpPrebuilt.Session.Abort
import FreerdpPrebuilt.Touch.Bridge
import FreerdpPrebuilt.Touch.Suspension
import FreerdpPrebuilt.Lib.Strided
import FreerdpPrebuilt.Framebuffer.Frame
import FreerdpPrebuilt.Framebuffer.Copy
import FreerdpPrebuilt.Clipboard.Channel
import FreerdpPrebuilt.Clipboard.Answers
import FreerdpPrebuilt.Clipboard.Advertise
import FreerdpPrebuilt.Mic.Wire
import FreerdpPrebuilt.Mic.Endpoint
import FreerdpPrebuilt.Mic.Formats
import FreerdpPrebuilt.Mic.Stream
import FreerdpPrebuilt.Desktop.Callbacks
import FreerdpPrebuilt.Desktop.Size
import FreerdpPrebuilt.Desktop.Paint
import FreerdpPrebuilt.Camera.Stored
import FreerdpPrebuilt.Camera.Reconnect
import FreerdpPrebuilt.Camera.Targets
import FreerdpPrebuilt.Camera.Credits
import FreerdpPrebuilt.Camera.Advertised
import FreerdpPrebuilt.Mic.Opening
import FreerdpPrebuilt.Lib.Records
import FreerdpPrebuilt.Mic.Grammar
import FreerdpPrebuilt.Mic.Reply
import FreerdpPrebuilt.Build.Sha256
import FreerdpPrebuilt.Lib.Text
import FreerdpPrebuilt.Build.Manifest
import FreerdpPrebuilt.Camera.Naming
import FreerdpPrebuilt.Camera.StartStreams
import FreerdpPrebuilt.Lib.BitString
import FreerdpPrebuilt.Lib.Fips180
import FreerdpPrebuilt.Build.Digest
import FreerdpPrebuilt.Lib.Ownership
import FreerdpPrebuilt.Dvc.Plugin
import FreerdpPrebuilt.Dvc.Custody
import FreerdpPrebuilt.Desktop.Pointer
import FreerdpPrebuilt.Lib.Ranking
import FreerdpPrebuilt.Session.Shutdown
import FreerdpPrebuilt.Lib.FileTree
import FreerdpPrebuilt.Build.Cache
import FreerdpPrebuilt.Lib.Numerals
import FreerdpPrebuilt.Build.Resolve
import FreerdpPrebuilt.Lib.KeyedLines
import FreerdpPrebuilt.Build.Recorded
import FreerdpPrebuilt.Session.Input
import FreerdpPrebuilt.Session.Interfaces
import FreerdpPrebuilt.Lib.Damage
import FreerdpPrebuilt.Desktop.Frames
import FreerdpPrebuilt.Mic.Heard
import FreerdpPrebuilt.Session.Provider
import FreerdpPrebuilt.Build.Source
import FreerdpPrebuilt.Clipboard.Paste
import FreerdpPrebuilt.Lib.Writes
import FreerdpPrebuilt.Session.Settings
import FreerdpPrebuilt.Session.Outcome
