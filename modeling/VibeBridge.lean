import VibeBridge.Service
import VibeBridge.Server
import VibeBridge.Exchange
import VibeBridge.Flushing
import VibeBridge.Announcements
import VibeBridge.Decisions
import VibeBridge.Interleavings
import VibeBridge.Failures
import VibeBridge.Coherence
import VibeBridge.Dict
import VibeBridge.Python.HidProtocol
import VibeBridge.Python.SessionManager
import VibeBridge.Python.Vt100Router
import VibeBridge.Python.Acts
import VibeBridge.Python.Windows
import VibeBridge.Python.Replay
import VibeBridge.Python.Owners
import VibeBridge.Python.Requests
import VibeBridge.Python.PluginClient
import VibeBridge.Python.Grants
import VibeBridge.Python.Plugins
import VibeBridge.Framing
import VibeBridge.Screens
import VibeBridge.Codec
import VibeBridge.Python.Codec
import VibeBridge.Python.MockHid
import VibeBridge.Json
import VibeBridge.Transcripts
import VibeBridge.Lines
import VibeBridge.Poller
import VibeBridge.PollFailures
import VibeBridge.Ingestion
import VibeBridge.PayloadSizes
import VibeBridge.Python.SessionPool
import VibeBridge.Base64
import VibeBridge.TerminalProfiles
import VibeBridge.Uninstall
import VibeBridge.Restoration
import VibeBridge.Python.LcdText
import VibeBridge.Python.LcdOutputAdapter
import VibeBridge.Python.LcdLines
import VibeBridge.Python.LcdColors
import VibeBridge.Python.LcdPieces
import VibeBridge.Python.LcdChunks
import VibeBridge.Python.LcdStreams
import VibeBridge.Mirroring
import VibeBridge.Records
import VibeBridge.StreamSources
import VibeBridge.Conservation
import VibeBridge.Reregistrations
import VibeBridge.Pruning
import VibeBridge.Truncation
import VibeBridge.Allocation
import VibeBridge.Discovery
import VibeBridge.ActiveSlots
import VibeBridge.TitleCounts
import VibeBridge.Suffixes
import VibeBridge.Python.Vt100Buffers
import VibeBridge.Python.Threads
import VibeBridge.Python.Answers
import VibeBridge.Python.AnswerCounts
import VibeBridge.Python.Reader
import VibeBridge.Python.SgrAttributes
import VibeBridge.Python.LcdBlocks
import VibeBridge.Extraction
import VibeBridge.CommandLines
import VibeBridge.TerminalShim
import VibeBridge.Utf16
import VibeBridge.ConPty
import VibeBridge.Slices
import VibeBridge.Jsonc
import VibeBridge.Comments
import VibeBridge.Base64Texts
import VibeBridge.Hexadecimal
import VibeBridge.Python.Forwarder
import VibeBridge.Python.GruvboxTheme
import VibeBridge.Python.SurrogateEscape
import VibeBridge.Python.SendMarkdown
import VibeBridge.Python.MarkdownBytes
import VibeBridge.Python.MarkdownRendering
import VibeBridge.Python.KittyMarkdown
import VibeBridge.Python.BoardActions
import VibeBridge.WslEntry
import VibeBridge.Python.AgentScanner
import VibeBridge.Python.Reports
import VibeBridge.Launched
