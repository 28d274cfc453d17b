import Termloop.AgentRuntime.PasteRace
import Termloop.Terminal.LaunchRace
import Termloop.Core.RestoreTask
import Termloop.Store.ParkedSessions
import Termloop.Server.GatePermits
import Termloop.Client.InputReceipts
import Termloop.Core.ReplyAuthority
import Termloop.Core.TrackerQuiet
import Termloop.Core.ReportRuns
import Termloop.Client.ReplayBuffer
import Termloop.Server.AttachIsolation
import Termloop.Server.OutboundRuns
import Termloop.Server.ResizeRegistry
import Termloop.Server.AccessWithdrawal
import Termloop.Store.AllOrNothing
import Termloop.Store.Generations
import Termloop.Store.ReadinessMirror
import Termloop.Store.ConfigurationVersions
import Termloop.Core.ReviewBarrier
import Termloop.Core.PlaybookProgress
import Termloop.Store.SetupMarks
import Termloop.Client.ReplayContinuity
import Termloop.Client.GatewayDelivery
import Termloop.Server.ResumeFairness
import Termloop.Terminal.KittyKeyboard
import Termloop.Core.TranscriptPages
import Termloop.Terminal.ShellHistory
import Termloop.AgentRuntime.InputQueue
import Termloop.Terminal.MarkerMatch
import Termloop.Terminal.SpawnGrids
