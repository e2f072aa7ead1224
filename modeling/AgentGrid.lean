import AgentGrid.Attach.Ending
import AgentGrid.Bridge.Shim
import AgentGrid.Codex.Calls
import AgentGrid.Codex.Opacity
import AgentGrid.Gateway.Client
import AgentGrid.Gateway.Outlet
import AgentGrid.Gateway.Saves
import AgentGrid.Gateway.Typing
import AgentGrid.Gateway.Viewers
import AgentGrid.Gateway.Workspace
import AgentGrid.Host.Heads
import AgentGrid.Host.HeldReplies
import AgentGrid.Host.Intake
import AgentGrid.Host.Jobs
import AgentGrid.Host.Persist
import AgentGrid.Host.Spawns
import AgentGrid.Host.Total
import AgentGrid.Host.Watcher
import AgentGrid.Launch.Environ
import AgentGrid.Launch.Tokens
import AgentGrid.Messaging.Replay
import AgentGrid.Orchestrator.Backoff
import AgentGrid.Orchestrator.Prepared
import AgentGrid.Orchestrator.Slots
import AgentGrid.Preparation.Durable
import AgentGrid.Preparation.Queue
import AgentGrid.Preparation.Reconcile
import AgentGrid.Proto.Codec
import AgentGrid.Stream.Reaping
import AgentGrid.Stream.Requests
import AgentGrid.Stream.Slot
import AgentGrid.Stream.Status
import AgentGrid.Terminal.Desire
import AgentGrid.Terminal.Following
import AgentGrid.Termvt.Replies
import AgentGrid.Termvt.Session
import AgentGrid.Termvt.Tap
import AgentGrid.Transcript.Tracker
import AgentGrid.Webhost.Fleet
import AgentGrid.Wslhost.Evidence
import AgentGrid.Wslhost.Serving
import AgentGrid.Wslhost.Timers
