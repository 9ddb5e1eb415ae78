import F4MP.Library.Wire
import F4MP.Library.SoftFloat
import F4MP.Library.Rational
import F4MP.Library.Slots
import F4MP.Library.Transition
import F4MP.Library.Search
import F4MP.Library.Maximum
import F4MP.Library.Grouping
import F4MP.Library.Circular
import F4MP.Library.Cursor
import F4MP.Library.X64
import F4MP.Protocol.Types
import F4MP.Protocol.Packet
import F4MP.Protocol.Codec
import F4MP.Protocol.RoundTrip
import F4MP.Protocol.Framing
import F4MP.Protocol.Extent
import F4MP.Protocol.Bounds
import F4MP.Service.State
import F4MP.Service.Store
import F4MP.Service.Policy
import F4MP.Service.Authority
import F4MP.Service.Transport
import F4MP.Service.HostMirror
import F4MP.Service.Run
import F4MP.Service.Post
import F4MP.Service.Broadcast
import F4MP.Service.Outcome
import F4MP.Service.Tick
import F4MP.Service.Network
import F4MP.Service.Rejection
import F4MP.Service.Roster
import F4MP.Service.ProfilePath
import F4MP.Service.WorkshopWhitelist
import F4MP.Service.ProfileJson
import F4MP.Service.Identity
import F4MP.Service.Retransmission
import F4MP.Service.Attribution
import F4MP.Service.Settlements
import F4MP.Service.Placement
import F4MP.Service.Aim
import F4MP.Service.Alignment
import F4MP.Service.Isolation
import F4MP.Service.Restart
import F4MP.Service.Relay
import F4MP.Service.RelayOrder
import F4MP.Service.Snapshot
import F4MP.Service.Casualties
import F4MP.Service.MainLoop
import F4MP.Service.Timeouts
import F4MP.Service.Headcount
import F4MP.Service.Endpoints
import F4MP.Client.ProxyRuntime
import F4MP.Client.RemoteProxy
import F4MP.Client.Apply
import F4MP.System.Framing
import F4MP.System.Mirror
import F4MP.System.ObjectMirror
import F4MP.Service.Discipline
import F4MP.Service.Combat
import F4MP.Service.Victim
import F4MP.Service.Selection
import F4MP.Service.Activity
import F4MP.Service.Quest
import F4MP.Service.QuestProgress
import F4MP.Client.ActorProxy
import F4MP.System.ActorMirror
import F4MP.Library.Delivery
import F4MP.System.Stream
import F4MP.Client.PlayerProxy
import F4MP.Client.SequenceFilter
import F4MP.Client.EngineBridge
import F4MP.Client.PlayerHook
import F4MP.Client.PatchPlan
import F4MP.Client.Trampoline
import F4MP.Client.ProbeHarvest
import F4MP.Client.LiveClient
import F4MP.Client.Handshake
import F4MP.Client.ActorDriver
import F4MP.Client.SceneBackend
import F4MP.Client.SceneAgreement
import F4MP.Client.SceneInterpolation
import F4MP.Client.MovementSync
import F4MP.Client.MovementCadence
import F4MP.Client.LiveProvider
import F4MP.System.Resurrection
import F4MP.System.Ghost
import F4MP.System.PlayerMirror
import F4MP.System.DialogueMirror
import F4MP.System.MirrorDelivery
import F4MP.System.Numbering
import F4MP.System.Acceptance
import F4MP.Library.Machine
import F4MP.Client.PatchRealization
import F4MP.System.QuestMirror
import F4MP.Library.Serial
import F4MP.Service.NetIds
import F4MP.System.Join
import F4MP.Client.LocalPlayer
import F4MP.Service.PlayerNews
import F4MP.System.Movement
import F4MP.Library.Lines
import F4MP.Client.LiveConfig
import F4MP.Client.LiveTransport
import F4MP.Client.HookDiscovery
import F4MP.Client.HookInstall
import F4MP.Client.HookPath
