import F4MP.Service.Transport
import F4MP.Client.PlayerProxy
import F4MP.Library.Transition

/-!
# The live client

`plugin_transport_client.c` and `movement_live_client_bridge.c`: a client opens a session, applies one
packet with each tick, and closes the session. Its proxies belong to the process, not to the session.
-/

namespace F4MP.Client
open SoftFloat CFloat Protocol MessageFlags Service Transition

variable {F : Type} [CFloat F] [WireFloat F]

/-! ## Transport client -/

structure PluginTransportClient where
  connected : Bool := false
  sessionId : SessionId := 0
  localPlayerId : PlayerId := 0
  sequence : UInt32 := 0
  tickRate : UInt16 := 0
  heartbeatsSent : UInt32 := 0
  heartbeatsReceived : UInt32 := 0
  lastPongTimeMs : UInt32 := 0
  helloPending : Bool := false
  helloBuildHash : UInt32 := 0
  helloPlayerGuid : Text := []
  helloPlayerName : Text := []
  helloSendCount : UInt32 := 0
  helloRetryCount : UInt32 := 0
  preWelcomePacketCount : UInt32 := 0
  ignoredPreWelcomePacketCount : UInt32 := 0
  pollCount : UInt32 := 0
  lastHelloPollCount : UInt32 := 0
  helloRetryIntervalPolls : UInt32 := 0

/-- What `select` and `st_recv` give a poll. -/
inductive Received where
  | nothing
  | failed
  | datagram (bytes : List UInt8)

/-- What the sockets do during a call: a datagram that may come, and which ones `st_send` takes. -/
structure Sockets where
  received : Received
  stSend : List UInt8 → Bool

def ptcSendOne (sockets : Sockets) (type : MessageType) (flags : UInt16) (body : Body F type)
    (c : PluginTransportClient) : Bool × PluginTransportClient :=
  let sequence := c.sequence + 1
  let c := { c with sequence }
  let ph : PacketHeader := {
    magic := f4mpMagic, version := f4mpVersion, sessionId := c.sessionId, sequence,
    messageCount := 1 }
  let mh : MessageHeader := { type := type.code, flags }
  let headers : Write := do
    encodePacketHeader ph
    encodeMessageHeader mh
  match headers.run (pwInit f4mpMaxPacketSize) with
  | (none, _) => (false, c)
  | (some (), w) =>
      let payloadStart := w.bytes.length
      match (encodeBody type body).run w with
      | (none, _) => (false, c)
      | (some (), w) =>
          let payloadLen := UInt16.ofNat (w.bytes.length - payloadStart)
          (sockets.stSend (patchLength w.bytes payloadLen), c)

section Control
variable (F)

/-- `ptc_send_cached_hello`; both names have to fit `strings[128]`. -/
def ptcSendCachedHello (sockets : Sockets) (isRetry : Bool) (c : PluginTransportClient) :
    Bool × PluginTransportClient :=
  if !c.helloPending then (false, c)
  else if 128 < c.helloPlayerGuid.length + 1 + (c.helloPlayerName.length + 1) then (false, c)
  else
    match ptcSendOne (F := F) sockets .hello (reliable ||| ordered ||| ch0Control)
        (⟨c.helloBuildHash, 0⟩, c.helloPlayerGuid, c.helloPlayerName) c with
    | (false, c) => (false, c)
    | (true, c) =>
        (true, { c with
          helloSendCount := c.helloSendCount + 1
          helloRetryCount := if isRetry then c.helloRetryCount + 1 else c.helloRetryCount
          lastHelloPollCount := c.pollCount })

def ptcMaybeRetryHello (sockets : Sockets) (c : PluginTransportClient) :
    Bool × PluginTransportClient :=
  if c.connected || !c.helloPending then (true, c)
  else if c.helloSendCount = 0 then ptcSendCachedHello F sockets false c
  else if c.pollCount - c.lastHelloPollCount < c.helloRetryIntervalPolls then (true, c)
  else ptcSendCachedHello F sockets true c

/-- `ptc_open`, for a socket that opens and a host that parses or not. -/
def ptcOpen (opens parses : Bool) (port : UInt16) (c : PluginTransportClient) :
    Bool × PluginTransportClient :=
  if port = 0 then (false, c)
  else (opens && parses, { helloRetryIntervalPolls := 4 })

def ptcSendHello (sockets : Sockets) (buildHash : UInt32) (playerGuid playerName : Text)
    (c : PluginTransportClient) : Bool × PluginTransportClient :=
  ptcSendCachedHello F sockets false { c with
    helloBuildHash := buildHash
    helloPlayerGuid := strncpyField 65 playerGuid
    helloPlayerName := strncpyField 65 playerName
    helloPending := true
    connected := false
    localPlayerId := 0 }

def ptcSendPing (sockets : Sockets) (timeMs : UInt32) (c : PluginTransportClient) :
    Bool × PluginTransportClient :=
  match ptcSendOne (F := F) sockets .ping ch0Control ⟨timeMs⟩ c with
  | (false, c) => (false, c)
  | (true, c) => (true, { c with heartbeatsSent := c.heartbeatsSent + 1 })

def ptcSendDisconnect (sockets : Sockets) (reason : UInt8) (c : PluginTransportClient) :
    Bool × PluginTransportClient :=
  ptcSendOne (F := F) sockets .disconnect (reliable ||| ordered ||| ch0Control) ⟨reason⟩ c

end Control

def ptcSendPlayerState (sockets : Sockets) (msg : MsgPlayerState F) (c : PluginTransportClient) :
    Bool × PluginTransportClient :=
  ptcSendOne sockets .playerState ch1World msg c

/-- The cases of the `switch` in `ptc_poll_once`: whether the poll goes on, and if the packet was
applied. A packet that is refused before the WELCOME is passed over. -/
def ptcHandle (bytes : List UInt8) (mh : MessageHeader) (r : PacketReader)
    (c : PluginTransportClient) (shown : ClientState F Unit) :
    Option Bool × PluginTransportClient × ClientState F Unit :=
  match MessageType.ofCode? mh.type with
  | some .welcome =>
      match (decodeBody receiveCaps .welcome : Read (Body F .welcome)).run r with
      | (none, _) => (none, c, shown)
      | (some w, _) =>
          (some false, { c with
            connected := true
            helloPending := false
            localPlayerId := w.playerId
            tickRate := w.tickRate }, shown)
  | some .pong =>
      match (decodeBody receiveCaps .pong : Read (Body F .pong)).run r with
      | (none, _) => (none, c, shown)
      | (some p, _) =>
          (some false, { c with
            heartbeatsReceived := c.heartbeatsReceived + 1
            lastPongTimeMs := p.timeMs }, shown)
  | _ =>
      let c := if c.connected then c
        else { c with preWelcomePacketCount := c.preWelcomePacketCount + 1 }
      match pluginApplyPacket defaultBackend bytes shown with
      | (true, shown) => (some true, c, shown)
      | (false, shown) =>
          if c.connected then (none, c, shown)
          else
            (some false,
              { c with ignoredPreWelcomePacketCount := c.ignoredPreWelcomePacketCount + 1 }, shown)

/-- The end of `ptc_poll_once`: the HELLO may be sent again. -/
def ptcPolled (sockets : Sockets) :
    Option Bool × PluginTransportClient × ClientState F Unit →
      Option Bool × PluginTransportClient × ClientState F Unit
  | (none, c, shown) => (none, c, shown)
  | (some applied, c, shown) =>
      match ptcMaybeRetryHello F sockets c with
      | (false, c) => (none, c, shown)
      | (true, c) => (some applied, c, shown)

/-- `ptc_poll_once`: `none` if it returns `false`, else if it applied a packet. -/
def ptcPollOnce (sockets : Sockets) (c : PluginTransportClient) (shown : ClientState F Unit) :
    Option Bool × PluginTransportClient × ClientState F Unit :=
  let c := { c with pollCount := c.pollCount + 1 }
  match sockets.received with
  | .nothing => ptcPolled sockets (some false, c, shown)
  | .failed => (none, c, shown)
  | .datagram bytes =>
      match openPacket bytes with
      | none => (none, c, shown)
      | some (ph, mh, r) =>
          ptcPolled sockets (ptcHandle bytes mh r { c with sessionId := ph.sessionId } shown)

/-! ## Bridge -/

structure MovementLiveClientBridge where
  client : PluginTransportClient := {}
  joined : Bool := false
  tickCounter : UInt32 := 0
  heartbeatIntervalTicks : UInt32 := 0
  autoStepRemoteBackend : Bool := false
  ownsRemoteBackend : Bool := false
  remoteBackendStepCount : UInt32 := 0

def mlcbInit : MovementLiveClientBridge where
  heartbeatIntervalTicks := 10
  autoStepRemoteBackend := true
  ownsRemoteBackend := true
  remoteBackendStepCount := 2

/-- A bridge and what its process shows. -/
structure LiveClient (F : Type) where
  bridge : MovementLiveClientBridge
  shown : ClientState F Unit

/-- A process that has not joined a session: no record is in use, and the update policy is off. -/
def startedProcess : LiveClient F where
  bridge := mlcbInit
  shown := { freshClient 0 () with
    manager := ⟨0, 0, ⟨false, lit 0 1, lit 0 1, lit 0 1⟩⟩ }

def defaultStep (remote : RemotePlayers F Unit) : RemotePlayers F Unit := remote

def mlcbOpen (sockets : Sockets) (opens parses : Bool) (port : UInt16)
    (playerGuid playerName : Text) (buildHash : UInt32) (s : LiveClient F) : Bool × LiveClient F :=
  match ptcOpen opens parses port mlcbInit.client with
  | (false, client) => (false, { s with bridge := { mlcbInit with client } })
  | (true, client) =>
      match ptcSendHello F sockets buildHash playerGuid playerName client with
      | (false, _) => (false, { s with bridge := { mlcbInit with client := {} } })
      | (true, client) => (true, { s with bridge := { mlcbInit with client } })

def mlcbClose (sockets : Sockets) (s : LiveClient F) : LiveClient F :=
  let shown :=
    if s.bridge.client.connected then
      let client := (ptcSendDisconnect F sockets 0 s.bridge.client).2
      (ptcPollOnce sockets client s.shown).2.2
    else s.shown
  { bridge := mlcbInit, shown }

/-- The joining of a bridge whose client is connected: `lpo_init` works on the observer, `rpm_init`
on the remote players. -/
def mlcbJoin (s : LiveClient F) : LiveClient F :=
  if s.bridge.client.connected && !s.bridge.joined then
    { bridge := { s.bridge with joined := true }
      shown := { s.shown with manager := rpmInit s.bridge.client.localPlayerId } }
  else s

/-- The loop over `rpb_step_backend`. -/
def mlcbStepRemoteBackend (s : LiveClient F) : LiveClient F :=
  if s.bridge.autoStepRemoteBackend && s.bridge.ownsRemoteBackend then
    { s with shown := { s.shown with
      remote := (defaultStep)^[s.bridge.remoteBackendStepCount.toNat] s.shown.remote } }
  else s

/-- The heartbeat of a joined bridge. -/
def mlcbHeartbeat (sockets : Sockets) (s : LiveClient F) : Bool × PluginTransportClient :=
  let interval := s.bridge.heartbeatIntervalTicks
  if s.bridge.joined && decide (0 < interval) && s.bridge.tickCounter % interval == 0 then
    ptcSendPing F sockets s.bridge.tickCounter s.bridge.client
  else (true, s.bridge.client)

/-- The report of a joined bridge: what `msb_build_player_state_if_changed` builds. -/
def mlcbReport (sockets : Sockets) (built : Option (MsgPlayerState F)) (s : LiveClient F) :
    Option Bool × PluginTransportClient :=
  match (if s.bridge.joined then built else none) with
  | none => (some false, s.bridge.client)
  | some msg =>
      let sent := ptcSendPlayerState sockets msg s.bridge.client
      (if sent.1 then some true else none, sent.2)

/-- The part of `mlcb_tick` behind the joining. It returns if a state was sent and if a packet was
applied. -/
def mlcbSend (sockets : Sockets) (built : Option (MsgPlayerState F)) (applied : Bool)
    (s : LiveClient F) : Option (Bool × Bool) × LiveClient F :=
  let s := { s with bridge := { s.bridge with tickCounter := s.bridge.tickCounter + 1 } }
  let (pinged, client) := mlcbHeartbeat sockets s
  let s := { s with bridge := { s.bridge with client } }
  if !pinged then (none, s)
  else
    let (sent, client) := mlcbReport sockets built s
    let s := { s with bridge := { s.bridge with client } }
    match sent with
    | none => (none, s)
    | some sent => (some (sent, applied), mlcbStepRemoteBackend s)

def mlcbTick (sockets : Sockets) (built : Option (MsgPlayerState F)) (s : LiveClient F) :
    Option (Bool × Bool) × LiveClient F :=
  match ptcPollOnce sockets s.bridge.client s.shown with
  | (none, client, shown) => (none, { bridge := { s.bridge with client }, shown })
  | (some applied, client, shown) =>
      mlcbSend sockets built applied (mlcbJoin { bridge := { s.bridge with client }, shown })

/-- The calls of a process, each with what the sockets do in it. -/
inductive LiveCall (F : Type) where
  | open (sockets : Sockets) (opens parses : Bool) (port : UInt16) (playerGuid playerName : Text)
      (buildHash : UInt32)
  | tick (sockets : Sockets) (built : Option (MsgPlayerState F))
  | close (sockets : Sockets)

def liveStep (s : LiveClient F) : LiveCall F → LiveClient F
  | .open sockets opens parses port playerGuid playerName buildHash =>
      (mlcbOpen sockets opens parses port playerGuid playerName buildHash s).2
  | .tick sockets built => (mlcbTick sockets built s).2
  | .close sockets => mlcbClose sockets s

/-! ## What a poll does -/

/-- The WELCOME that a poll receives. -/
def welcomeOf (F : Type) [WireFloat F] : Received → Option (Body F .welcome)
  | .datagram bytes => messageOf? .welcome bytes
  | _ => none

/-- What a poll applies. -/
def appliedBy (received : Received) (shown : ClientState F Unit) : ClientState F Unit :=
  match received with
  | .datagram bytes => (pluginApplyPacket defaultBackend bytes shown).2
  | _ => shown

omit [CFloat F] in
theorem ptcSendOne_frame (sockets : Sockets) (type : MessageType) (flags : UInt16)
    (body : Body F type) (c : PluginTransportClient) :
    (ptcSendOne sockets type flags body c).2 = { c with sequence := c.sequence + 1 } := by
  unfold ptcSendOne
  dsimp only
  split
  · rfl
  · split <;> rfl

/-- The fields of a client that say which session it is in. -/
def PluginTransportClient.membership (c : PluginTransportClient) : Bool × PlayerId :=
  (c.connected, c.localPlayerId)

omit [CFloat F] in
theorem ptcSendOne_membership (sockets : Sockets) (type : MessageType) (flags : UInt16)
    (body : Body F type) (c : PluginTransportClient) :
    (ptcSendOne sockets type flags body c).2.membership = c.membership := by
  rw [ptcSendOne_frame]
  rfl

omit [CFloat F] in
theorem ptcSendCachedHello_membership (sockets : Sockets) (isRetry : Bool)
    (c : PluginTransportClient) :
    (ptcSendCachedHello F sockets isRetry c).2.membership = c.membership := by
  unfold ptcSendCachedHello
  split
  · rfl
  · split
    · rfl
    · have kept := ptcSendOne_membership (F := F) sockets .hello (reliable ||| ordered ||| ch0Control)
        (⟨c.helloBuildHash, 0⟩, c.helloPlayerGuid, c.helloPlayerName) c
      split
      · rename_i sent
        rw [sent] at kept
        exact kept
      · rename_i sent
        rw [sent] at kept
        exact kept

omit [CFloat F] in
theorem ptcMaybeRetryHello_membership (sockets : Sockets) (c : PluginTransportClient) :
    (ptcMaybeRetryHello F sockets c).2.membership = c.membership := by
  unfold ptcMaybeRetryHello
  split
  · rfl
  · split
    · exact ptcSendCachedHello_membership sockets false c
    · split
      · rfl
      · exact ptcSendCachedHello_membership sockets true c

omit [CFloat F] in
theorem ptcSendPing_membership (sockets : Sockets) (timeMs : UInt32) (c : PluginTransportClient) :
    (ptcSendPing F sockets timeMs c).2.membership = c.membership := by
  have kept := ptcSendOne_membership (F := F) sockets .ping ch0Control ⟨timeMs⟩ c
  unfold ptcSendPing
  split
  · rename_i sent
    rw [sent] at kept
    exact kept
  · rename_i sent
    rw [sent] at kept
    exact kept

theorem ptcHandle_effect {bytes : List UInt8} {ph : PacketHeader} {mh : MessageHeader}
    {r : PacketReader} (opened : openPacket bytes = some (ph, mh, r)) (c : PluginTransportClient)
    (shown : ClientState F Unit) :
    (ptcHandle bytes mh r c shown).2.2 = (pluginApplyPacket defaultBackend bytes shown).2 ∧
      match (messageOf? .welcome bytes : Option (Body F .welcome)) with
      | some w => (ptcHandle bytes mh r c shown).1 = some false ∧
          (ptcHandle bytes mh r c shown).2.1 = { c with
            connected := true
            helloPending := false
            localPlayerId := w.playerId
            tickRate := w.tickRate }
      | none => (ptcHandle bytes mh r c shown).2.1.membership = c.membership := by
  have welcomes : (messageOf? .welcome bytes : Option (Body F .welcome)) =
      if MessageType.ofCode? mh.type = some .welcome then ((decodeBody receiveCaps .welcome).run r).1
      else none := by
    rw [messageOf?, opened]
  rw [welcomes]
  unfold ptcHandle
  split
  · rename_i known
    rw [pluginApplyPacket_open, opened]
    simp only [known, if_true]
    rcases (decodeBody receiveCaps .welcome : Read (Body F .welcome)).run r with ⟨_ | w, r'⟩
    · exact ⟨rfl, rfl⟩
    · exact ⟨rfl, rfl, rfl⟩
  · rename_i known
    rw [pluginApplyPacket_open, opened]
    simp only [known]
    rcases (decodeBody receiveCaps .pong : Read (Body F .pong)).run r with ⟨_ | p, r'⟩
    · exact ⟨rfl, rfl⟩
    · exact ⟨rfl, rfl⟩
  · rename_i notWelcome notPong
    rw [if_neg notWelcome]
    rcases pluginApplyPacket defaultBackend bytes shown with ⟨_ | _, after⟩
    · cases connected : c.connected <;> simp [PluginTransportClient.membership, connected]
    · cases connected : c.connected <;> simp [PluginTransportClient.membership, connected]

omit [CFloat F] in
theorem ptcPolled_effect (sockets : Sockets)
    (handled : Option Bool × PluginTransportClient × ClientState F Unit) :
    (ptcPolled sockets handled).2.2 = handled.2.2 ∧
      (ptcPolled sockets handled).2.1.membership = handled.2.1.membership ∧
      (handled.2.1.connected = true → (ptcPolled sockets handled).1 = handled.1) := by
  obtain ⟨_ | applied, c, shown⟩ := handled
  · exact ⟨rfl, rfl, fun _ => rfl⟩
  · have kept := ptcMaybeRetryHello_membership (F := F) sockets c
    have idle : c.connected = true → (ptcMaybeRetryHello F sockets c).1 = true := by
      intro connected
      rw [ptcMaybeRetryHello, connected]
      rfl
    simp only [ptcPolled]
    generalize ptcMaybeRetryHello F sockets c = retried at kept idle
    obtain ⟨_ | _, after⟩ := retried
    · exact ⟨rfl, kept, fun connected => Bool.noConfusion (idle connected)⟩
    · exact ⟨rfl, kept, fun _ => rfl⟩

/-- After a poll the client is in the session of the WELCOME that came, or in the one it was in; all
that came was applied. -/
theorem ptcPollOnce_effect (sockets : Sockets) (c : PluginTransportClient)
    (shown : ClientState F Unit) :
    let polled := ptcPollOnce sockets c shown
    polled.2.2 = appliedBy sockets.received shown ∧
      match welcomeOf F sockets.received with
      | some w => polled.1 = some false ∧ polled.2.1.membership = (true, w.playerId)
      | none => polled.2.1.membership = c.membership := by
  intro polled
  simp only [polled, ptcPollOnce, appliedBy, welcomeOf]
  cases sockets.received with
  | nothing =>
      obtain ⟨same, kept, _⟩ := ptcPolled_effect sockets
        (some false, { c with pollCount := c.pollCount + 1 }, shown)
      exact ⟨same, kept⟩
  | failed => exact ⟨rfl, rfl⟩
  | datagram bytes =>
      dsimp only
      cases opened : openPacket bytes with
      | none =>
          rw [pluginApplyPacket_open, messageOf?, opened]
          exact ⟨rfl, rfl⟩
      | some packet =>
          obtain ⟨ph, mh, r⟩ := packet
          obtain ⟨applied, session⟩ := ptcHandle_effect opened
            { c with pollCount := c.pollCount + 1, sessionId := ph.sessionId } shown
          obtain ⟨same, kept, idle⟩ := ptcPolled_effect sockets (ptcHandle bytes mh r
            { c with pollCount := c.pollCount + 1, sessionId := ph.sessionId } shown)
          refine ⟨same.trans applied, ?_⟩
          cases welcome : (messageOf? .welcome bytes : Option (Body F .welcome)) with
          | none =>
              rw [welcome] at session
              exact kept.trans session
          | some w =>
              rw [welcome] at session
              refine ⟨(idle ?_).trans session.1, kept.trans ?_⟩
              · rw [session.2]
              · rw [session.2]
                rfl

/-! ## What a tick does -/

omit [CFloat F] [WireFloat F] in
theorem mlcbStepRemoteBackend_eq (s : LiveClient F) : mlcbStepRemoteBackend s = s := by
  have still (n : Nat) (remote : RemotePlayers F Unit) : (defaultStep)^[n] remote = remote :=
    Function.iterate_fixed rfl n
  unfold mlcbStepRemoteBackend
  split
  · rw [still]
  · rfl

omit [CFloat F] in
theorem mlcbHeartbeat_membership (sockets : Sockets) (s : LiveClient F) :
    (mlcbHeartbeat sockets s).2.membership = s.bridge.client.membership := by
  unfold mlcbHeartbeat
  dsimp only
  split
  · exact ptcSendPing_membership sockets s.bridge.tickCounter s.bridge.client
  · rfl

omit [CFloat F] in
theorem mlcbReport_membership (sockets : Sockets) (built : Option (MsgPlayerState F))
    (s : LiveClient F) :
    (mlcbReport sockets built s).2.membership = s.bridge.client.membership := by
  have sent (msg : MsgPlayerState F) :
      (ptcSendPlayerState sockets msg s.bridge.client).2.membership = s.bridge.client.membership := by
    rw [ptcSendPlayerState]
    exact ptcSendOne_membership sockets .playerState ch1World msg s.bridge.client
  unfold mlcbReport
  split
  · rfl
  · rename_i msg _
    dsimp only
    exact sent msg

omit [CFloat F] in
theorem mlcbSend_frame (sockets : Sockets) (built : Option (MsgPlayerState F)) (applied : Bool)
    (s : LiveClient F) :
    let after := (mlcbSend sockets built applied s).2
    after.shown = s.shown ∧ after.bridge.joined = s.bridge.joined ∧
      after.bridge.client.membership = s.bridge.client.membership := by
  have beat := mlcbHeartbeat_membership sockets
    { s with bridge := { s.bridge with tickCounter := s.bridge.tickCounter + 1 } }
  simp only [mlcbSend, mlcbStepRemoteBackend_eq]
  generalize mlcbHeartbeat sockets
    { s with bridge := { s.bridge with tickCounter := s.bridge.tickCounter + 1 } } = result at beat
  obtain ⟨_ | _, client⟩ := result
  · exact ⟨rfl, rfl, beat⟩
  · have report := mlcbReport_membership sockets built { s with
      bridge := { s.bridge with tickCounter := s.bridge.tickCounter + 1, client } }
    generalize mlcbReport sockets built { s with
      bridge := { s.bridge with tickCounter := s.bridge.tickCounter + 1, client } } = result at report
    obtain ⟨_ | _, client'⟩ := result
    · exact ⟨rfl, rfl, report.trans beat⟩
    · exact ⟨rfl, rfl, report.trans beat⟩

omit [WireFloat F] in
theorem mlcbJoin_frame (s : LiveClient F) : (mlcbJoin s).shown.remote = s.shown.remote ∧
    (mlcbJoin s).bridge.joined = (s.bridge.client.connected || s.bridge.joined) ∧
      (mlcbJoin s).bridge.client = s.bridge.client := by
  unfold mlcbJoin
  cases connected : s.bridge.client.connected <;> cases joined : s.bridge.joined <;>
    simp [joined]

/-- A tick joins the session of the WELCOME that it receives, and stays in it afterwards. -/
theorem mlcbTick_effect (sockets : Sockets) (built : Option (MsgPlayerState F))
    (s : LiveClient F) :
    let after := (mlcbTick sockets built s).2
    after.shown.remote = (appliedBy sockets.received s.shown).remote ∧
      match welcomeOf F sockets.received with
      | some w => after.bridge.joined = true ∧ after.bridge.client.membership = (true, w.playerId)
      | none => after.bridge.client.membership = s.bridge.client.membership ∧
          (s.bridge.joined = s.bridge.client.connected →
            after.bridge.joined = s.bridge.joined) := by
  obtain ⟨shownIs, session⟩ := ptcPollOnce_effect sockets s.bridge.client s.shown
  simp only [mlcbTick]
  generalize ptcPollOnce sockets s.bridge.client s.shown = polled at shownIs session
  obtain ⟨_ | applied, client, shown⟩ := polled
  · refine ⟨congrArg ClientState.remote shownIs, ?_⟩
    cases welcome : welcomeOf F sockets.received with
    | some w =>
        rw [welcome] at session
        cases session.1
    | none =>
        rw [welcome] at session
        exact ⟨session, fun _ => rfl⟩
  · obtain ⟨same, joined, member⟩ := mlcbSend_frame sockets built applied
      (mlcbJoin { bridge := { s.bridge with client }, shown })
    obtain ⟨remote, joins, kept⟩ := mlcbJoin_frame { bridge := { s.bridge with client }, shown }
    refine ⟨?_, ?_⟩
    · rw [same, remote]
      exact congrArg ClientState.remote shownIs
    rw [joined, member, joins, kept]
    cases welcome : welcomeOf F sockets.received with
    | some w =>
        rw [welcome] at session
        have connected : client.connected = true := congrArg Prod.fst session.2
        refine ⟨?_, session.2⟩
        rw [connected, Bool.true_or]
    | none =>
        rw [welcome] at session
        have connected : client.connected = s.bridge.client.connected := congrArg Prod.fst session
        refine ⟨session, fun member => ?_⟩
        rw [connected, member, Bool.or_self]

/-! ## A client's own player -/

/-- The client shows no record of the player that it is itself. -/
def NoSelfProxy (s : LiveClient F) : Prop :=
  s.bridge.joined = true → playerShown s.shown s.bridge.client.localPlayerId = none

/-- What comes with a tick does not show the client's own player: a WELCOME assigns an id that has no
record, and a state of the own id does not find a free record while the manager filters another id. -/
def KeepsApart (s : LiveClient F) : LiveCall F → Prop
  | .tick sockets _ =>
      (∀ w ∈ welcomeOf F sockets.received, playerShown s.shown w.playerId = none) ∧
      (s.bridge.joined = true → ∀ bytes, sockets.received = .datagram bytes →
        ∀ msg ∈ (messageOf? .playerState bytes : Option (Body F .playerState)),
          msg.playerId = s.bridge.client.localPlayerId →
            msg.playerId = 0 ∨ msg.playerId = s.shown.manager.localPlayerId ∨
              ¬ PlayerProxies.HasRoom s.shown.remote.players)
  | _ => True

section Absent
variable {c : ClientState F Unit} {p : PlayerId}

omit [WireFloat F] in
theorem applyMessage_absent (absent : playerShown c p = none) (type : MessageType)
    (body : Body F type) (other : type ≠ .playerState) :
    playerShown (applyMessage defaultBackend type body c).2 p = none := by
  cases type with
  | playerState => exact absurd rfl other
  | playerLeft =>
      simp only [applyMessage, applyPlayerLeft, rpmRemoveRemotePlayer]
      split
      · exact absent
      · rw [playerShown, Slots.lookup_eq_none] at absent
        rw [playerShown, Slots.lookup_eq_none]
        intro record listed live
        rcases Slots.mem_modifyFirst listed with old | ⟨_, _, _, rfl⟩
        · exact absent record old live
        · cases live
  | actorState =>
      simp only [applyMessage, paApplyActorState]
      repeat' split
      all_goals exact absent
  | actorDespawn =>
      simp only [applyMessage, paApplyActorDespawn]
      split <;> exact absent
  | _ => exact absent

omit [WireFloat F] in
theorem applyPlayerState_absent (absent : playerShown c p = none) (msg : MsgPlayerState F) :
    playerShown (applyMessage defaultBackend .playerState msg c).2 p = none ↔ (msg.playerId = p →
      p = 0 ∨ p = c.manager.localPlayerId ∨ ¬ PlayerProxies.HasRoom c.remote.players) := by
  by_cases named : msg.playerId = p
  · subst named
    rw [imp_iff_right rfl]
    by_cases own : msg.playerId = 0 ∨ msg.playerId = c.manager.localPlayerId
    · refine iff_of_true ?_ (own.imp_right .inl)
      simp only [applyMessage, paApplyPlayerState, rpmApplyRemotePlayerState, if_pos own]
      exact absent
    · obtain ⟨nobody, foreign⟩ := not_or.mp own
      rcases applyPlayerState_new nobody foreign absent with ⟨room, _, after, shown, _⟩ | ⟨full, _, same⟩
      · refine iff_of_false (fun gone => by cases shown.symm.trans gone) ?_
        rintro (zero | localId | full)
        · exact nobody zero
        · exact foreign localId
        · exact full room
      · refine iff_of_true ?_ (.inr (.inr full))
        rw [playerShown, same]
        exact absent
  · exact iff_of_true ((applyPlayerState_other (Ne.symm named)).trans absent)
      fun same => absurd same named

/-- What comes shows a player exactly if it is a state of another player for whom a record is free. -/
theorem appliedBy_absent (absent : playerShown c p = none) (received : Received) :
    playerShown (appliedBy received c) p = none ↔ ∀ bytes, received = .datagram bytes →
      ∀ msg ∈ (messageOf? .playerState bytes : Option (Body F .playerState)), msg.playerId = p →
        p = 0 ∨ p = c.manager.localPlayerId ∨ ¬ PlayerProxies.HasRoom c.remote.players := by
  cases received with
  | nothing => exact iff_of_true absent fun bytes came => by cases came
  | failed => exact iff_of_true absent fun bytes came => by cases came
  | datagram bytes =>
      simp only [appliedBy, Received.datagram.injEq, forall_eq']
      rcases pluginApplyPacket_cases defaultBackend bytes c with ⟨type, body, carries, eq⟩ | ⟨silent, eq⟩
      · rw [eq]
        by_cases state : type = .playerState
        · subst state
          rw [messageOf?_eq_some.mpr carries]
          simp only [Option.mem_def, Option.some.injEq, forall_eq']
          exact applyPlayerState_absent absent body
        · refine iff_of_true (applyMessage_absent absent type body state) fun msg found => ?_
          exact absurd (carries.type_unique (messageOf?_eq_some.mp found)) state
      · rw [eq]
        exact iff_of_true absent fun msg found => absurd (messageOf?_eq_some.mp found) (silent _ msg)

theorem welcomeOf_some {received : Received} {w : Body F .welcome}
    (welcome : welcomeOf F received = some w) : appliedBy received c = c ∧
      ∀ bytes, received = .datagram bytes → ∀ msg : Body F .playerState,
        messageOf? .playerState bytes ≠ some msg := by
  cases received with
  | nothing => cases welcome
  | failed => cases welcome
  | datagram bytes =>
      have carries := messageOf?_eq_some.mp welcome
      refine ⟨?_, ?_⟩
      · rw [appliedBy, pluginApplyPacket_carries carries]
        rfl
      · rintro _ ⟨rfl⟩ msg found
        cases carries.type_unique (messageOf?_eq_some.mp found)

end Absent

/-! ## Runs -/

/-- A bridge is joined exactly if its client has been welcomed. -/
def Member (s : LiveClient F) : Prop := s.bridge.joined = s.bridge.client.connected

omit [CFloat F] in
theorem mlcbOpen_bridge (sockets : Sockets) (opens parses : Bool) (port : UInt16)
    (playerGuid playerName : Text) (buildHash : UInt32) (s : LiveClient F) :
    let after := (mlcbOpen sockets opens parses port playerGuid playerName buildHash s).2
    after.bridge.joined = false ∧ after.bridge.client.connected = false := by
  have fresh (client : PluginTransportClient) :
      (ptcSendHello F sockets buildHash playerGuid playerName client).2.connected = false :=
    congrArg Prod.fst (ptcSendCachedHello_membership (F := F) sockets false _)
  have unconnected : (ptcOpen opens parses port mlcbInit.client).2.connected = false := by
    unfold ptcOpen
    split <;> rfl
  simp only [mlcbOpen]
  generalize ptcOpen opens parses port mlcbInit.client = opened at unconnected
  obtain ⟨_ | _, client⟩ := opened
  · exact ⟨rfl, unconnected⟩
  · have connected := fresh client
    dsimp only
    generalize ptcSendHello F sockets buildHash playerGuid playerName client = sent at connected
    obtain ⟨_ | _, client'⟩ := sent
    · exact ⟨rfl, rfl⟩
    · exact ⟨rfl, connected⟩

theorem liveStep_member (s : LiveClient F) (call : LiveCall F) (member : Member s) :
    Member (liveStep s call) := by
  cases call with
  | «open» sockets opens parses port playerGuid playerName buildHash =>
      obtain ⟨joined, connected⟩ :=
        mlcbOpen_bridge sockets opens parses port playerGuid playerName buildHash s
      exact joined.trans connected.symm
  | tick sockets built =>
      have session := (mlcbTick_effect sockets built s).2
      cases welcome : welcomeOf F sockets.received with
      | some w =>
          rw [welcome] at session
          exact session.1.trans (congrArg Prod.fst session.2).symm
      | none =>
          rw [welcome] at session
          exact (session.2 member).trans (member.trans (congrArg Prod.fst session.1).symm)
  | close sockets => rfl

theorem liveStep_noSelfProxy_iff (s : LiveClient F) (call : LiveCall F) (member : Member s)
    (before : NoSelfProxy s) : NoSelfProxy (liveStep s call) ↔ KeepsApart s call := by
  cases call with
  | «open» sockets opens parses port playerGuid playerName buildHash =>
      obtain ⟨joined, _⟩ :=
        mlcbOpen_bridge sockets opens parses port playerGuid playerName buildHash s
      exact iff_of_true (fun now => by cases joined.symm.trans now) trivial
  | close sockets => exact iff_of_true (fun now => by cases now) trivial
  | tick sockets built =>
      obtain ⟨remote, session⟩ := mlcbTick_effect sockets built s
      show NoSelfProxy (mlcbTick sockets built s).2 ↔ _
      generalize (mlcbTick sockets built s).2 = after at remote session
      have shownIs (p : PlayerId) :
          playerShown after.shown p = playerShown (appliedBy sockets.received s.shown) p := by
        rw [playerShown, remote, playerShown]
      cases welcome : welcomeOf F sockets.received with
      | some w =>
          rw [welcome] at session
          obtain ⟨joined, kept⟩ := session
          obtain ⟨unapplied, noState⟩ := welcomeOf_some welcome
          have id : after.bridge.client.localPlayerId = w.playerId := congrArg Prod.snd kept
          rw [NoSelfProxy, shownIs, id, unapplied, imp_iff_right joined, KeepsApart, welcome]
          refine ⟨fun apart => ⟨fun w' found => Option.some.inj found ▸ apart,
            fun _ bytes came msg found => absurd found (noState bytes came msg)⟩,
            fun apart => apart.1 w rfl⟩
      | none =>
          rw [welcome] at session
          obtain ⟨kept, joined⟩ := session
          have id : after.bridge.client.localPlayerId = s.bridge.client.localPlayerId :=
            congrArg Prod.snd kept
          rw [NoSelfProxy, shownIs, id, joined member, KeepsApart, welcome,
            and_iff_right (fun w found => by cases found)]
          refine forall_congr' fun now => (appliedBy_absent (before now) sockets.received).trans ?_
          refine forall₂_congr fun bytes came => forall₂_congr fun msg found => ?_
          exact forall_congr' fun named => by rw [named]

/-- In a run of the live client no record of its own player is ever shown exactly if nothing that comes
shows it. -/
theorem run_noSelfProxy_iff (calls : List (LiveCall F)) :
    (∀ before, before <+: calls → NoSelfProxy (run liveStep startedProcess before)) ↔
      Along liveStep KeepsApart startedProcess calls := by
  have started : NoSelfProxy (startedProcess : LiveClient F) := fun joined => by cases joined
  rw [reached_iff started]
  exact @along_congr _ _ _ _ _ (fun _ _ => True) _ _ (fun s => Member s ∧ NoSelfProxy s)
    (fun s call inv _ => liveStep_noSelfProxy_iff s call inv.1 inv.2)
    (fun s call inv _ apart => ⟨liveStep_member s call inv.1,
      (liveStep_noSelfProxy_iff s call inv.1 inv.2).mpr apart⟩)
    ⟨rfl, started⟩ (along_always fun _ _ => trivial)

/-- A state of player 7 comes before the WELCOME that gives the client this id. -/
theorem run_noSelfProxy_early :
    let state : Body Binary32 .playerState := ⟨7, 0, zeroVec, zeroRot, zeroVec, 0, {}, 0, 0, 0, 1, 1⟩
    let welcome : Body Binary32 .welcome := ⟨1, 7, 20, 0⟩
    let sockets (received : Received) : Sockets := ⟨received, fun _ => true⟩
    let calls : List (LiveCall Binary32) :=
      [.open (sockets .nothing) true true 7777 [0x41] [0x41] 1,
        .tick (sockets (.datagram (packetBytes 1 2 .playerState 0 state))) none,
        .tick (sockets (.datagram (packetBytes 1 1 .welcome 0 welcome))) none]
    ¬ ∀ before, before <+: calls → NoSelfProxy (run liveStep startedProcess before) := by
  intro state welcome sockets calls reached
  have shown : (run liveStep startedProcess calls).bridge.joined = true ∧
      (playerShown (run liveStep startedProcess calls).shown
        (run liveStep startedProcess calls).bridge.client.localPlayerId).isSome = true := by
    decide +kernel
  have hidden := reached calls List.prefix_rfl shown.1
  rw [hidden] at shown
  cases shown.2

end F4MP.Client
