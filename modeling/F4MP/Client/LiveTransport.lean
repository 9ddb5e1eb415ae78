import F4MP.Client.LiveConfig

/-!
# The life of the live transport

`plugin_live_transport_dev.c` behind the calls that `f4se_plugin_exports.cpp` and the hook make: the
transport loads its configuration when it is first asked for something, opens a socket if the
configuration says so, and is set back when that fails.
-/

namespace F4MP.Client
open SoftFloat CFloat Protocol Service Search Lines Transition

variable {F : Type} [CFloat F]

/-! ## Sockets -/

/-- What `socket`, `bind` and `inet_pton` do in a call. -/
structure Opening where
  socket : Option Nat
  binds : Bool
  parses : Text → Bool

/-- `F4MP_INVALID_SOCKET` is `none`. Memory that is set to zero names descriptor 0. -/
abbrev Descriptor := Option Nat

def zeroDescriptor : Descriptor := some 0

inductive SocketEvent
  | opened (fd : Nat)
  | closed (fd : Nat)
  deriving DecidableEq

def stOpenUdp (opening : Opening) : Bool × Descriptor × List SocketEvent :=
  match opening.socket with
  | none => (false, none, [])
  | some fd => if opening.binds then (true, some fd, [.opened fd])
      else (false, none, [.opened fd, .closed fd])

def stClose : Descriptor → List SocketEvent
  | none => []
  | some fd => [.closed fd]

/-- The socket of `ptc_open`. -/
def ptcOpenSocket (opening : Opening) (host : Text) (port : UInt16) (fd : Descriptor) :
    Bool × Descriptor × List SocketEvent :=
  if port = 0 then (false, fd, [])
  else
    match stOpenUdp opening with
    | (false, fd, events) => (false, fd, events)
    | (true, fd, events) =>
        if opening.parses host then (true, fd, events) else (false, none, events ++ stClose fd)

/-- The socket of `mlcb_open`; `greets` tells if the HELLO is sent. -/
def mlcbOpenSocket (opening : Opening) (host : Text) (port : UInt16) (greets : Bool) :
    Bool × Descriptor × List SocketEvent :=
  match ptcOpenSocket opening host port zeroDescriptor with
  | (false, fd, events) => (false, fd, events)
  | (true, fd, events) =>
      if greets then (true, fd, events) else (false, zeroDescriptor, events ++ stClose fd)

/-! ## The state -/

structure F4mpLiveTransportDevState (F : Type) where
  configLoaded : Bool
  enabled : Bool
  started : Bool
  lastTickSent : Bool
  lastTickApplied : Bool
  configPath : Text
  config : F4mpLiveTransportConfig F
  bridge : MovementLiveClientBridge
  socket : Descriptor

/-- `reset_state` -/
def resetState : F4mpLiveTransportDevState F where
  configLoaded := false
  enabled := false
  started := false
  lastTickSent := false
  lastTickApplied := false
  configPath := []
  config := ⟨false, [], 0, [], [], 0, ⟨0, false, false, 0, false, ⟨false, lit 0 1, lit 0 1⟩⟩⟩
  bridge := {}
  socket := zeroDescriptor

/-- The process of the plugin: `g_state`, what it shows, the interpolation of its scene, the flag of the
exports, and what happened to sockets. -/
structure DevProcess (F : Type) where
  state : F4mpLiveTransportDevState F
  shown : ClientState F Unit
  sceneInterp : Fo4SceneProxyInterpolationConfig F
  bridgeInitialized : Bool
  events : List SocketEvent

/-- What a call meets: the environment variable, the files, and the network. -/
structure DevWorld (F : Type) where
  env : Option Text
  files : Text → Option Text
  opening : Opening
  sockets : Sockets
  built : Option (MsgPlayerState F)

def DevProcess.live (p : DevProcess F) : LiveClient F := ⟨p.state.bridge, p.shown⟩

def DevProcess.withLive (p : DevProcess F) (live : LiveClient F) : DevProcess F :=
  { p with state.bridge := live.bridge, shown := live.shown }

/-- `mlcb_set_config` on the bridge. -/
def mlcbSetConfig (cfg : MovementLiveClientBridgeConfig F) (b : MovementLiveClientBridge) :
    MovementLiveClientBridge :=
  { b with
    heartbeatIntervalTicks := cfg.heartbeatIntervalTicks
    autoStepRemoteBackend := cfg.autoStepRemoteBackend
    ownsRemoteBackend := cfg.ownsRemoteBackend
    remoteBackendStepCount :=
      if cfg.remoteBackendStepCount = 0 then 1 else cfg.remoteBackendStepCount }

/-- The interpolation that `mlcb_set_config` leaves in the scene. -/
def mlcbSetInterp (cfg : MovementLiveClientBridgeConfig F)
    (interp : Fo4SceneProxyInterpolationConfig F) : Fo4SceneProxyInterpolationConfig F :=
  if cfg.applySceneBackendInterpConfig then
    { cfg.sceneInterpConfig with
      positionAlpha := clamp01 cfg.sceneInterpConfig.positionAlpha
      rotationAlpha := clamp01 cfg.sceneInterpConfig.rotationAlpha }
  else interp

/-! ## The calls -/

section Calls
variable [WireFloat F] (strtod : Text → Option (F × Text)) (platform : Platform)

/-- What `fltcfg_load_default` gives in a world: if a file is loaded, its path, the configuration. -/
def DevWorld.loads (w : DevWorld F) : Bool × Text × F4mpLiveTransportConfig F :=
  fltcfgLoadDefault strtod platform w.env w.files liveConfigPathCap

/-- `mlcb_open` on the state of the transport. -/
def devOpen (w : DevWorld F) (p : DevProcess F) : Bool × DevProcess F :=
  let cfg := p.state.config
  let (ok, live) := mlcbOpen w.sockets (stOpenUdp w.opening).1 (w.opening.parses cfg.hostIpv4)
    cfg.port cfg.playerGuid cfg.playerName cfg.buildHash p.live
  let (_, socket, events) := mlcbOpenSocket w.opening cfg.hostIpv4 cfg.port ok
  let p := p.withLive live
  (ok, { p with state.socket := socket, events := p.events ++ events })

def fltdevInit (w : DevWorld F) (p : DevProcess F) : Bool × DevProcess F :=
  if p.state.started || p.state.configLoaded then (true, p)
  else
    let (_, configPath, config) := w.loads strtod platform
    let state := { (resetState : F4mpLiveTransportDevState F) with
      configPath, config, configLoaded := true, enabled := config.devEnabled, bridge := mlcbInit }
    let p := { p with state }
    if !state.enabled then (true, p)
    else
      match devOpen w p with
      | (false, p) => (false, { p with state := resetState })
      | (true, p) =>
          (true, { p with
            state := { p.state with
              bridge := mlcbSetConfig config.bridge p.state.bridge, started := true }
            sceneInterp := mlcbSetInterp config.bridge p.sceneInterp })

def fltdevShutdown (w : DevWorld F) (p : DevProcess F) : DevProcess F :=
  if p.state.started then
    let p := { p with events := p.events ++ stClose p.state.socket }
    { p.withLive (mlcbClose w.sockets p.live) with state := resetState }
  else { p with state := resetState }

/-- The loading of the configuration that the calls start with. -/
def devLoaded (w : DevWorld F) (p : DevProcess F) : Bool × DevProcess F :=
  if p.state.configLoaded then (true, p) else fltdevInit strtod platform w p

/-- `fltdev_tick`: `none` if it returns `false`, else if a state was sent and if a packet was applied. -/
def fltdevTick (w : DevWorld F) (p : DevProcess F) : Option (Bool × Bool) × DevProcess F :=
  match devLoaded strtod platform w p with
  | (false, p) => (none, p)
  | (true, p) =>
      if !p.state.enabled || !p.state.started then (some (false, false), p)
      else
        match mlcbTick w.sockets w.built p.live with
        | (none, live) => (none, p.withLive live)
        | (some (sent, applied), live) =>
            let p := p.withLive live
            (some (sent, applied),
              { p with state.lastTickSent := sent, state.lastTickApplied := applied })

def fltdevEnabled (w : DevWorld F) (p : DevProcess F) : Bool × DevProcess F :=
  match devLoaded strtod platform w p with
  | (false, p) => (false, p)
  | (true, p) => (p.state.enabled, p)

def fltdevConnected (w : DevWorld F) (p : DevProcess F) : Bool × DevProcess F :=
  match devLoaded strtod platform w p with
  | (false, p) => (false, p)
  | (true, p) => (p.state.started && p.state.bridge.client.connected, p)

def fltdevConfigPath (w : DevWorld F) (p : DevProcess F) : Text × DevProcess F :=
  match devLoaded strtod platform w p with
  | (false, p) => ([], p)
  | (true, p) => (p.state.configPath, p)

/-- `ebstub_init` -/
def ebstubInit (w : DevWorld F) (p : DevProcess F) : DevProcess F :=
  (fltdevInit strtod platform w { p with shown := freshClient 0 () }).2

/-- `f4mp_bridge_init_once` -/
def f4mpBridgeInitOnce (w : DevWorld F) (p : DevProcess F) : DevProcess F :=
  if p.bridgeInitialized then p
  else { ebstubInit strtod platform w p with bridgeInitialized := true }

/-- `f4mp_bridge_shutdown_once` -/
def f4mpBridgeShutdownOnce (w : DevWorld F) (p : DevProcess F) : DevProcess F :=
  if p.bridgeInitialized then { fltdevShutdown w p with bridgeInitialized := false } else p

/-- The calls of the game into the plugin: the exports, and the tick behind a hooked callback. -/
inductive DevCall (F : Type)
  | load (w : DevWorld F)
  | liveTick (w : DevWorld F)
  | liveEnabled (w : DevWorld F)
  | liveConnected (w : DevWorld F)
  | liveConfigPath (w : DevWorld F)
  | shutdown (w : DevWorld F)
  | hooked (w : DevWorld F)

def DevCall.world : DevCall F → DevWorld F
  | load w | liveTick w | liveEnabled w | liveConnected w | liveConfigPath w | shutdown w | hooked w => w

def devStep (p : DevProcess F) : DevCall F → DevProcess F
  | .load w => f4mpBridgeInitOnce strtod platform w p
  | .liveTick w => (fltdevTick strtod platform w (f4mpBridgeInitOnce strtod platform w p)).2
  | .liveEnabled w => (fltdevEnabled strtod platform w (f4mpBridgeInitOnce strtod platform w p)).2
  | .liveConnected w => (fltdevConnected strtod platform w (f4mpBridgeInitOnce strtod platform w p)).2
  | .liveConfigPath w =>
      (fltdevConfigPath strtod platform w (f4mpBridgeInitOnce strtod platform w p)).2
  | .shutdown w => f4mpBridgeShutdownOnce w p
  | .hooked w => (fltdevTick strtod platform w p).2

end Calls

/-- A process that has been called for nothing yet. -/
def newProcess (interp : Fo4SceneProxyInterpolationConfig F) : DevProcess F where
  state := resetState
  shown := startedProcess.shown
  sceneInterp := interp
  bridgeInitialized := false
  events := []

/-! ## What is open -/

/-- A log in which one descriptor at most is open at a time, each one is closed once, and nothing else
is closed. The second argument is the one that is open. -/
inductive Held : List SocketEvent → Descriptor → Prop
  | start : Held [] none
  | opened {log : List SocketEvent} (fd : Nat) : Held log none → Held (log ++ [.opened fd]) (some fd)
  | closed {log : List SocketEvent} {fd : Nat} : Held log (some fd) → Held (log ++ [.closed fd]) none

/-- A file that can be read in the world says that the transport is on. -/
def DevWorld.Enables (strtod : Text → Option (F × Text)) (platform : Platform) (w : DevWorld F) : Prop :=
  ∃ path bytes, w.files path = some bytes ∧
    ⟨.devEnabled, true⟩ ∈ assignments strtod platform (fileLines bytes)

/-- What holds of the transport between two calls, all of them made in the worlds. -/
structure TransportSound (strtod : Text → Option (F × Text)) (platform : Platform)
    (worlds : List (DevWorld F)) (p : DevProcess F) : Prop where
  running : p.state.enabled = p.state.started
  loaded : p.state.started = true →
    p.state.configLoaded = true ∧ p.state.config.devEnabled = true ∧ p.state.socket.isSome = true
  held : Held p.events (if p.state.started then p.state.socket else none)
  offline : p.state.started = false →
    p.state.bridge.joined = false ∧ p.state.bridge.client.connected = false
  unloaded : p.state.configLoaded = false → p.state = resetState
  origin : p.state.configLoaded = true → ∃ w ∈ worlds,
    (p.state.configPath, p.state.config) = (w.loads strtod platform).2
  provoked : p.events ≠ [] → ∃ w ∈ worlds, w.Enables strtod platform

theorem Held.close {log : List SocketEvent} {fd : Descriptor} (held : Held log fd) :
    Held (log ++ stClose fd) none := by
  cases fd with
  | none => exact (List.append_nil log).symm ▸ held
  | some fd => exact held.closed

theorem Held.some_ne_nil {log : List SocketEvent} {fd : Nat} (held : Held log (some fd)) :
    log ≠ [] := by
  cases held
  exact List.append_ne_nil_of_right_ne_nil _ (List.cons_ne_nil _ _)

theorem mlcbOpenSocket_held {log : List SocketEvent} (held : Held log none) (opening : Opening)
    (host : Text) (port : UInt16) (greets : Bool) :
    let after := mlcbOpenSocket opening host port greets
    Held (log ++ after.2.2) (if after.1 then after.2.1 else none) ∧
      (after.1 = true → after.2.1.isSome = true) := by
  have reset : Held (log ++ []) none := (List.append_nil log).symm ▸ held
  unfold mlcbOpenSocket ptcOpenSocket stOpenUdp
  by_cases zero : port = 0
  · simp only [if_pos zero]
    exact ⟨reset, fun ok => by cases ok⟩
  · simp only [if_neg zero]
    cases opening.socket with
    | none => exact ⟨reset, fun ok => by cases ok⟩
    | some fd =>
        have opened := held.opened fd
        have shut : Held (log ++ [.opened fd, .closed fd]) none := by
          have := opened.closed
          rwa [List.append_assoc] at this
        cases opening.binds with
        | false => exact ⟨shut, fun ok => by cases ok⟩
        | true =>
            cases opening.parses host with
            | false => exact ⟨shut, fun ok => by cases ok⟩
            | true =>
                cases greets with
                | false => exact ⟨shut, fun ok => by cases ok⟩
                | true => exact ⟨opened, fun _ => rfl⟩

section Steps
variable [WireFloat F] {strtod : Text → Option (F × Text)} {platform : Platform} {w : DevWorld F}
  {p : DevProcess F}

omit [CFloat F] in
/-- The session opens where the socket opens and the HELLO is sent. -/
theorem mlcbOpen_socket (sockets : Sockets) (opening : Opening) (host : Text) (port : UInt16)
    (guid name : Text) (hash : UInt32) (s : LiveClient F) :
    let ok := (mlcbOpen sockets (stOpenUdp opening).1 (opening.parses host) port guid name hash s).1
    (mlcbOpenSocket opening host port ok).1 = ok := by
  unfold mlcbOpenSocket mlcbOpen ptcOpenSocket ptcOpen
  by_cases zero : port = 0
  · simp only [if_pos zero]
  · simp only [if_neg zero]
    generalize stOpenUdp opening = udp
    obtain ⟨_ | _, fd, events⟩ := udp
    · rfl
    · cases opening.parses host with
      | false => rfl
      | true =>
          simp only [Bool.and_self, if_true]
          generalize ptcSendHello F sockets hash guid name _ = sent
          obtain ⟨_ | _, client⟩ := sent <;> rfl

omit [CFloat F] in
theorem mlcbOpen_shown (sockets : Sockets) (opens parses : Bool) (port : UInt16) (guid name : Text)
    (hash : UInt32) (s : LiveClient F) :
    (mlcbOpen sockets opens parses port guid name hash s).2.shown = s.shown := by
  unfold mlcbOpen
  generalize ptcOpen opens parses port mlcbInit.client = opened
  obtain ⟨_ | _, client⟩ := opened
  · rfl
  · dsimp only
    generalize ptcSendHello F sockets hash guid name client = sent
    obtain ⟨_ | _, client'⟩ := sent <;> rfl

/-- What an opening leaves: the rest of the state, and what is open. -/
structure Opened (p : DevProcess F) (ok : Bool) (after : DevProcess F) : Prop where
  shown : after.shown = p.shown
  state : ∃ bridge socket, after.state = { p.state with bridge, socket } ∧ bridge.joined = false ∧
    bridge.client.connected = false ∧ (ok = true → socket.isSome = true) ∧
      Held after.events (if ok then socket else none)
  bridgeInitialized : after.bridgeInitialized = p.bridgeInitialized

omit [CFloat F] in
theorem devOpen_opened (held : Held p.events none) : Opened p (devOpen w p).1 (devOpen w p).2 := by
  have frame := mlcbOpen_bridge w.sockets (stOpenUdp w.opening).1
    (w.opening.parses p.state.config.hostIpv4) p.state.config.port p.state.config.playerGuid
    p.state.config.playerName p.state.config.buildHash p.live
  have shown := mlcbOpen_shown w.sockets (stOpenUdp w.opening).1
    (w.opening.parses p.state.config.hostIpv4) p.state.config.port p.state.config.playerGuid
    p.state.config.playerName p.state.config.buildHash p.live
  have socket := mlcbOpen_socket w.sockets w.opening p.state.config.hostIpv4 p.state.config.port
    p.state.config.playerGuid p.state.config.playerName p.state.config.buildHash p.live
  simp only [devOpen]
  generalize mlcbOpen w.sockets (stOpenUdp w.opening).1 (w.opening.parses p.state.config.hostIpv4)
    p.state.config.port p.state.config.playerGuid p.state.config.playerName p.state.config.buildHash
    p.live = session at frame shown socket ⊢
  have opened := mlcbOpenSocket_held held w.opening p.state.config.hostIpv4 p.state.config.port
    session.1
  simp only [socket] at opened
  exact ⟨shown, ⟨_, _, rfl, frame.1, frame.2, opened.2, opened.1⟩, rfl⟩

omit [WireFloat F] in
theorem resetState_sound {worlds : List (DevWorld F)} (state : p.state = resetState)
    (held : Held p.events none) (provoked : p.events ≠ [] → ∃ w ∈ worlds, w.Enables strtod platform) :
    TransportSound strtod platform worlds p := by
  have started : p.state.started = false := by rw [state]; rfl
  refine ⟨?_, fun on => ?_, ?_, fun _ => ?_, fun _ => state, fun loaded => ?_, provoked⟩
  · rw [state]
    rfl
  · cases started.symm.trans on
  · rw [started]
    exact held
  · rw [state]
    exact ⟨rfl, rfl⟩
  · rw [state] at loaded
    cases loaded

omit [WireFloat F] in
/-- A configuration that says the transport is on comes from a file that says so. -/
theorem loads_enables (strtod : Text → Option (F × Text)) (platform : Platform) (w : DevWorld F)
    (on : (w.loads strtod platform).2.2.devEnabled = true) :
    w.Enables strtod platform := by
  unfold DevWorld.loads fltcfgLoadDefault at on
  dsimp only at on
  split at on
  · rename_i path cfg found
    obtain ⟨tried, -, loaded⟩ := List.exists_of_findSome?_eq_some found
    obtain ⟨cfg', loads, same⟩ := Option.map_eq_some_iff.mp loaded
    cases same
    obtain ⟨bytes, read, -⟩ := Option.map_eq_some_iff.mp loads
    obtain ⟨cfg', again, counts⟩ := fltcfgLoadFile_get strtod platform bytes
    rw [← read, loads] at again
    cases again
    refine ⟨path, bytes, read, ?_⟩
    have last := lastFor_mem .devEnabled (fltcfgSetDefaults.get .devEnabled)
      (assignments strtod platform (fileLines bytes))
    rw [← counts .devEnabled] at last
    rcases last with off | listed
    · cases (show true = false from on.symm.trans off)
    · exact (show cfg.get .devEnabled = true from on) ▸ listed
  · cases on

theorem fltdevInit_sound {worlds : List (DevWorld F)} (member : w ∈ worlds)
    (sound : TransportSound strtod platform worlds p) :
    TransportSound strtod platform worlds (fltdevInit strtod platform w p).2 := by
  unfold fltdevInit
  split
  · exact sound
  · rename_i idle
    rw [Bool.not_eq_true, Bool.or_eq_false_iff] at idle
    have held : Held p.events none := by
      have := sound.held
      rwa [idle.1] at this
    have enables := loads_enables strtod platform w
    generalize read : w.loads strtod platform = loads at enables
    obtain ⟨found, configPath, config⟩ := loads
    have origin : ∃ w ∈ worlds, (configPath, config) = (w.loads strtod platform).2 :=
      ⟨w, member, by rw [read]⟩
    dsimp only
    by_cases on : config.devEnabled = true
    · have provoked : ∃ w ∈ worlds, w.Enables strtod platform := ⟨w, member, enables on⟩
      simp only [on, Bool.not_true, Bool.false_eq_true, if_false]
      generalize start : ({ p with
        state := { (resetState : F4mpLiveTransportDevState F) with
          configPath, config, configLoaded := true, enabled := true, bridge := mlcbInit } } :
        DevProcess F) = p₀
      have opened := devOpen_opened (w := w) (p := p₀) (start ▸ held)
      generalize devOpen w p₀ = result at opened ⊢
      obtain ⟨_ | _, after⟩ := result
      · obtain ⟨_, _, _, _, _, _, shut⟩ := opened.state
        exact resetState_sound rfl shut fun _ => provoked
      · obtain ⟨bridge, socket, state, joined, connected, bound, holds⟩ := opened.state
        subst start
        dsimp only at state ⊢
        rw [state]
        exact ⟨rfl, fun _ => ⟨rfl, on, bound rfl⟩, holds, fun off => (by cases off),
          fun loaded => (by cases loaded), fun _ => origin, fun _ => provoked⟩
    · rw [Bool.not_eq_true] at on
      rw [on]
      refine ⟨rfl, fun on => ?_, ?_, fun _ => ⟨rfl, rfl⟩, fun loaded => ?_, fun _ => ?_, sound.provoked⟩
      · cases on
      · exact held
      · cases loaded
      · exact origin

/-- The answers of the calls that only look. -/
theorem asked_state : (fltdevEnabled strtod platform w p).2 = (devLoaded strtod platform w p).2 ∧
    (fltdevConnected strtod platform w p).2 = (devLoaded strtod platform w p).2 ∧
      (fltdevConfigPath strtod platform w p).2 = (devLoaded strtod platform w p).2 := by
  unfold fltdevEnabled fltdevConnected fltdevConfigPath
  obtain ⟨_ | _, p'⟩ := devLoaded strtod platform w p <;> exact ⟨rfl, rfl, rfl⟩

section Sound
variable {worlds : List (DevWorld F)} (sound : TransportSound strtod platform worlds p)
include sound

theorem fltdevShutdown_sound : TransportSound strtod platform worlds (fltdevShutdown w p) := by
  have held := sound.held
  unfold fltdevShutdown
  split
  · rename_i on
    rw [if_pos on] at held
    refine resetState_sound rfl held.close fun _ => sound.provoked fun silent => ?_
    obtain ⟨fd, bound⟩ := Option.isSome_iff_exists.mp (sound.loaded on).2.2
    rw [bound] at held
    exact held.some_ne_nil silent
  · rename_i off
    rw [if_neg off] at held
    exact resetState_sound rfl held sound.provoked

theorem devLoaded_sound (member : w ∈ worlds) :
    TransportSound strtod platform worlds (devLoaded strtod platform w p).2 := by
  unfold devLoaded
  split
  · exact sound
  · exact fltdevInit_sound member sound

omit [WireFloat F] in
/-- A session that goes on works on the bridge and on what is shown. -/
theorem withLive_sound (on : p.state.started = true) (live : LiveClient F) (sent applied : Bool) :
    TransportSound strtod platform worlds { p.withLive live with
      state := { (p.withLive live).state with lastTickSent := sent, lastTickApplied := applied } } :=
  ⟨sound.running, sound.loaded, sound.held, fun off => (by cases on.symm.trans off),
    fun unloaded => (by cases (sound.loaded on).1.symm.trans unloaded), sound.origin, sound.provoked⟩

theorem fltdevTick_sound (member : w ∈ worlds) :
    TransportSound strtod platform worlds (fltdevTick strtod platform w p).2 := by
  have after := devLoaded_sound sound member
  unfold fltdevTick
  generalize devLoaded strtod platform w p = loaded at after
  obtain ⟨_ | _, p'⟩ := loaded
  · exact after
  · dsimp only
    split
    · exact after
    · rename_i active
      have both : p'.state.enabled = true ∧ p'.state.started = true := by simpa using active
      have on := both.2
      generalize mlcbTick w.sockets w.built p'.live = ticked
      obtain ⟨_ | ⟨sent, applied⟩, live⟩ := ticked
      · exact withLive_sound after on live _ _
      · exact withLive_sound after on live _ _

theorem bridgeInitOnce_sound (member : w ∈ worlds) :
    TransportSound strtod platform worlds (f4mpBridgeInitOnce strtod platform w p) := by
  unfold f4mpBridgeInitOnce
  split
  · exact sound
  · have init := fltdevInit_sound (p := { p with shown := freshClient 0 () }) member
      ⟨sound.running, sound.loaded, sound.held, sound.offline, sound.unloaded, sound.origin,
        sound.provoked⟩
    exact ⟨init.running, init.loaded, init.held, init.offline, init.unloaded, init.origin,
      init.provoked⟩

theorem bridgeShutdownOnce_sound :
    TransportSound strtod platform worlds (f4mpBridgeShutdownOnce w p) := by
  unfold f4mpBridgeShutdownOnce
  split
  · have shut := fltdevShutdown_sound (w := w) sound
    exact ⟨shut.running, shut.loaded, shut.held, shut.offline, shut.unloaded, shut.origin,
      shut.provoked⟩
  · exact sound

theorem devStep_sound (call : DevCall F) (member : call.world ∈ worlds) :
    TransportSound strtod platform worlds (devStep strtod platform p call) := by
  cases call with
  | load w => exact bridgeInitOnce_sound sound member
  | liveTick w => exact fltdevTick_sound (bridgeInitOnce_sound sound member) member
  | liveEnabled w =>
      have := devLoaded_sound (bridgeInitOnce_sound sound member) member
      rwa [← asked_state.1] at this
  | liveConnected w =>
      have := devLoaded_sound (bridgeInitOnce_sound sound member) member
      rwa [← asked_state.2.1] at this
  | liveConfigPath w =>
      have := devLoaded_sound (bridgeInitOnce_sound sound member) member
      rwa [← asked_state.2.2] at this
  | shutdown w => exact bridgeShutdownOnce_sound sound
  | hooked w => exact fltdevTick_sound sound member

end Sound

end Steps

/-- Whatever the game calls and whatever fails, the transport is enabled exactly while it is started; one
socket is open then and none otherwise, each one is closed once, and no other is; and no socket is ever
opened unless a file that can be read turns the transport on. -/
theorem run_transportSound [WireFloat F] (strtod : Text → Option (F × Text)) (platform : Platform)
    (interp : Fo4SceneProxyInterpolationConfig F) (calls : List (DevCall F)) :
    TransportSound strtod platform (calls.map DevCall.world)
      (run (devStep strtod platform) (newProcess interp) calls) := by
  have start : TransportSound strtod platform (calls.map DevCall.world) (newProcess interp) :=
    resetState_sound rfl .start fun some_ => absurd rfl some_
  have all : ∀ (later : List (DevCall F)) (p : DevProcess F), later ⊆ calls →
      TransportSound strtod platform (calls.map DevCall.world) p →
        TransportSound strtod platform (calls.map DevCall.world)
          (run (devStep strtod platform) p later) := by
    intro later
    induction later with
    | nil => exact fun p _ sound => sound
    | cons call later ih =>
        intro p within sound
        have member := List.mem_map_of_mem (f := DevCall.world) (within List.mem_cons_self)
        exact ih _ (fun c listed => within (List.mem_cons_of_mem _ listed))
          (devStep_sound sound call member)
  exact all calls _ (List.Subset.refl _) start

end F4MP.Client
