import F4MP.Protocol.Codec
import F4MP.Service.Policy
import F4MP.Service.Authority

/-!
# Transport loop

`transport_loop.c`, with `profile_make_default` of `profile_store.c`. A function that only sends
takes the session to read and the context to change; a handler takes and returns the whole state.
-/

namespace F4MP.Service
open SoftFloat CFloat Protocol MessageFlags

variable {F : Type} [CFloat F] [WireFloat F]

/-! ## Sending -/

/-- `sizeof(ctx->outputs) / sizeof(ctx->outputs[0])` -/
def maxOutputs : Nat := 64

def tlPushOutput (connectionId : UInt32) (bytes : List UInt8) (ctx : TransportLoopContext) :
    Bool × TransportLoopContext :=
  if bytes.length = 0 ∨ f4mpMaxPacketSize < bytes.length then (false, ctx)
  else if maxOutputs ≤ ctx.outputs.length then (false, ctx)
  else (true, { ctx with outputs := ctx.outputs ++ [⟨connectionId, bytes⟩] })

/-- The copy of the payload length over the length field of the message header. -/
def patchLength (bytes : List UInt8) (payloadLen : UInt16) : List UInt8 :=
  let offset := packetHeaderSize + 4
  bytes.take offset ++ Wire.leBytes 2 payloadLen.toNat ++ bytes.drop (offset + 2)

/-- `tl_send_single`, with the id of the session it reads through the context. -/
@[irreducible] def tlSendSingle (sessionId : SessionId) (connectionId : UInt32) (msgType : MessageType)
    (msgFlags : UInt16) (enc : Write) (ctx : TransportLoopContext) :
    Bool × TransportLoopContext :=
  let sequence := ctx.transport.lastTxSequence + 1
  let ctx := { ctx with transport := { ctx.transport with lastTxSequence := sequence } }
  let ph : PacketHeader := {
    magic := f4mpMagic, version := f4mpVersion, sessionId, sequence, messageCount := 1 }
  let mh : MessageHeader := { type := msgType.code, flags := msgFlags }
  let headers : Write := do
    encodePacketHeader ph
    encodeMessageHeader mh
  match headers.run (pwInit f4mpMaxPacketSize) with
  | (none, _) => (false, ctx)
  | (some (), w) =>
      let payloadStart := w.bytes.length
      match enc.run w with
      | (none, _) => (false, ctx)
      | (some (), w) =>
          let payloadLen := UInt16.ofNat (w.bytes.length - payloadStart)
          tlPushOutput connectionId (patchLength w.bytes payloadLen) ctx

/-- `if (!first) return false;` between two sends. -/
def sendThen (first : Bool × TransportLoopContext)
    (next : TransportLoopContext → Bool × TransportLoopContext) : Bool × TransportLoopContext :=
  if first.1 then next first.2 else first

/-- The loop over the connected players that the broadcasts share. -/
def tlBroadcast (s : SessionState F) (msgType : MessageType) (msgFlags : UInt16) (enc : Write)
    (ctx : TransportLoopContext) : TransportLoopContext :=
  s.players.slots.foldl (fun ctx p =>
    if p.connected then (tlSendSingle s.sessionId p.connectionId msgType msgFlags enc ctx).2
    else ctx) ctx

/-! ## Profiles -/

/-- The profile files, as `profile_load_json` finds them under a path. -/
structure ProfileStore where
  profileLoadJson : Text → Option PlayerProfile

def profileMakeDefault : PlayerProfile where
  level := 1
  strStat := 5
  perStat := 5
  endStat := 5
  chaStat := 5
  intStat := 5
  agiStat := 5
  lukStat := 5
  itemCount := 2
  items i := if i = 0 then ⟨0x0001, 1, 1⟩ else if i = 1 then ⟨0x0002, 20, 0⟩ else {}
  perkCount := 2
  perks i := if i = 0 then ⟨0x1001, 1⟩ else if i = 1 then ⟨0x1002, 1⟩ else {}

def tlMakeSafeGuid (guid : Text) (outCap : Nat) : Text :=
  (guid.take (outCap - 1)).map fun c =>
    if (0x61 ≤ c ∧ c ≤ 0x7A) ∨ (0x41 ≤ c ∧ c ≤ 0x5A) ∨ (0x30 ≤ c ∧ c ≤ 0x39) ∨ c = 0x5F ∨ c = 0x2D
    then c else 0x5F

/-- `tl_profile_path_for_guid`: `profiles/%s.json`, and `anonymous` for an empty name. -/
def tlProfilePathForGuid (playerGuid : Text) : Text :=
  let safeGuid := tlMakeSafeGuid playerGuid 96
  [0x70, 0x72, 0x6F, 0x66, 0x69, 0x6C, 0x65, 0x73, 0x2F] ++
    (if safeGuid = [] then [0x61, 0x6E, 0x6F, 0x6E, 0x79, 0x6D, 0x6F, 0x75, 0x73] else safeGuid) ++
    [0x2E, 0x6A, 0x73, 0x6F, 0x6E]

/-- `tl_load_profile_into_player`: records behind the loaded count keep what they held. -/
def tlLoadProfileIntoPlayer (store : ProfileStore) (slot : PlayerRuntimeState F) :
    PlayerRuntimeState F :=
  let path := tlProfilePathForGuid slot.profileRef.playerGuid
  let profile := (store.profileLoadJson path).getD profileMakeDefault
  let old := slot.profileSnapshot
  { slot with
    profileSnapshot := { profile with
      loaded := true
      items := fun i => if i.val < profile.itemCount.toNat then profile.items i else old.items i
      perks := fun i => if i.val < profile.perkCount.toNat then profile.perks i else old.perks i } }

/-- `items_msg` of `tl_send_profile_snapshot` -/
def profileItemRecords (profile : PlayerProfile) : List MsgProfileItemRecord :=
  (List.finRange maxProfileRecords).map fun i =>
    if i.val < profile.itemCount.toNat then
      { formId := (profile.items i).formId
        count := (profile.items i).count
        equipped := (profile.items i).equipped }
    else {}

/-- `perks_msg` of `tl_send_profile_snapshot` -/
def profilePerkRecords (profile : PlayerProfile) : List MsgProfilePerkRecord :=
  (List.finRange maxProfileRecords).map fun i =>
    if i.val < profile.perkCount.toNat then
      { perkFormId := (profile.perks i).perkFormId, rank := (profile.perks i).rank }
    else {}

def tlSendProfileSnapshot (s : SessionState F) (connectionId : UInt32) (profile : PlayerProfile)
    (ctx : TransportLoopContext) : Bool × TransportLoopContext :=
  let flags := reliable ||| ordered ||| ch0Control
  let msg : MsgProfileSnapshot := {
    level := profile.level, xp := profile.xp, equippedFormId := profile.equippedFormId
    caps := profile.caps, strStat := profile.strStat, perStat := profile.perStat
    endStat := profile.endStat, chaStat := profile.chaStat, intStat := profile.intStat
    agiStat := profile.agiStat, lukStat := profile.lukStat }
  let itemsHeader : MsgProfileItemsHeader := { itemCount := profile.itemCount }
  let perksHeader : MsgProfilePerksHeader := { perkCount := profile.perkCount }
  let appearance : MsgProfileAppearance := { sex := profile.sex, bodyPreset := profile.bodyPreset }
  let sent := tlSendSingle s.sessionId connectionId .profileSnapshot flags
    (encodeMsgProfileSnapshot msg) ctx
  let sent := sendThen sent <| tlSendSingle s.sessionId connectionId .profileItems flags
    (encodeMsgProfileItems itemsHeader (profileItemRecords profile))
  let sent := sendThen sent <| tlSendSingle s.sessionId connectionId .profilePerks flags
    (encodeMsgProfilePerks perksHeader (profilePerkRecords profile))
  sendThen sent <| tlSendSingle s.sessionId connectionId .profileAppearance flags
    (encodeMsgProfileAppearance appearance)

/-! ## Messages to players -/

def tlSendWelcome (s : SessionState F) (connectionId : UInt32) (playerId : PlayerId)
    (ctx : TransportLoopContext) : Bool × TransportLoopContext :=
  let msg : MsgWelcome := {
    sessionId := s.sessionId, playerId, tickRate := s.tickRate, rules := s.rules }
  tlSendSingle s.sessionId connectionId .welcome (reliable ||| ordered ||| ch0Control)
    (encodeMsgWelcome msg) ctx

def tlSendPong (s : SessionState F) (connectionId timeMs : UInt32) (ctx : TransportLoopContext) :
    Bool × TransportLoopContext :=
  tlSendSingle s.sessionId connectionId .pong ch0Control (encodeMsgPong { timeMs }) ctx

def tlBroadcastPlayerState (s : SessionState F) (player : PlayerRuntimeState F) :
    TransportLoopContext → TransportLoopContext :=
  tlBroadcast s .playerState ch1World (encodeMsgPlayerState player.replicatedState)

def tlBroadcastPlayerLeft (s : SessionState F) (playerId : PlayerId) :
    TransportLoopContext → TransportLoopContext :=
  tlBroadcast s .playerLeft (reliable ||| ordered ||| ch1World) (encodeMsgPlayerLeft { playerId })

/-- The spawn message of an actor, the same in a broadcast and in a replay. -/
def actorSpawnMsg (actor : ActorRuntimeState F) : MsgActorSpawn F where
  actorNetId := actor.actorNetId
  baseFormId := actor.baseFormId
  position := actor.replicatedState.position
  rotation := actor.replicatedState.rotation
  actorKind := actor.actorKind
  flags := actor.spawnFlags

def tlBroadcastActorState (s : SessionState F) (actor : ActorRuntimeState F) :
    TransportLoopContext → TransportLoopContext :=
  tlBroadcast s .actorState ch1World (encodeMsgActorState actor.replicatedState)

def tlBroadcastActorDespawn (s : SessionState F) (actorNetId : ActorNetId) (reason : UInt8) :
    TransportLoopContext → TransportLoopContext :=
  tlBroadcast s .actorDespawn (reliable ||| ordered ||| ch1World)
    (encodeMsgActorDespawn { actorNetId, reason })

def tlBroadcastDamage (s : SessionState F) (msg : MsgDamageResult F) :
    TransportLoopContext → TransportLoopContext :=
  tlBroadcast s .damageResult (reliable ||| ordered ||| ch2Combat) (encodeMsgDamageResult msg)

def tlBroadcastDeath (s : SessionState F) (msg : MsgDeathEvent) :
    TransportLoopContext → TransportLoopContext :=
  tlBroadcast s .deathEvent (reliable ||| ordered ||| ch2Combat) (encodeMsgDeathEvent msg)

/-- The spawn message of an object, the same in a broadcast and in a replay. -/
def objectSpawnMsg (obj : ObjectRuntimeState F) : MsgObjectSpawn F where
  objectNetId := obj.objectNetId
  formId := obj.formId
  position := obj.position
  rotation := obj.rotation
  stateFlags := obj.stateFlags

def tlBroadcastObjectSpawn (s : SessionState F) (obj : ObjectRuntimeState F) :
    TransportLoopContext → TransportLoopContext :=
  tlBroadcast s .objectSpawn (reliable ||| ordered ||| ch3Work)
    (encodeMsgObjectSpawn (objectSpawnMsg obj))

def objectUpdateMsg (obj : ObjectRuntimeState F) (fieldsMask : UInt32) : MsgObjectUpdate F where
  objectNetId := obj.objectNetId
  fieldsMask
  position := obj.position
  rotation := obj.rotation
  stateFlags := obj.stateFlags

def tlBroadcastObjectUpdate (s : SessionState F) (obj : ObjectRuntimeState F)
    (fieldsMask : UInt32) : TransportLoopContext → TransportLoopContext :=
  tlBroadcast s .objectUpdate (reliable ||| ordered ||| ch3Work)
    (encodeMsgObjectUpdate (objectUpdateMsg obj fieldsMask))

def tlBroadcastObjectDespawn (s : SessionState F) (objectNetId : ObjectNetId) (reason : UInt8) :
    TransportLoopContext → TransportLoopContext :=
  tlBroadcast s .objectDespawn (reliable ||| ordered ||| ch3Work)
    (encodeMsgObjectDespawn { objectNetId, reason })

/-! ## Replaying the session to a player -/

/-- `(dx*dx + dy*dy + dz*dz) > replay_radius*replay_radius` -/
def outsideReplay (center : Vec3f F) (radius : F) (position : Vec3f F) : Bool :=
  let d := vecSub position center
  lt (mul radius radius) (add (add (mul d.x d.x) (mul d.y d.y)) (mul d.z d.z))

def tlSendExistingStateToPlayer (s : SessionState F) (connectionId : UInt32)
    (excludePlayerId : PlayerId) (ctx : TransportLoopContext) : TransportLoopContext :=
  let replayCenter := s.players.slots.foldl (fun center p =>
    if p.connected && p.playerId == excludePlayerId then p.replicatedState.position
    else center) s.bubble.center
  let replayRadius := if le s.bubble.radius (lit 0 1) then lit 512 1 else s.bubble.radius
  let ctx := s.players.slots.foldl (fun ctx p =>
    if p.connected && p.playerId != excludePlayerId then
      (tlSendSingle s.sessionId connectionId .playerState ch1World
        (encodeMsgPlayerState p.replicatedState) ctx).2
    else ctx) ctx
  let ctx := s.actors.slots.foldl (fun ctx a =>
    if !a.inUse then ctx
    else if outsideReplay replayCenter replayRadius a.replicatedState.position then ctx
    else
      let ctx := (tlSendSingle s.sessionId connectionId .actorSpawn
        (reliable ||| ordered ||| ch1World) (encodeMsgActorSpawn (actorSpawnMsg a)) ctx).2
      (tlSendSingle s.sessionId connectionId .actorState ch1World
        (encodeMsgActorState a.replicatedState) ctx).2) ctx
  s.objects.slots.foldl (fun ctx o =>
    if !o.inUse then ctx
    else if outsideReplay replayCenter replayRadius o.position then ctx
    else (tlSendSingle s.sessionId connectionId .objectSpawn (reliable ||| ordered ||| ch3Work)
      (encodeMsgObjectSpawn (objectSpawnMsg o)) ctx).2) ctx

/-! ## Dialogue and quest broadcasts -/

def tlBroadcastDialogueOpen (s : SessionState F) (msg : MsgDialogueOpen) :
    TransportLoopContext → TransportLoopContext :=
  tlBroadcast s .dialogueOpen (reliable ||| ordered ||| ch4Ui) (encodeMsgDialogueOpen msg)

def tlBroadcastDialogueLine (s : SessionState F) (msg : MsgDialogueLine) (text : Option Text) :
    TransportLoopContext → TransportLoopContext :=
  let payloadText := strncpyField 256 (text.getD [])
  tlBroadcast s .dialogueLine (reliable ||| ordered ||| ch4Ui)
    (encodeMsgDialogueLine msg (some payloadText))

def tlBroadcastDialogueClose (s : SessionState F) (msg : MsgDialogueClose) :
    TransportLoopContext → TransportLoopContext :=
  tlBroadcast s .dialogueClose (reliable ||| ordered ||| ch4Ui) (encodeMsgDialogueClose msg)

/-- Eight bytes of a broadcast payload behind its header: a record or a text pointer. -/
inductive PayloadCell (R : Type) where
  | record (record : R)
  | pointer (text : Option Text)
  deriving DecidableEq

namespace PayloadCell

def asRecord? {R : Type} : PayloadCell R → Option R
  | record r => some r
  | pointer _ => none

/-- The cell read as a text pointer. The records the adapters read so are zeroed, and so NULL. -/
def asPointer {R : Type} : PayloadCell R → Option Text
  | record _ => none
  | pointer text => text

end PayloadCell

/-- The payload behind the header: `capacity` records and then `capacity` text pointers, of which
the first `count` are set. -/
def payloadCells {R : Type} (capacity count : Nat) (zero : R) (records : List R)
    (texts : TextPointers) : List (PayloadCell R) :=
  let text (i : Nat) : Option Text :=
    match texts with
    | some array => array[i]?.join
    | none => some []
  (List.range capacity).map (fun i => .record (if i < count then records.getD i zero else zero)) ++
    (List.range capacity).map fun i => .pointer (if i < count then text i else none)

/-- `encode_dialogue_choices_adapter`: the texts are taken from behind the counted records. -/
def encodeDialogueChoicesAdapter (h : MsgDialogueChoicesHeader)
    (cells : List (PayloadCell MsgDialogueChoiceRecord)) : Write :=
  encodeMsgDialogueChoices h (cells.filterMap PayloadCell.asRecord?)
    (some ((cells.drop h.choiceCount.toNat).map PayloadCell.asPointer))

/-- `encode_quest_update_adapter`: the texts are taken from behind the counted records. -/
def encodeQuestUpdateAdapter (h : MsgQuestUpdateHeader)
    (cells : List (PayloadCell MsgQuestObjectiveRecord)) : Write :=
  encodeMsgQuestUpdate h (cells.filterMap PayloadCell.asRecord?)
    (some ((cells.drop h.objectiveCount.toNat).map PayloadCell.asPointer))

def tlBroadcastDialogueChoices (s : SessionState F) (h : MsgDialogueChoicesHeader)
    (choices : List MsgDialogueChoiceRecord) (texts : TextPointers) :
    TransportLoopContext → TransportLoopContext :=
  let h := { h with choiceCount := min h.choiceCount 12 }
  let cells := payloadCells 12 h.choiceCount.toNat {} choices texts
  tlBroadcast s .dialogueChoices (reliable ||| ordered ||| ch4Ui)
    (encodeDialogueChoicesAdapter h cells)

def tlBroadcastQuestUpdate (s : SessionState F) (h : MsgQuestUpdateHeader)
    (objs : List MsgQuestObjectiveRecord) (texts : TextPointers) :
    TransportLoopContext → TransportLoopContext :=
  let h := { h with objectiveCount := min h.objectiveCount 16 }
  let cells := payloadCells 16 h.objectiveCount.toNat {} objs texts
  tlBroadcast s .questUpdate (reliable ||| ordered ||| ch4Ui) (encodeQuestUpdateAdapter h cells)

/-! ## Context -/

def tlInit (s : SessionState F) : TransportLoopContext where
  transport := ⟨s.sessionId, 0, 0, true⟩
  outputs := []
  hasPendingDialogueSelect := false
  pendingDialoguePlayerId := 0
  pendingDialogueSelect := {}
  currentTick := 0
  playerTimeoutTicks := 0

def tlSetPlayerTimeoutTicks (s : ServiceState F) (timeoutTicks : UInt32) : ServiceState F :=
  { s with ctx := { s.ctx with playerTimeoutTicks := timeoutTicks } }

def tlClearOutputs (s : ServiceState F) : ServiceState F :=
  { s with ctx := { s.ctx with outputs := [] } }

def tlTryPopDialogueSelect (s : ServiceState F) :
    Option (PlayerId × MsgDialogueSelect) × ServiceState F :=
  if s.ctx.hasPendingDialogueSelect then
    (some (s.ctx.pendingDialoguePlayerId, s.ctx.pendingDialogueSelect),
      { s with
        ctx := { s.ctx with
          hasPendingDialogueSelect := false
          pendingDialoguePlayerId := 0
          pendingDialogueSelect := {} } })
  else (none, s)

/-! ## Handling an envelope -/

def tlFindPlayerByConnection (s : SessionState F) (connectionId : UInt32) :
    Option (PlayerRuntimeState F) :=
  s.players.slots.find? fun p => p.connected && p.connectionId == connectionId

def ServiceState.send (s : ServiceState F)
    (sends : SessionState F → TransportLoopContext → TransportLoopContext) : ServiceState F :=
  { s with ctx := sends s.session s.ctx }

/-- `mutable_player->last_heard_tick = ctx->current_tick` -/
def heard (s : ServiceState F) (playerId : PlayerId) : ServiceState F :=
  { s with
    session := updatePlayer s.session playerId fun p =>
      { p with lastHeardTick := s.ctx.currentTick } }

/-- The loop that looks for the lowest id no connected player holds. -/
def candidateId (s : SessionState F) : Option PlayerId :=
  (([1, 2, 3, 4, 5, 6, 7] : List PlayerId)).find? fun id => (findPlayer s id).isNone

/-- The seat a GUID is given: the one it is bound to, or a free one that it is bound to now. -/
def takeSeat (s : ServiceState F) (playerGuid : Text) (connectionId : UInt32) :
    Option (PlayerId × ServiceState F) :=
  match srFindPlayerId s.registry playerGuid with
  | none =>
      match candidateId s.session with
      | none => none
      | some id =>
          match smJoinSession s.session id connectionId with
          | none => none
          | some session => some (id,
              { s with session, registry := srBindPlayer s.registry playerGuid id })
  | some id =>
      match smReconnectPlayer s.session id connectionId with
      | none => none
      | some session => some (id, { s with session })

/-- What `MSG_HELLO` writes into the slot. -/
def fillSlot (store : ProfileStore) (playerGuid playerName : Text) (connectionId tick : UInt32)
    (slot : PlayerRuntimeState F) : PlayerRuntimeState F :=
  tlLoadProfileIntoPlayer store { slot with
    profileRef := ⟨strncpyField 64 playerGuid, strncpyField 64 playerName⟩
    connectionId
    lastHeardTick := tick }

/-- `MSG_HELLO`, behind its decoder. -/
def tlAcceptHello (store : ProfileStore) (connectionId : UInt32) (playerGuid playerName : Text)
    (s : ServiceState F) : Bool × ServiceState F :=
  match takeSeat s playerGuid connectionId with
  | none => (false, s)
  | some (candidate, s) =>
      match findPlayer s.session candidate with
      | none => (false, s)
      | some slot =>
          let fill := fillSlot store playerGuid playerName connectionId s.ctx.currentTick
          let s := { s with session := updatePlayer s.session candidate fill }
          let profile := (fill slot).profileSnapshot.toPlayerProfile
          let sent := tlSendWelcome s.session connectionId candidate s.ctx
          let sent := sendThen sent <| tlSendProfileSnapshot s.session connectionId profile
          if sent.1 then
            (true, { s with
              ctx := tlSendExistingStateToPlayer s.session connectionId candidate sent.2 })
          else (false, { s with ctx := sent.2 })

/-- `MSG_HELLO` -/
def tlHandleHello (store : ProfileStore) (connectionId : UInt32) (r : PacketReader)
    (s : ServiceState F) : Bool × ServiceState F :=
  match (decodeMsgHello (f4mpMaxPlayerGuidBytes + 1) (f4mpMaxPlayerNameBytes + 1)).run r with
  | (none, _) => (false, s)
  | (some (_, playerGuid, playerName), _) =>
      tlAcceptHello store connectionId (cString playerGuid) (cString playerName) s

/-- `MSG_PING` -/
def tlHandlePing (connectionId : UInt32) (playerId : PlayerId) (r : PacketReader)
    (s : ServiceState F) : Bool × ServiceState F :=
  match decodeMsgPing.run r with
  | (none, _) => (false, s)
  | (some msg, _) =>
      let s := heard s playerId
      let (sent, ctx) := tlSendPong s.session connectionId msg.timeMs s.ctx
      (sent, { s with ctx })

/-- `MSG_DISCONNECT` -/
def tlHandleDisconnect (playerId : PlayerId) (r : PacketReader) (s : ServiceState F) :
    Bool × ServiceState F :=
  match decodeMsgDisconnect.run r with
  | (none, _) => (false, s)
  | (some _, _) =>
      let s := heard s playerId
      let s := s.send fun session => tlBroadcastPlayerLeft session playerId
      (true, { s with session := smRemovePlayer s.session playerId })

/-- `MSG_PLAYER_STATE` -/
def tlHandlePlayerState (playerId : PlayerId) (r : PacketReader) (s : ServiceState F) :
    Bool × ServiceState F :=
  match (decodeMsgPlayerState : Read (MsgPlayerState F)).run r with
  | (none, _) => (false, s)
  | (some msg, _) =>
      if msg.playerId ≠ playerId then (false, s)
      else
        match findPlayer s.session playerId with
        | none => (false, s)
        | some player =>
            let s := heard s playerId
            let (decision, relayStats) := psrEvaluate player.relayStats msg
            let s := { s with
              session := updatePlayer s.session playerId fun p => { p with relayStats } }
            match decision with
            | .reject => (true, s)
            | .accept =>
                let s := { s with
                  session := updatePlayer s.session playerId fun p =>
                    { p with replicatedState := msg } }
                let relayed := { player with replicatedState := msg }
                (true, s.send fun session => tlBroadcastPlayerState session relayed)

/-- `MSG_INPUT_STATE` -/
def tlHandleInputState (playerId : PlayerId) (r : PacketReader) (s : ServiceState F) :
    Bool × ServiceState F :=
  match decodeMsgInputState.run r with
  | (none, _) => (false, s)
  | (some msg, _) =>
      match acHandleInputState s.session msg playerId with
      | none => (false, s)
      | some session =>
          let s := { s with session }
          match findPlayer s.session playerId with
          | none => (false, s)
          | some player =>
              let s := heard s playerId
              (true, s.send fun session => tlBroadcastPlayerState session player)

/-- `MSG_FIRE_INTENT` -/
def tlHandleFireIntent (playerId : PlayerId) (r : PacketReader) (s : ServiceState F) :
    Bool × ServiceState F :=
  match (decodeMsgFireIntent : Read (MsgFireIntent F)).run r with
  | (none, _) => (false, s)
  | (some msg, _) =>
      if msg.playerId ≠ playerId then (false, s)
      else
        let s := heard s playerId
        match acHandleFireIntent s.session msg with
        | none => (false, s)
        | some outcome =>
            let s := { s with session := outcome.session }
            if outcome.damage.victimActorNetId ≠ 0 then
              let s := s.send fun session => tlBroadcastDamage session outcome.damage
              let s := match findActor s.session outcome.damage.victimActorNetId with
                | some actor => s.send fun session => tlBroadcastActorState session actor
                | none => s
              let s := match outcome.death with
                | some death => s.send fun session => tlBroadcastDeath session death
                | none => s
              (true, s)
            else (true, s)

/-- `MSG_BUILD_REQUEST` -/
def tlHandleBuildRequest (connectionId : UInt32) (playerId : PlayerId) (r : PacketReader)
    (s : ServiceState F) : Bool × ServiceState F :=
  match (decodeMsgBuildRequest : Read (MsgBuildRequest F)).run r with
  | (none, _) => (false, s)
  | (some msg, _) =>
      if msg.playerId ≠ playerId then (false, s)
      else
        let s := heard s playerId
        let outcome := acHandleBuildRequest s.session s.whitelist s.nextObjectId msg
        let s := { s with session := outcome.session, nextObjectId := outcome.nextObjectId }
        let s := s.send fun session ctx =>
          (tlSendSingle session.sessionId connectionId .buildResult (reliable ||| ordered ||| ch3Work)
            (encodeMsgBuildResult outcome.result) ctx).2
        if outcome.result.accepted ≠ 0 then
          match findObject s.session outcome.result.objectNetId with
          | some obj => (true, s.send fun session => tlBroadcastObjectSpawn session obj)
          | none => (true, s)
        else (true, s)

/-- `MSG_OBJECT_MOVE_REQ` -/
def tlHandleObjectMoveReq (playerId : PlayerId) (r : PacketReader) (s : ServiceState F) :
    Bool × ServiceState F :=
  match (decodeMsgObjectMoveRequest : Read (MsgObjectMoveRequest F)).run r with
  | (none, _) => (false, s)
  | (some msg, _) =>
      if msg.playerId ≠ playerId then (false, s)
      else
        match acHandleObjectMove s.session msg with
        | none => (false, s)
        | some session =>
            let s := { s with session }
            match findObject s.session msg.objectNetId with
            | some obj => (true, s.send fun session => tlBroadcastObjectUpdate session obj
                (ObjectUpdateFields.position ||| ObjectUpdateFields.rotation |||
                  ObjectUpdateFields.stateFlags))
            | none => (true, s)

/-- `MSG_OBJECT_SCRAP_REQ` -/
def tlHandleObjectScrapReq (playerId : PlayerId) (r : PacketReader) (s : ServiceState F) :
    Bool × ServiceState F :=
  match decodeMsgObjectScrapRequest.run r with
  | (none, _) => (false, s)
  | (some msg, _) =>
      if msg.playerId ≠ playerId then (false, s)
      else
        match acHandleObjectScrap s.session msg with
        | none => (false, s)
        | some session =>
            let s := { s with session }
            (true, s.send fun session =>
              tlBroadcastObjectDespawn session msg.objectNetId odespawnScrapped)

/-- `MSG_DIALOGUE_SELECT` -/
def tlHandleDialogueSelect (playerId : PlayerId) (r : PacketReader) (s : ServiceState F) :
    Bool × ServiceState F :=
  match decodeMsgDialogueSelect.run r with
  | (none, _) => (false, s)
  | (some msg, _) =>
      match dspApplySelection s.session playerId msg with
      | none => (false, s)
      | some session =>
          (true, { s with
            session
            ctx := { s.ctx with
              hasPendingDialogueSelect := true
              pendingDialoguePlayerId := playerId
              pendingDialogueSelect := msg } })

/-- The `switch` over the type of a message from a connected player. -/
def tlHandlePlayerMessage (type : Option MessageType) (connectionId : UInt32) (playerId : PlayerId)
    (r : PacketReader) (s : ServiceState F) : Bool × ServiceState F :=
  match type with
  | some .ping => tlHandlePing connectionId playerId r s
  | some .disconnect => tlHandleDisconnect playerId r s
  | some .playerState => tlHandlePlayerState playerId r s
  | some .inputState => tlHandleInputState playerId r s
  | some .fireIntent => tlHandleFireIntent playerId r s
  | some .buildRequest => tlHandleBuildRequest connectionId playerId r s
  | some .objectMoveReq => tlHandleObjectMoveReq playerId r s
  | some .objectScrapReq => tlHandleObjectScrapReq playerId r s
  | some .dialogueSelect => tlHandleDialogueSelect playerId r s
  | _ => (false, s)

/-- `tl_handle_envelope` behind its headers. -/
def tlHandleMessage (store : ProfileStore) (connectionId : UInt32) (mh : MessageHeader)
    (r : PacketReader) (s : ServiceState F) : Bool × ServiceState F :=
  let type := MessageType.ofCode? mh.type
  if type = some .hello then tlHandleHello store connectionId r s
  else
    match tlFindPlayerByConnection s.session connectionId with
    | none => (false, s)
    | some player => tlHandlePlayerMessage type connectionId player.playerId r s

/-- `ctx->transport.last_rx_sequence = ph.sequence` -/
def received (s : ServiceState F) (sequence : UInt32) : ServiceState F :=
  { s with ctx := { s.ctx with transport := { s.ctx.transport with lastRxSequence := sequence } } }

def tlHandleEnvelope (store : ProfileStore) (env : TransportEnvelope) (s : ServiceState F) :
    Bool × ServiceState F :=
  if env.bytes.length < packetHeaderSize + messageHeaderSize then (false, s)
  else
    match decodePacketHeader.run (prInit env.bytes) with
    | (none, _) => (false, s)
    | (some ph, r) =>
        if f4mpValidatePacketHeader ph then
          let s := received s ph.sequence
          match decodeMessageHeader.run r with
          | (none, _) => (false, s)
          | (some mh, r) =>
              if f4mpValidateMessageHeader mh then tlHandleMessage store env.connectionId mh r s
              else (false, s)
        else (false, s)

/-! ## Ticks -/

/-- The players that were not heard for longer than the timeout. -/
def timedOutPlayers (s : ServiceState F) : List PlayerId :=
  if 0 < s.ctx.playerTimeoutTicks then
    (s.session.players.slots.filter fun p =>
      p.connected && decide (s.ctx.playerTimeoutTicks < s.ctx.currentTick - p.lastHeardTick)).map
        (·.playerId)
  else []

/-- A timed-out player leaves. -/
def timeOutPlayer (s : ServiceState F) (playerId : PlayerId) : ServiceState F :=
  let s := s.send fun session => tlBroadcastPlayerLeft session playerId
  { s with session := smRemovePlayer s.session playerId }

/-- `to_despawn[64]` of `tl_tick` -/
def actorsToDespawn (s : SessionState F) : List ActorNetId :=
  ((s.actors.slots.filter fun a => a.inUse && a.pendingDespawn && a.dead).map
    (·.actorNetId)).take 64

/-- A dead actor leaves. -/
def despawnActor (s : ServiceState F) (actorNetId : ActorNetId) : ServiceState F :=
  let s := s.send fun session => tlBroadcastActorDespawn session actorNetId adespawnDead
  { s with session := wsRemoveActor s.session actorNetId }

def tlTick (s : ServiceState F) : ServiceState F :=
  let s := { s with ctx := { s.ctx with currentTick := s.ctx.currentTick + 1 } }
  let s := (timedOutPlayers s).foldl timeOutPlayer s
  let s := { s with session := acTick s.session }
  (actorsToDespawn s.session).foldl despawnActor s

end F4MP.Service
