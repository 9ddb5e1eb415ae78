import F4MP.Protocol.Framing
import F4MP.Client.RemoteProxy

/-!
# Applying packets

`protocol_apply.c`: a client decodes one packet of the service and applies it to what it shows.
-/

namespace F4MP.Client
open SoftFloat CFloat Protocol Service

variable {F U : Type} [CFloat F]

/-- Everything that `plugin_apply_packet` can change. -/
structure ClientState (F U : Type) where
  actors : ActorProxies F
  objects : ObjectProxies F
  profile : ProxyProfileState
  combat : ProxyCombatState F
  dialogue : ProxyDialogueState
  quest : SessionQuestState
  manager : RemoteProxyManager F
  remote : RemotePlayers F U

/-- `proxy_runtime_init` and `rpm_init` -/
def freshClient (localPlayerId : PlayerId) (user : U) : ClientState F U where
  actors := .empty
  objects := .empty
  profile := {}
  combat := ⟨false, ⟨0, 0, lit 0 1, 0, 0, 0, lit 0 1⟩, false, {}⟩
  dialogue := {}
  quest := {}
  manager := rpmInit localPlayerId
  remote := ⟨.empty, user⟩

/-! ## Messages -/

def paApplyPlayerState (backend : RemoteProxyBackend F U) (msg : MsgPlayerState F)
    (c : ClientState F U) : Bool × ClientState F U :=
  let (done, manager, remote) := rpmApplyRemotePlayerState backend msg c.manager c.remote
  (done, { c with manager, remote })

/-- `MSG_PLAYER_LEFT`: the result of the removal is not looked at. -/
def applyPlayerLeft (backend : RemoteProxyBackend F U) (msg : MsgPlayerLeft)
    (c : ClientState F U) : Bool × ClientState F U :=
  (true, { c with remote := (rpmRemoveRemotePlayer backend msg.playerId c.manager c.remote).2 })

def paApplyActorSpawn (msg : MsgActorSpawn F) (c : ClientState F U) : Bool × ClientState F U :=
  let (done, actors) := proxySpawnActor
    ⟨msg.actorNetId, msg.baseFormId, msg.position, msg.rotation, msg.actorKind, msg.flags⟩ c.actors
  (done, { c with actors })

/-- `pa_apply_actor_state`: a state of an actor that is not shown spawns it first. -/
def paApplyActorState (msg : MsgActorState F) (c : ClientState F U) : Bool × ClientState F U :=
  let (spawned, actors) :=
    match Slots.lookup msg.actorNetId c.actors.slots with
    | some _ => (true, c.actors)
    | none => proxySpawnActor
        { actorNetId := msg.actorNetId, position := msg.position, rotation := msg.rotation } c.actors
  if !spawned then (false, { c with actors })
  else
    let (done, actors) := proxyUpdateActor
      ⟨msg.actorNetId, msg.position, msg.rotation, msg.healthNorm, msg.animState, msg.actorFlags,
        msg.targetNetId⟩ actors
    (done, { c with actors })

def paApplyActorDespawn (msg : MsgActorDespawn) (c : ClientState F U) : Bool × ClientState F U :=
  if c.actors.slots.any (Slots.holds msg.actorNetId) then
    (true, { c with
      dialogue := c.dialogue.interrupt msg.actorNetId
      actors := c.actors.modifyFirst (Slots.holds msg.actorNetId) fun _ => .zero })
  else (false, c)

def proxySetDamageResult (msg : MsgDamageResult F) (c : ClientState F U) : ClientState F U :=
  { c with
    combat := { c.combat with loaded := true, lastDamage := msg }
    actors := c.actors.modifyFirst (Slots.holds msg.victimActorNetId) (.damage msg) }

def proxySetDeathEvent (msg : MsgDeathEvent) (c : ClientState F U) : ClientState F U :=
  { c with
    combat := { c.combat with hasLastDeath := true, lastDeath := msg }
    actors := c.actors.modifyFirst (Slots.holds msg.victimActorNetId) .die
    dialogue := c.dialogue.interrupt msg.victimActorNetId }

def paApplyObjectSpawn (msg : MsgObjectSpawn F) (c : ClientState F U) : Bool × ClientState F U :=
  let (done, objects) := proxySpawnObject msg c.objects
  (done, { c with objects })

def paApplyObjectUpdate (msg : MsgObjectUpdate F) (c : ClientState F U) : Bool × ClientState F U :=
  let (done, objects) := proxyUpdateObject msg c.objects
  (done, { c with objects })

def paApplyObjectDespawn (msg : MsgObjectDespawn) (c : ClientState F U) : Bool × ClientState F U :=
  let (done, objects) := proxyDespawnObject msg.objectNetId c.objects
  (done, { c with objects })

/-- The cases of the `switch` in `plugin_apply_packet`, behind their decoders. -/
def applyMessage (backend : RemoteProxyBackend F U) :
    (type : MessageType) → Body F type → ClientState F U → Bool × ClientState F U
  | .profileSnapshot, msg, c =>
      (true, { c with profile := { c.profile with loaded := true, snapshot := msg } })
  | .profileItems, (h, items), c =>
      (true, { c with profile := proxySetProfileItems h items c.profile })
  | .profilePerks, (h, perks), c =>
      (true, { c with profile := proxySetProfilePerks h perks c.profile })
  | .profileAppearance, msg, c => (true, { c with profile := { c.profile with appearance := msg } })
  | .playerState, msg, c => paApplyPlayerState backend msg c
  | .playerLeft, msg, c => applyPlayerLeft backend msg c
  | .actorSpawn, msg, c => paApplyActorSpawn msg c
  | .actorState, msg, c => paApplyActorState msg c
  | .actorDespawn, msg, c => paApplyActorDespawn msg c
  | .damageResult, msg, c => (true, proxySetDamageResult msg c)
  | .deathEvent, msg, c => (true, proxySetDeathEvent msg c)
  | .dialogueOpen, msg, c => (true, { c with dialogue := proxySetDialogueOpen msg })
  | .dialogueLine, (msg, text), c =>
      (true, { c with dialogue := proxySetDialogueLine msg text c.dialogue })
  | .dialogueChoices, (h, choices), c =>
      (true, { c with dialogue := proxySetDialogueChoices h choices c.dialogue })
  | .dialogueClose, msg, c => (true, { c with dialogue := proxySetDialogueClose msg c.dialogue })
  | .questUpdate, (h, objs), c => (true, { c with quest := proxySetQuestUpdate h objs })
  | .objectSpawn, msg, c => paApplyObjectSpawn msg c
  | .objectUpdate, msg, c => paApplyObjectUpdate msg c
  | .objectDespawn, msg, c => paApplyObjectDespawn msg c
  | _, _, c => (false, c)

/-! ## Packets -/

variable [WireFloat F]

/-- `plugin_apply_packet`. The types that its `switch` does not have are refused, whether or not they
would decode. -/
def pluginApplyPacket (backend : RemoteProxyBackend F U) (bytes : List UInt8)
    (c : ClientState F U) : Bool × ClientState F U :=
  if bytes.length < packetHeaderSize + messageHeaderSize then (false, c)
  else
    match decodePacketHeader.run (prInit bytes) with
    | (none, _) => (false, c)
    | (some ph, r) =>
        if !f4mpValidatePacketHeader ph then (false, c)
        else
          match decodeMessageHeader.run r with
          | (none, _) => (false, c)
          | (some mh, r) =>
              if !f4mpValidateMessageHeader mh then (false, c)
              else
                match MessageType.ofCode? mh.type with
                | none => (false, c)
                | some type =>
                    match (decodeBody receiveCaps type : Read (Body F type)).run r with
                    | (none, _) => (false, c)
                    | (some body, _) => applyMessage backend type body c

theorem pluginApplyPacket_open (backend : RemoteProxyBackend F U) (bytes : List UInt8)
    (c : ClientState F U) : pluginApplyPacket backend bytes c =
      match openPacket bytes with
      | none => (false, c)
      | some (_, mh, r) =>
          match MessageType.ofCode? mh.type with
          | none => (false, c)
          | some type =>
              match (decodeBody receiveCaps type : Read (Body F type)).run r with
              | (none, _) => (false, c)
              | (some body, _) => applyMessage backend type body c := by
  by_cases short : bytes.length < packetHeaderSize + messageHeaderSize
  · simp only [pluginApplyPacket, openPacket, if_pos short]
  · simp only [pluginApplyPacket, openPacket, if_neg short]
    rcases decodePacketHeader.run (prInit bytes) with ⟨_ | ph, r⟩
    · rfl
    · cases valid : f4mpValidatePacketHeader ph with
      | false => simp [valid]
      | true =>
          rcases message : decodeMessageHeader.run r with ⟨_ | mh, r⟩
          · simp [valid, message]
          · cases check : f4mpValidateMessageHeader mh <;> simp [valid, message, check]

theorem pluginApplyPacket_carries {bytes : List UInt8} {type : MessageType} {body : Body F type}
    (carries : Carries bytes type body) (backend : RemoteProxyBackend F U) (c : ClientState F U) :
    pluginApplyPacket backend bytes c = applyMessage backend type body c := by
  obtain ⟨ph, mh, r, r', opened, known, decoded⟩ := carries
  rw [pluginApplyPacket_open, opened]
  simp only [known, decoded]

/-- A packet is applied as the message it carries, or changes nothing. -/
theorem pluginApplyPacket_cases (backend : RemoteProxyBackend F U) (bytes : List UInt8)
    (c : ClientState F U) :
    (∃ type, ∃ body : Body F type, Carries bytes type body ∧
      pluginApplyPacket backend bytes c = applyMessage backend type body c) ∨
    (∀ type, ∀ body : Body F type, ¬ Carries bytes type body) ∧
      pluginApplyPacket backend bytes c = (false, c) := by
  rw [pluginApplyPacket_open]
  cases opened : openPacket bytes with
  | none =>
      refine .inr ⟨fun type body carries => ?_, rfl⟩
      obtain ⟨_, _, _, _, opens, _⟩ := carries
      cases opened.symm.trans opens
  | some packet =>
      obtain ⟨ph, mh, r⟩ := packet
      dsimp only
      cases known : MessageType.ofCode? mh.type with
      | none =>
          refine .inr ⟨fun type body carries => ?_, rfl⟩
          obtain ⟨_, _, _, _, opens, code, _⟩ := carries
          obtain rfl := congrArg (·.2.1) (Option.some.inj (opened.symm.trans opens))
          cases known.symm.trans code
      | some type =>
          dsimp only
          rcases decoded : (decodeBody receiveCaps type : Read (Body F type)).run r with ⟨_ | body, r'⟩
          · refine .inr ⟨fun other body carries => ?_, rfl⟩
            obtain ⟨_, _, _, _, opens, code, reads⟩ := carries
            have packet := Option.some.inj (opened.symm.trans opens)
            obtain rfl := congrArg (·.2.1) packet
            obtain rfl := congrArg (·.2.2) packet
            obtain rfl := Option.some.inj (known.symm.trans code)
            cases congrArg Prod.fst (decoded.symm.trans reads)
          · exact .inl ⟨type, body, ⟨ph, mh, r, r', opened, known, decoded⟩, rfl⟩

/-- Packets are applied as they come. -/
def applyPackets (backend : RemoteProxyBackend F U) (packets : List (List UInt8))
    (c : ClientState F U) : ClientState F U :=
  packets.foldl (fun c bytes => (pluginApplyPacket backend bytes c).2) c

theorem applyPackets_snoc (backend : RemoteProxyBackend F U) (packets : List (List UInt8))
    (bytes : List UInt8) (c : ClientState F U) : applyPackets backend (packets ++ [bytes]) c =
      (pluginApplyPacket backend bytes (applyPackets backend packets c)).2 := List.foldl_append

/-- What every message keeps, every packet keeps. -/
theorem pluginApplyPacket_keep {backend : RemoteProxyBackend F U} {P : ClientState F U → Prop}
    (keeps : ∀ type (body : Body F type) c, P c → P (applyMessage backend type body c).2)
    {bytes : List UInt8} {c : ClientState F U} (before : P c) :
    P (pluginApplyPacket backend bytes c).2 := by
  rw [pluginApplyPacket_open]
  cases openPacket bytes with
  | none => exact before
  | some opened =>
      obtain ⟨_, mh, r⟩ := opened
      dsimp only
      cases MessageType.ofCode? mh.type with
      | none => exact before
      | some type =>
          dsimp only
          rcases (decodeBody receiveCaps type : Read (Body F type)).run r with ⟨_ | body, r⟩
          · exact before
          · exact keeps type body c before

theorem applyPackets_keep {backend : RemoteProxyBackend F U} {P : ClientState F U → Prop}
    (keeps : ∀ type (body : Body F type) c, P c → P (applyMessage backend type body c).2)
    (packets : List (List UInt8)) {c : ClientState F U} (before : P c) :
    P (applyPackets backend packets c) := by
  induction packets generalizing c with
  | nil => exact before
  | cons bytes packets ih => exact ih (pluginApplyPacket_keep keeps before)

end F4MP.Client
