import F4MP.Service.Post
import F4MP.Client.LiveClient

/-!
# The handshake of a client

A client that is not welcomed repeats its HELLO every few polls, unless a poll ends early.
-/

namespace F4MP.Client
open SoftFloat CFloat Protocol MessageFlags Service Transition

variable {F : Type} [CFloat F] [WireFloat F]

/-! ## What is sent -/

/-- The datagrams that `ptc_send_cached_hello` passes to `st_send`. -/
def helloDatagrams (F : Type) [WireFloat F] (c : PluginTransportClient) : List (List UInt8) :=
  if !c.helloPending then []
  else if 128 < c.helloPlayerGuid.length + 1 + (c.helloPlayerName.length + 1) then []
  else [packetBytes (F := F) c.sessionId (c.sequence + 1) .hello
    (reliable ||| ordered ||| ch0Control) (⟨c.helloBuildHash, 0⟩, c.helloPlayerGuid,
      c.helloPlayerName)]

/-- The datagrams of `ptc_maybe_retry_hello`. -/
def retryDatagrams (F : Type) [WireFloat F] (c : PluginTransportClient) : List (List UInt8) :=
  if c.connected || !c.helloPending then []
  else if c.helloSendCount = 0 then helloDatagrams F c
  else if c.pollCount - c.lastHelloPollCount < c.helloRetryIntervalPolls then []
  else helloDatagrams F c

/-- The datagrams of `ptc_poll_once`. -/
def pollDatagrams (received : Received) (c : PluginTransportClient) (shown : ClientState F Unit) :
    List (List UInt8) :=
  let c := { c with pollCount := c.pollCount + 1 }
  match received with
  | .nothing => retryDatagrams F c
  | .failed => []
  | .datagram bytes =>
      match openPacket bytes with
      | none => []
      | some (ph, mh, r) =>
          match ptcHandle bytes mh r { c with sessionId := ph.sessionId } shown with
          | (none, _) => []
          | (some _, c, _) => retryDatagrams F c

/-- The texts of a client fit its fields. -/
structure HelloFits (c : PluginTransportClient) : Prop where
  guid : c.helloPlayerGuid.Fits (f4mpMaxPlayerGuidBytes + 1)
  name : c.helloPlayerName.Fits (f4mpMaxPlayerNameBytes + 1)

section Datagrams
variable [LawfulWireFloat F] {c : PluginTransportClient} {shown : ClientState F Unit}

omit [CFloat F] in
theorem ptcSendOne_sendable {type : MessageType} {body : Body F type} (sendable : Sendable type body)
    (sockets : Sockets) (flags : UInt16) (c : PluginTransportClient) :
    ptcSendOne sockets type flags body c =
      (sockets.stSend (packetBytes c.sessionId (c.sequence + 1) type flags body),
        { c with sequence := c.sequence + 1 }) := by
  obtain ⟨mh, bare⟩ : ∃ mh : MessageHeader, { type := type.code, flags } = mh := ⟨_, rfl⟩
  obtain ⟨headerLength, headerEmits, _⟩ := sentPacketHeader_bytes c.sessionId (c.sequence + 1)
  obtain ⟨bodyLength, bodyEmits, _⟩ := sendable.payload
  obtain ⟨w, w', headersRan, payloadRan, payloadLen, patched⟩ :=
    packet_written headerEmits headerLength bodyEmits (bodyLength ▸ sendable.packet_fits) mh
  rw [sentPacketHeader] at headersRan
  simp only [ptcSendOne, bare, headersRan, payloadRan, payloadLen, patched]
  subst bare
  rw [packetBytes]
  rfl

omit [CFloat F] [WireFloat F] [LawfulWireFloat F] in
theorem HelloFits.sendable (fits : HelloFits c) : Sendable (F := F) .hello
    (⟨c.helloBuildHash, 0⟩, c.helloPlayerGuid, c.helloPlayerName) := by
  have guid := fits.guid.short
  have name := fits.name.short
  simp only [f4mpMaxPlayerGuidBytes, f4mpMaxPlayerNameBytes] at guid name
  refine ⟨⟨fits.guid, fits.name⟩, ⟨by omega, by omega⟩, ?_⟩
  simp only [bodySize, f4mpMaxPacketSize, packetHeaderSize, messageHeaderSize]
  omega

omit [CFloat F] in
theorem ptcSendCachedHello_congr (fits : HelloFits c) {sockets sockets' : Sockets}
    (agree : ∀ bytes ∈ helloDatagrams F c, sockets.stSend bytes = sockets'.stSend bytes)
    (isRetry : Bool) : ptcSendCachedHello F sockets isRetry c =
      ptcSendCachedHello F sockets' isRetry c := by
  rw [ptcSendCachedHello, ptcSendCachedHello]
  rw [helloDatagrams] at agree
  split
  · rfl
  · rename_i pending
    rw [if_neg pending] at agree
    split
    · rfl
    · rename_i short
      rw [if_neg short] at agree
      rw [ptcSendOne_sendable fits.sendable, ptcSendOne_sendable fits.sendable,
        agree _ (List.mem_singleton_self _)]

omit [CFloat F] in
theorem ptcMaybeRetryHello_congr (fits : HelloFits c) {sockets sockets' : Sockets}
    (agree : ∀ bytes ∈ retryDatagrams F c, sockets.stSend bytes = sockets'.stSend bytes) :
    ptcMaybeRetryHello F sockets c = ptcMaybeRetryHello F sockets' c := by
  rw [ptcMaybeRetryHello, ptcMaybeRetryHello]
  rw [retryDatagrams] at agree
  split
  · rfl
  · rename_i waits
    rw [if_neg waits] at agree
    split
    · rename_i first
      rw [if_pos first] at agree
      exact ptcSendCachedHello_congr fits agree false
    · rename_i again
      rw [if_neg again] at agree
      split
      · rfl
      · rename_i due
        rw [if_neg due] at agree
        exact ptcSendCachedHello_congr fits agree true

end Datagrams

/-! ## Polls -/

/-- The HELLO that a client has cached. -/
def PluginTransportClient.hello (c : PluginTransportClient) : Body F .hello :=
  (⟨c.helloBuildHash, 0⟩, c.helloPlayerGuid, c.helloPlayerName)

/-- The client is welcomed, or has a HELLO pending. -/
def PluginTransportClient.Waits (c : PluginTransportClient) : Prop := c.helloPending = !c.connected

/-- The last HELLO is as many polls ago as the retry interval asks for, at the next poll. -/
def PluginTransportClient.Due (c : PluginTransportClient) : Prop :=
  c.helloRetryIntervalPolls ≤ c.pollCount + 1 - c.lastHelloPollCount

/-- The texts of the HELLO fit `strings[128]`. -/
def PluginTransportClient.Short (c : PluginTransportClient) : Prop :=
  c.helloPlayerGuid.length + 1 + (c.helloPlayerName.length + 1) ≤ 128

/-- A client that is not welcomed comes to the end of a poll with this. -/
def passedOn (F : Type) [WireFloat F] : Received → Bool
  | .nothing => true
  | .failed => false
  | .datagram bytes =>
      match openPacket bytes with
      | none => false
      | some (_, mh, r) =>
          match MessageType.ofCode? mh.type with
          | some .welcome => ((decodeBody receiveCaps .welcome : Read (Body F .welcome)).run r).1.isSome
          | some .pong => ((decodeBody receiveCaps .pong : Read (Body F .pong)).run r).1.isSome
          | _ => true

/-- What a poll changes of a client that it does not welcome, before the HELLO. -/
structure Passed (c after : PluginTransportClient) : Prop where
  hello : after.hello (F := F) = c.hello
  pending : after.helloPending = c.helloPending
  connected : after.connected = c.connected
  sendCount : after.helloSendCount = c.helloSendCount
  pollCount : after.pollCount = c.pollCount
  lastHelloPollCount : after.lastHelloPollCount = c.lastHelloPollCount
  interval : after.helloRetryIntervalPolls = c.helloRetryIntervalPolls

section Poll
variable {c : PluginTransportClient} {shown : ClientState F Unit}

omit [CFloat F] in
theorem passedOn_other {bytes : List UInt8} {ph : PacketHeader} {mh : MessageHeader}
    {r : PacketReader} (opened : openPacket bytes = some (ph, mh, r))
    (notWelcome : MessageType.ofCode? mh.type ≠ some .welcome)
    (notPong : MessageType.ofCode? mh.type ≠ some .pong) : passedOn F (.datagram bytes) = true := by
  simp only [passedOn, opened]

theorem ptcHandle_passed {bytes : List UInt8} {ph : PacketHeader} {mh : MessageHeader}
    {r : PacketReader} (opened : openPacket bytes = some (ph, mh, r)) (c : PluginTransportClient)
    (shown : ClientState F Unit) :
    (c.connected = false →
      (ptcHandle bytes mh r c shown).1.isSome = passedOn F (.datagram bytes)) ∧
    (welcomeOf F (.datagram bytes) = none →
      Passed (F := F) c (ptcHandle bytes mh r c shown).2.1) ∧
    ∀ w, welcomeOf F (.datagram bytes) = some w → (ptcHandle bytes mh r c shown).2.1 =
      { c with connected := true, helloPending := false, localPlayerId := w.playerId,
               tickRate := w.tickRate } := by
  have welcomes : welcomeOf F (.datagram bytes) =
      if MessageType.ofCode? mh.type = some .welcome then
        ((decodeBody receiveCaps .welcome : Read (Body F .welcome)).run r).1
      else none := by
    rw [welcomeOf, messageOf?, opened]
  have same : Passed (F := F) c c := ⟨rfl, rfl, rfl, rfl, rfl, rfl, rfl⟩
  rw [welcomes]
  unfold ptcHandle
  split
  · rename_i known
    simp only [passedOn, opened, known, if_true]
    rcases (decodeBody receiveCaps .welcome : Read (Body F .welcome)).run r with ⟨_ | w, r'⟩
    · exact ⟨fun _ => rfl, fun _ => same, fun _ found => by cases found⟩
    · refine ⟨fun _ => rfl, (fun none => by cases none), fun w' found => ?_⟩
      obtain rfl := Option.some.inj found
      rfl
  · rename_i known
    simp only [passedOn, opened, known]
    rcases (decodeBody receiveCaps .pong : Read (Body F .pong)).run r with ⟨_ | p, r'⟩
    · exact ⟨fun _ => rfl, fun _ => same, fun _ found => by cases found⟩
    · exact ⟨fun _ => rfl, fun _ => ⟨rfl, rfl, rfl, rfl, rfl, rfl, rfl⟩, fun _ found => by cases found⟩
  · rename_i notWelcome notPong
    rw [if_neg notWelcome, passedOn_other opened notWelcome notPong]
    obtain ⟨counted, isCounted, before⟩ : ∃ counted, counted = (if c.connected then c
        else { c with preWelcomePacketCount := c.preWelcomePacketCount + 1 }) ∧
        Passed (F := F) c counted := by
      refine ⟨_, rfl, ?_⟩
      split
      · exact same
      · exact ⟨rfl, rfl, rfl, rfl, rfl, rfl, rfl⟩
    rw [← isCounted]
    rcases pluginApplyPacket defaultBackend bytes shown with ⟨_ | _, shown'⟩
    · refine ⟨fun unwelcomed => ?_, fun _ => ?_, fun _ found => by cases found⟩
      · rw [← before.connected] at unwelcomed
        simp only [unwelcomed, Bool.false_eq_true, if_false]
        rfl
      · dsimp only
        split
        · exact before
        · exact ⟨before.hello, before.pending, before.connected, before.sendCount, before.pollCount,
            before.lastHelloPollCount, before.interval⟩
    · exact ⟨fun _ => rfl, fun _ => before, fun _ found => by cases found⟩

theorem ptcHandle_hello {bytes : List UInt8} {ph : PacketHeader} {mh : MessageHeader}
    {r : PacketReader} (opened : openPacket bytes = some (ph, mh, r)) (c : PluginTransportClient)
    (shown : ClientState F Unit) :
    (ptcHandle bytes mh r c shown).2.1.hello (F := F) = c.hello := by
  obtain ⟨_, passed, welcomes⟩ := ptcHandle_passed opened c shown
  cases welcome : welcomeOf F (.datagram bytes) with
  | none => exact (passed welcome).hello
  | some w =>
      rw [welcomes w welcome]
      rfl

variable [LawfulWireFloat F]

omit [CFloat F] in
theorem ptcMaybeRetryHello_refused (fits : HelloFits c) {sockets : Sockets} {bytes : List UInt8}
    (sent : bytes ∈ retryDatagrams F c) (refused : sockets.stSend bytes = false) :
    (ptcMaybeRetryHello F sockets c).1 = false := by
  have cached : ∀ isRetry, bytes ∈ helloDatagrams F c →
      (ptcSendCachedHello F sockets isRetry c).1 = false := by
    intro isRetry sent
    rw [helloDatagrams] at sent
    rw [ptcSendCachedHello]
    split
    · rfl
    · rename_i pending
      rw [if_neg pending] at sent
      split
      · rfl
      · rename_i short
        rw [if_neg short, List.mem_singleton] at sent
        rw [ptcSendOne_sendable fits.sendable, ← sent, refused]
  rw [retryDatagrams] at sent
  rw [ptcMaybeRetryHello]
  split
  · rename_i waits
    rw [if_pos waits] at sent
    cases sent
  · rename_i waits
    rw [if_neg waits] at sent
    split
    · rename_i first
      rw [if_pos first] at sent
      exact cached false sent
    · rename_i again
      rw [if_neg again] at sent
      split
      · rename_i early
        rw [if_pos early] at sent
        cases sent
      · rename_i due
        rw [if_neg due] at sent
        exact cached true sent

/-- A poll depends on the sockets through what it receives and the datagrams it passes to `st_send`. -/
theorem ptcPollOnce_congr (fits : HelloFits c) {received : Received}
    {stSend stSend' : List UInt8 → Bool}
    (agree : ∀ bytes ∈ pollDatagrams received c shown, stSend bytes = stSend' bytes) :
    ptcPollOnce ⟨received, stSend⟩ c shown = ptcPollOnce ⟨received, stSend'⟩ c shown := by
  have polled : ∀ result : Option Bool × PluginTransportClient × ClientState F Unit,
      HelloFits result.2.1 → (result.1.isSome → ∀ bytes ∈ retryDatagrams F result.2.1,
        stSend bytes = stSend' bytes) →
      ptcPolled ⟨received, stSend⟩ result = ptcPolled ⟨received, stSend'⟩ result := by
    rintro ⟨_ | applied, c', shown'⟩ fits' agree'
    · rfl
    · have agree' : ∀ bytes ∈ retryDatagrams F c', (⟨received, stSend⟩ : Sockets).stSend bytes =
          (⟨received, stSend'⟩ : Sockets).stSend bytes := agree' rfl
      rw [ptcPolled, ptcPolled, ptcMaybeRetryHello_congr fits' agree']
  cases received with
  | nothing => exact polled (some false, _, shown) ⟨fits.guid, fits.name⟩ fun _ => agree
  | failed => rfl
  | datagram bytes =>
      simp only [ptcPollOnce]
      simp only [pollDatagrams] at agree
      cases opened : openPacket bytes with
      | none => rfl
      | some packet =>
          obtain ⟨ph, mh, r⟩ := packet
          rw [opened] at agree
          dsimp only at agree ⊢
          have handled := ptcHandle_hello opened
            { c with pollCount := c.pollCount + 1, sessionId := ph.sessionId } shown
          generalize ptcHandle bytes mh r _ shown = result at agree handled
          obtain ⟨_ | applied, c', shown'⟩ := result
          · rfl
          · refine polled (some applied, c', shown') ?_ fun _ => agree
            have guid : c'.helloPlayerGuid = c.helloPlayerGuid := congrArg (·.2.1) handled
            have name : c'.helloPlayerName = c.helloPlayerName := congrArg (·.2.2) handled
            exact ⟨guid ▸ fits.guid, name ▸ fits.name⟩

omit [CFloat F] in
theorem helloDatagrams_pending (fits : HelloFits c) (pending : c.helloPending = true) :
    (c.Short → ∃ bytes, helloDatagrams F c = [bytes] ∧
      (messageOf? .hello bytes : Option (Body F .hello)) = some c.hello) ∧
      (¬c.Short → helloDatagrams F c = []) := by
  rw [helloDatagrams, pending, Bool.not_true, if_neg Bool.false_ne_true]
  constructor
  · intro short
    rw [if_neg (Nat.not_lt.mpr short)]
    exact ⟨_, rfl, messageOf?_eq_some.mpr (packetBytes_carries fits.sendable _ _ _)⟩
  · intro long
    rw [if_pos (Nat.not_le.mp long)]

omit [CFloat F] [LawfulWireFloat F] in
theorem retryDatagrams_due (unwelcomed : c.connected = false) (pending : c.helloPending = true)
    (due : c.helloRetryIntervalPolls ≤ c.pollCount - c.lastHelloPollCount) :
    retryDatagrams F c = helloDatagrams F c := by
  rw [retryDatagrams, unwelcomed, pending, Bool.not_true, Bool.or_self,
    if_neg Bool.false_ne_true, if_neg (UInt32.not_lt.mpr due), ite_self]

omit [CFloat F] [LawfulWireFloat F] in
theorem retryDatagrams_none (none : helloDatagrams F c = []) : retryDatagrams F c = [] := by
  rw [retryDatagrams, none, ite_self, ite_self, ite_self]

omit [CFloat F] [LawfulWireFloat F] in
theorem retryDatagrams_connected (connected : c.connected = true) : retryDatagrams F c = [] := by
  rw [retryDatagrams, connected, Bool.true_or, if_pos rfl]

omit [LawfulWireFloat F] in
theorem pollDatagrams_welcomed {received : Received}
    (welcomed : c.connected = true ∨ (welcomeOf F received).isSome) :
    pollDatagrams received c shown = [] := by
  cases received with
  | nothing =>
      rcases welcomed with connected | welcome
      · exact retryDatagrams_connected connected
      · cases welcome
  | failed => rfl
  | datagram bytes =>
      simp only [pollDatagrams]
      cases opened : openPacket bytes with
      | none => rfl
      | some packet =>
          obtain ⟨ph, mh, r⟩ := packet
          obtain ⟨_, passed, welcomes⟩ := ptcHandle_passed opened
            { c with pollCount := c.pollCount + 1, sessionId := ph.sessionId } shown
          have connected : (ptcHandle bytes mh r
              { c with pollCount := c.pollCount + 1, sessionId := ph.sessionId }
              shown).2.1.connected = true := by
            cases welcome : welcomeOf F (.datagram bytes) with
            | some w => rw [welcomes w welcome]
            | none =>
                rw [(passed welcome).connected]
                rw [welcome] at welcomed
                exact welcomed.resolve_right Bool.false_ne_true
          dsimp only
          generalize ptcHandle bytes mh r _ shown = result at connected
          obtain ⟨_ | applied, c', shown'⟩ := result
          · rfl
          · exact retryDatagrams_connected connected

variable (shown) in
omit [LawfulWireFloat F] in
theorem pollDatagrams_unwelcomed {received : Received} (unwelcomed : c.connected = false)
    (none : welcomeOf F received = none) :
    (passedOn F received = true → ∃ after, Passed (F := F) { c with pollCount := c.pollCount + 1 }
      after ∧ pollDatagrams received c shown = retryDatagrams F after) ∧
    (passedOn F received = false → pollDatagrams received c shown = []) := by
  cases received with
  | nothing =>
      refine ⟨fun _ => ⟨_, ⟨rfl, rfl, rfl, rfl, rfl, rfl, rfl⟩, rfl⟩, fun early => ?_⟩
      cases early
  | failed => exact ⟨(fun passed => by cases passed), fun _ => rfl⟩
  | datagram bytes =>
      simp only [pollDatagrams]
      cases opened : openPacket bytes with
      | none =>
          refine ⟨fun passed => ?_, fun _ => rfl⟩
          rw [passedOn, opened] at passed
          cases passed
      | some packet =>
          obtain ⟨ph, mh, r⟩ := packet
          obtain ⟨ends, passed, _⟩ := ptcHandle_passed opened
            { c with pollCount := c.pollCount + 1, sessionId := ph.sessionId } shown
          replace ends := ends unwelcomed
          replace passed := passed none
          dsimp only at ends passed ⊢
          rw [← ends]
          generalize ptcHandle bytes mh r _ shown = result at passed
          obtain ⟨_ | applied, c', shown'⟩ := result
          · exact ⟨(fun passed => by cases passed), fun _ => rfl⟩
          · refine ⟨fun _ => ⟨c', ⟨passed.hello, passed.pending, passed.connected, passed.sendCount,
              passed.pollCount, passed.lastHelloPollCount, passed.interval⟩, rfl⟩, fun early => ?_⟩
            cases early

end Poll

/-! ## Runs -/

/-- A call on a client whose `st_send` takes everything; a poll receives a datagram, or nothing. -/
inductive ClientCall (F : Type) where
  | poll (received : Option (List UInt8))
  | playerState (msg : MsgPlayerState F)
  | ping (timeMs : UInt32)
  | disconnect (reason : UInt8)

def outcomeOf : Option (List UInt8) → Received
  | none => .nothing
  | some bytes => .datagram bytes

def clientStep (s : PluginTransportClient × ClientState F Unit) (call : ClientCall F) :
    PluginTransportClient × ClientState F Unit :=
  let sockets : Sockets := ⟨.nothing, fun _ => true⟩
  match call with
  | .poll received => (ptcPollOnce { sockets with received := outcomeOf received } s.1 s.2).2
  | .playerState msg => ((ptcSendPlayerState sockets msg s.1).2, s.2)
  | .ping timeMs => ((ptcSendPing F sockets timeMs s.1).2, s.2)
  | .disconnect reason => ((ptcSendDisconnect F sockets reason s.1).2, s.2)

/-- A poll repeats the HELLO when it is due, until a WELCOME comes. -/
def Retries (hello : Body F .hello) (s : PluginTransportClient × ClientState F Unit) :
    ClientCall F → Prop
  | .poll received =>
      let sent := pollDatagrams (outcomeOf received) s.1 s.2
      (s.1.connected = false → welcomeOf F (outcomeOf received) = none → s.1.Due →
        ∃ bytes, sent = [bytes] ∧
          (messageOf? .hello bytes : Option (Body F .hello)) = some hello) ∧
      (s.1.connected = true ∨ (welcomeOf F (outcomeOf received)).isSome → sent = [])
  | _ => True

/-- A poll at which the HELLO is due ends early, or the HELLO is too long. -/
def Misses (s : PluginTransportClient × ClientState F Unit) : ClientCall F → Prop
  | .poll received => s.1.connected = false ∧ welcomeOf F (outcomeOf received) = none ∧ s.1.Due ∧
      (passedOn F (outcomeOf received) = false ∨ ¬s.1.Short)
  | _ => False

/-- The client still has this HELLO to send, or was welcomed. -/
structure Greets (hello : Body F .hello) (c : PluginTransportClient) : Prop where
  fits : HelloFits c
  same : c.hello = hello
  waits : c.Waits

section Runs
variable {c : PluginTransportClient} {s : PluginTransportClient × ClientState F Unit}
  {hello : Body F .hello}

omit [CFloat F] [WireFloat F] in
theorem Greets.of_passed (greets : Greets hello c) {after : PluginTransportClient}
    (cached : after.hello (F := F) = c.hello) (waits : after.Waits) : Greets hello after := by
  have guid : after.helloPlayerGuid = c.helloPlayerGuid := congrArg (·.2.1) cached
  have name : after.helloPlayerName = c.helloPlayerName := congrArg (·.2.2) cached
  exact ⟨⟨guid ▸ greets.fits.guid, name ▸ greets.fits.name⟩, cached.trans greets.same, waits⟩

omit [CFloat F] in
theorem ptcSendCachedHello_kept (sockets : Sockets) (isRetry : Bool) (c : PluginTransportClient) :
    let after := (ptcSendCachedHello F sockets isRetry c).2
    after.hello (F := F) = c.hello ∧ after.helloPending = c.helloPending ∧
      after.connected = c.connected := by
  have frame := ptcSendOne_frame (F := F) sockets .hello (reliable ||| ordered ||| ch0Control)
    (⟨c.helloBuildHash, 0⟩, c.helloPlayerGuid, c.helloPlayerName) c
  unfold ptcSendCachedHello
  split
  · exact ⟨rfl, rfl, rfl⟩
  · split
    · exact ⟨rfl, rfl, rfl⟩
    · generalize ptcSendOne (F := F) sockets .hello (reliable ||| ordered ||| ch0Control)
        (⟨c.helloBuildHash, 0⟩, c.helloPlayerGuid, c.helloPlayerName) c = sent at frame
      obtain ⟨_ | _, c'⟩ := sent <;> obtain rfl : c' = _ := frame <;> exact ⟨rfl, rfl, rfl⟩

omit [CFloat F] in
theorem ptcMaybeRetryHello_kept (sockets : Sockets) (c : PluginTransportClient) :
    let after := (ptcMaybeRetryHello F sockets c).2
    after.hello (F := F) = c.hello ∧ after.helloPending = c.helloPending ∧
      after.connected = c.connected := by
  unfold ptcMaybeRetryHello
  split
  · exact ⟨rfl, rfl, rfl⟩
  · split
    · exact ptcSendCachedHello_kept sockets false c
    · split
      · exact ⟨rfl, rfl, rfl⟩
      · exact ptcSendCachedHello_kept sockets true c

theorem ptcPollOnce_greets (greets : Greets hello c) (sockets : Sockets)
    (shown : ClientState F Unit) : Greets hello (ptcPollOnce sockets c shown).2.1 := by
  have polled : ∀ result : Option Bool × PluginTransportClient × ClientState F Unit,
      Greets hello result.2.1 → Greets hello (ptcPolled sockets result).2.1 := by
    rintro ⟨_ | applied, c', shown'⟩ greets'
    · exact greets'
    · obtain ⟨cached, pending, connected⟩ := ptcMaybeRetryHello_kept (F := F) sockets c'
      have after : Greets hello (ptcMaybeRetryHello F sockets c').2 :=
        greets'.of_passed cached (pending.trans (greets'.waits.trans (by rw [connected])))
      rw [ptcPolled]
      generalize ptcMaybeRetryHello F sockets c' = retried at after
      obtain ⟨_ | _, c''⟩ := retried <;> exact after
  have counted : Greets hello { c with pollCount := c.pollCount + 1 } :=
    greets.of_passed rfl greets.waits
  unfold ptcPollOnce
  dsimp only
  split
  · exact polled (some false, _, shown) counted
  · exact counted
  · split
    · exact counted
    · rename_i _ bytes _ _ ph mh r opened
      refine polled _ ?_
      obtain ⟨_, passed, welcomes⟩ := ptcHandle_passed opened
        { c with pollCount := c.pollCount + 1, sessionId := ph.sessionId } shown
      refine counted.of_passed (ptcHandle_hello opened _ shown) ?_
      cases welcome : welcomeOf F (.datagram bytes) with
      | none =>
          rw [PluginTransportClient.Waits, (passed welcome).pending, (passed welcome).connected]
          exact greets.waits
      | some w =>
          rw [welcomes w welcome]
          rfl

theorem clientStep_greets (greets : Greets hello s.1) (call : ClientCall F) :
    Greets hello (clientStep s call).1 := by
  cases call with
  | poll received => exact ptcPollOnce_greets greets _ s.2
  | playerState msg =>
      simp only [clientStep, ptcSendPlayerState, ptcSendOne_frame]
      exact greets.of_passed rfl greets.waits
  | ping timeMs =>
      have frame := ptcSendOne_frame (F := F) ⟨.nothing, fun _ => true⟩ .ping ch0Control ⟨timeMs⟩ s.1
      simp only [clientStep, ptcSendPing]
      generalize ptcSendOne (F := F) _ .ping ch0Control _ s.1 = sent at frame
      obtain ⟨_ | _, c'⟩ := sent <;> obtain rfl : c' = _ := frame <;>
        exact greets.of_passed rfl greets.waits
  | disconnect reason =>
      simp only [clientStep, ptcSendDisconnect, ptcSendOne_frame]
      exact greets.of_passed rfl greets.waits

/-- A poll repeats the HELLO as it should exactly if it is none that misses it. -/
theorem retries_iff [LawfulWireFloat F] (greets : Greets hello s.1) (call : ClientCall F) :
    Retries hello s call ↔ ¬Misses s call := by
  cases call with
  | playerState | ping | disconnect => exact iff_of_true trivial fun misses => misses
  | poll received =>
      simp only [Retries, Misses]
      have cached : ∀ after, Passed (F := F) { s.1 with pollCount := s.1.pollCount + 1 } after →
          Greets hello after := fun after passed => by
        refine greets.of_passed passed.hello ?_
        rw [PluginTransportClient.Waits, passed.pending, passed.connected]
        exact greets.waits
      have short : ∀ after, Passed (F := F) { s.1 with pollCount := s.1.pollCount + 1 } after →
          (after.Short ↔ s.1.Short) := fun after passed => by
        have guid : after.helloPlayerGuid = s.1.helloPlayerGuid := congrArg (·.2.1) passed.hello
        have name : after.helloPlayerName = s.1.helloPlayerName := congrArg (·.2.2) passed.hello
        rw [PluginTransportClient.Short, guid, name, PluginTransportClient.Short]
      have pending : s.1.connected = false → ∀ after,
          Passed (F := F) { s.1 with pollCount := s.1.pollCount + 1 } after →
          after.connected = false ∧ after.helloPending = true := fun unwelcomed after passed => by
        refine ⟨passed.connected.trans unwelcomed, ?_⟩
        rw [(cached after passed).waits, passed.connected, unwelcomed]
        rfl
      constructor
      · rintro ⟨retries, _⟩ ⟨unwelcomed, none, due, missed⟩
        obtain ⟨bytes, sent, _⟩ := retries unwelcomed none due
        obtain ⟨ends, early⟩ := pollDatagrams_unwelcomed s.2 unwelcomed none
        cases passes : passedOn F (outcomeOf received) with
        | false =>
            rw [early passes] at sent
            cases sent
        | true =>
            obtain ⟨after, passed, eq⟩ := ends passes
            have long := missed.resolve_left fun early => by rw [passes] at early; cases early
            have nothing := (helloDatagrams_pending (F := F) (cached after passed).fits
              (pending unwelcomed after passed).2).2 fun fits => long ((short after passed).mp fits)
            rw [eq, retryDatagrams_none nothing] at sent
            cases sent
      · intro handled
        refine ⟨fun unwelcomed none due => ?_, pollDatagrams_welcomed⟩
        obtain ⟨ends, _⟩ := pollDatagrams_unwelcomed s.2 unwelcomed none
        cases passes : passedOn F (outcomeOf received) with
        | false => exact absurd ⟨unwelcomed, none, due, .inl passes⟩ handled
        | true =>
            obtain ⟨after, passed, eq⟩ := ends passes
            obtain ⟨connected, isPending⟩ := pending unwelcomed after passed
            have fits : after.Short := by
              by_contra long
              exact handled ⟨unwelcomed, none, due, .inr fun fits => long ((short after passed).mpr fits)⟩
            obtain ⟨bytes, sent, carried⟩ :=
              (helloDatagrams_pending (F := F) (cached after passed).fits isPending).1 fits
            refine ⟨bytes, ?_, carried.trans (congrArg some (cached after passed).same)⟩
            rw [eq, retryDatagrams_due connected isPending, sent]
            rw [passed.interval, passed.pollCount, passed.lastHelloPollCount]
            exact due

theorem strncpyField_fits (size : Nat) (text : Text) :
    (strncpyField (size + 1) text).Fits (size + 1) where
  noNul inside := cString_noNul text (List.mem_of_mem_take inside)
  short := by
    rw [strncpyField, List.length_take]
    omega

end Runs

end F4MP.Client
