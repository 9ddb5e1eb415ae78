import F4MP.Service.Identity

/-!
# A HELLO that is sent twice

A client repeats its HELLO until it is welcomed. The second one finds the seat of the first when the
registry kept the GUID.
-/

namespace F4MP.Service
open SoftFloat Protocol

variable {F : Type}

/-! ## What a binding keeps -/

/-- The registry keeps a GUID that fits an entry, when it has an entry left. -/
def Keeps (registry : Registry) (playerGuid : Text) : Prop :=
  playerGuid ≠ [] ∧ playerGuid.length ≤ 63 ∧ registry.slots.countP (·.inUse) < 32

instance (registry : Registry) (playerGuid : Text) : Decidable (Keeps registry playerGuid) :=
  inferInstanceAs (Decidable (_ ∧ _ ∧ _))

theorem keptGuid_eq_self {playerGuid : Text} (whole : cString playerGuid = playerGuid) :
    keptGuid playerGuid = playerGuid ↔ playerGuid.length ≤ 63 := by
  rw [keptGuid, strncpyField, whole]
  exact List.take_eq_self_iff playerGuid

theorem srFindPlayerId_srBindPlayer {registry : Registry} {playerGuid : Text} (id : PlayerId)
    (whole : cString playerGuid = playerGuid)
    (unbound : srFindPlayerId registry playerGuid = none) :
    srFindPlayerId (srBindPlayer registry playerGuid id) playerGuid =
      if Keeps registry playerGuid then some id else none := by
  have missing : Slots.lookup playerGuid registry.slots = none := by
    simpa [srFindPlayerId] using unbound
  have absent : ¬ registry.slots.any (Slots.holds playerGuid) = true := by
    rw [Slots.lookup_isSome_iff, missing]
    exact Bool.false_ne_true
  simp only [srBindPlayer, absent, Bool.false_eq_true, if_false]
  by_cases named : playerGuid = []
  · rw [if_pos named, if_neg fun keeps => keeps.1 named, unbound]
  · rw [if_neg named]
    have room := Slots.Table.claim_isSome_iff (⟨true, keptGuid playerGuid, id⟩ : SessionRegistryEntry)
      registry
    cases claimed : registry.claim Slots.free ⟨true, keptGuid playerGuid, id⟩ with
    | none =>
        rw [claimed] at room
        rw [if_neg fun keeps => absurd (room.mpr keeps.2.2) (by simp)]
        exact (congrArg (fun r => srFindPlayerId (r.getD registry) playerGuid) claimed).trans unbound
    | some after =>
        rw [claimed] at room
        have free := room.mp rfl
        have bound : srFindPlayerId after playerGuid =
            if Keeps registry playerGuid then some id else none := by
          have step := Slots.Table.claim_slots claimed
          by_cases short : playerGuid.length ≤ 63
          · have kept := (keptGuid_eq_self whole).mpr short
            rw [kept] at step
            rw [if_pos ⟨named, short, free⟩, srFindPlayerId, Slots.lookup_claim step rfl missing]
            exact congrArg (Option.map _) (if_pos rfl)
          · have other : keptGuid playerGuid ≠ playerGuid := mt (keptGuid_eq_self whole).mp short
            rw [if_neg fun keeps => short keeps.2.1, srFindPlayerId, Slots.lookup,
              Slots.find?_claim_of_disjoint step (by simp [Slots.holds, Slots.Slot.key, other])
                fun _ => Slots.holds_of_free]
            simpa [Slots.lookup] using missing
        exact (congrArg (fun r => srFindPlayerId (r.getD registry) playerGuid) claimed).trans bound

/-! ## Sitting down twice -/

theorem sit_sit (id : PlayerId) (connectionId : UInt32) (playerGuid : Text) (seats : List Seat) :
    sit id connectionId playerGuid (sit id connectionId playerGuid seats) =
      sit id connectionId playerGuid seats := by
  rw [sit, sit, List.set_set]

theorem letIn_eq_some {r after : Roster} {playerGuid : Text} {connectionId : UInt32} {id : PlayerId}
    (sat : r.letIn playerGuid connectionId = some (id, after)) :
    r.seatFor playerGuid = some id ∧ after.seats = sit id connectionId playerGuid r.seats ∧
      after.registry = if (srFindPlayerId r.registry playerGuid).isSome then r.registry
        else srBindPlayer r.registry playerGuid id := by
  obtain ⟨_, given, eq⟩ := Option.map_eq_some_iff.mp sat
  obtain ⟨rfl, rfl⟩ := Prod.mk.inj eq
  exact ⟨given, rfl, rfl⟩

theorem letIn_bound {r after : Roster} {playerGuid : Text} {connectionId : UInt32} {id : PlayerId}
    (whole : cString playerGuid = playerGuid)
    (sat : r.letIn playerGuid connectionId = some (id, after)) :
    srFindPlayerId after.registry playerGuid =
      if (srFindPlayerId r.registry playerGuid).isSome ∨ Keeps r.registry playerGuid then some id
      else none := by
  obtain ⟨given, _, registry⟩ := letIn_eq_some sat
  rw [registry]
  cases bound : srFindPlayerId r.registry playerGuid with
  | some found => simpa [Roster.seatFor, bound] using given
  | none => simpa [bound] using srFindPlayerId_srBindPlayer id whole bound

theorem letIn_taken {r after : Roster} (aligned : Aligned r) {playerGuid : Text}
    {connectionId : UInt32} {id : PlayerId}
    (sat : r.letIn playerGuid connectionId = some (id, after)) : lowestFree after.seats ≠ some id := by
  intro lowest
  obtain ⟨given, seats, _⟩ := letIn_eq_some sat
  obtain ⟨low, high⟩ := aligned.seatFor given
  have inside : id.toNat - 1 < r.seats.length := by
    rw [aligned.size, maxPlayersPerSession]
    omega
  rw [seats] at lowest
  exact lowestFree_free lowest (sit_get inside connectionId playerGuid) rfl rfl

/-! ## What a HELLO is answered -/

section Hello
variable [CFloat F] [WireFloat F]

/-- The player id in a WELCOME packet. -/
def welcomeIn (bytes : List UInt8) : Option PlayerId :=
  match openPacket bytes with
  | some (_, mh, r) =>
      if MessageType.ofCode? mh.type = some .welcome then
        (decodeMsgWelcome.run r).1.map (·.playerId)
      else none
  | none => none

/-- The player id that the first packet in the queue welcomes. -/
def welcomedAs (s : ServiceState F) : Option PlayerId :=
  s.ctx.outputs.head?.bind fun output => welcomeIn output.bytes

omit [CFloat F] in
theorem welcomeIn_packetBytes [LawfulWireFloat F] (sessionId : SessionId) (sequence : UInt32)
    (flags : UInt16) (msg : Body F .welcome) :
    welcomeIn (packetBytes sessionId sequence .welcome flags msg) = some msg.playerId := by
  have sendable : Sendable .welcome msg := sendable_of_plainMessage rfl msg
  have opened := openPacket_packetBytes sendable sessionId sequence flags
  have read := packetBytes_read sendable sessionId sequence flags
  have decoded : (decodeMsgWelcome.run _).1 = some msg := congrArg Prod.fst read
  simp only [welcomeIn, opened, sentMessageHeader, MessageType.ofCode?_code, if_true, decoded,
    Option.map_some]

/-- A HELLO to an empty queue lets its GUID in, and welcomes it under the id of its seat. -/
theorem tlHandleEnvelope_letIn [LawfulWireFloat F] (store : ProfileStore) {env : TransportEnvelope}
    {playerGuid playerName : Text} (hello : helloOf? env.bytes = some (playerGuid, playerName))
    {s : ServiceState F} (aligned : Aligned s.roster) (empty : s.ctx.outputs = []) :
    match s.roster.letIn playerGuid env.connectionId with
    | none => (tlHandleEnvelope store env s).1 = false
    | some (id, after) => (tlHandleEnvelope store env s).1 = true ∧
        (tlHandleEnvelope store env s).2.roster = after ∧
        welcomedAs (tlHandleEnvelope store env s).2 = some id := by
  obtain ⟨sequence, handled⟩ := @tlHandleEnvelope_hello F _ _ store env _ _ hello s
  have aligned : Aligned (received s sequence).roster := aligned
  have sat := takeSeat_letIn store aligned playerGuid playerName env.connectionId
  have same : (received s sequence).roster = s.roster := rfl
  rw [same] at sat
  rw [handled, ← sat]
  cases takes : takeSeat (received s sequence) playerGuid env.connectionId with
  | none => simp [tlAcceptHello, takes]
  | some seat =>
      obtain ⟨id, taken⟩ := seat
      obtain ⟨slot, found⟩ := findPlayer_takeSeat takes
      obtain ⟨posts, ok, _, complete, stopped, answered⟩ :=
        @tlAcceptHello_posts F _ _ _ store _ _ playerName _ _ _ _ takes found
      have accepted : ok = true := by
        by_contra refused
        have full := stopped (by simpa using refused)
        simp [received, empty, maxOutputs] at full
      refine ⟨by rw [answered, accepted], by rw [answered]; rfl, ?_⟩
      have queue : taken.ctx.outputs = [] := by
        obtain ⟨_, _, _, frame⟩ := takeSeat_frame takes
        rw [frame]
        exact empty
      have sendable := helloPosts_sendable store playerGuid playerName env.connectionId id slot taken
      have first := @post_head? F _ _
        (fillSeat store playerGuid playerName env.connectionId id taken) queue _ _ sendable
      rw [answered, complete accepted]
      exact (congrArg (fun head : Option TransportOutput => head.bind (welcomeIn ·.bytes)) first).trans
        (welcomeIn_packetBytes _ _ _ (welcomePost _ env.connectionId id).body)

/-! ## The second HELLO -/

/-- How many slots are connected. -/
def connectedSlots (s : ServiceState F) : Nat := s.session.players.slots.countP (·.connected)

omit [CFloat F] [WireFloat F] in
theorem connectedSlots_seats (s : ServiceState F) :
    connectedSlots s = s.roster.seats.countP (·.connected) := by
  simp only [connectedSlots, ServiceState.roster, SessionState.seats, List.countP_map]
  rfl

/-- A HELLO that is accepted is accepted again, under the same id and on the same seat, when it is
sent once more. -/
def Retransmits (store store' : ProfileStore) (env : TransportEnvelope) (s : ServiceState F) :
    Prop :=
  let first := tlHandleEnvelope store env (tlClearOutputs s)
  let second := tlHandleEnvelope store' env (tlClearOutputs first.2)
  first.1 = true → second.1 = true ∧ welcomedAs second.2 = welcomedAs first.2 ∧
    connectedSlots second.2 = connectedSlots first.2

/-- A HELLO is idempotent if and only if its GUID is bound already, or could not be let in, or is one
that the registry keeps: neither empty nor longer than 63 bytes, and with an entry left for it. -/
theorem retransmits_iff [LawfulWireFloat F] (store store' : ProfileStore) (env : TransportEnvelope)
    (playerGuid playerName : Text) (s : ServiceState F) (reachable : Reachable s)
    (hello : helloOf? env.bytes = some (playerGuid, playerName)) :
    Retransmits store store' env s ↔
      (srFindPlayerId s.registry playerGuid).isSome ∨ candidateId s.session = none ∨
        Keeps s.registry playerGuid := by
  have event : helloEvent (.envelope store env : ServiceEvent F) =
      some (playerGuid, env.connectionId) := by
    rw [helloEvent, hello]
    rfl
  have whole := helloEvent_whole event
  have aligned : Aligned (tlClearOutputs s).roster := reachable.aligned
  have first := tlHandleEnvelope_letIn store hello aligned rfl
  have same : (tlClearOutputs s).roster = s.roster := rfl
  rw [same] at first
  simp only [Retransmits]
  cases sat : s.roster.letIn playerGuid env.connectionId with
  | none =>
      rw [sat] at first
      have full : s.seatFor playerGuid = none := by
        rw [seatFor_roster]
        exact Option.map_eq_none_iff.mp sat
      have noCandidate : candidateId s.session = none := (Option.or_eq_none_iff.mp full).2
      simp [first, noCandidate]
  | some seat =>
      obtain ⟨id, after⟩ := seat
      rw [sat] at first
      obtain ⟨accepted, roster, welcomed⟩ := first
      obtain ⟨given, seats, _⟩ := letIn_eq_some sat
      have bound := letIn_bound whole sat
      have aligned' : Aligned (tlClearOutputs (tlHandleEnvelope store env (tlClearOutputs s)).2).roster :=
        serviceStep_aligned aligned (.envelope store env)
      have second := tlHandleEnvelope_letIn store' hello aligned' rfl
      have roster' : (tlClearOutputs (tlHandleEnvelope store env (tlClearOutputs s)).2).roster =
        after := roster
      rw [roster'] at second
      rw [accepted, welcomed, connectedSlots_seats, connectedSlots_seats, roster]
      have registry : s.roster.registry = s.registry := rfl
      rw [registry] at bound
      by_cases recognised : (srFindPlayerId s.registry playerGuid).isSome ∨ Keeps s.registry playerGuid
      · rw [if_pos recognised] at bound
        have again : after.letIn playerGuid env.connectionId = some (id, after) := by
          simp only [Roster.letIn, Roster.seatFor, bound, Option.some_or, Option.map_some,
            Option.isSome_some, if_true, seats, sit_sit]
          rw [← seats]
        rw [again] at second
        obtain ⟨acceptedAgain, rosterAgain, welcomedAgain⟩ := second
        rw [acceptedAgain, rosterAgain, welcomedAgain]
        exact iff_of_true (fun _ => ⟨rfl, rfl, rfl⟩) (by tauto)
      · rw [if_neg recognised] at bound
        refine iff_of_false (fun repeated => ?_) ?_
        · obtain ⟨acceptedAgain, welcomedAgain, _⟩ := repeated rfl
          cases satAgain : after.letIn playerGuid env.connectionId with
          | none =>
              rw [satAgain] at second
              rw [second] at acceptedAgain
              cases acceptedAgain
          | some seat =>
              rw [satAgain] at second
              have lowest := (letIn_eq_some satAgain).1
              rw [Roster.seatFor, bound, Option.none_or] at lowest
              have other := second.2.2.symm.trans welcomedAgain
              exact letIn_taken aligned sat (lowest.trans other)
        · rintro (isBound | noCandidate | keeps)
          · exact recognised (.inl isBound)
          · rw [← seatFor_roster, ServiceState.seatFor, noCandidate, Option.or_none] at given
            exact recognised (.inl (by rw [given]; rfl))
          · exact recognised (.inr keeps)

end Hello

instance (store store' : ProfileStore) (env : TransportEnvelope) (s : ServiceState Binary32) :
    Decidable (Retransmits store store' env s) :=
  inferInstanceAs (Decidable (_ → _ ∧ _ ∧ _))

/-- A short GUID is welcomed twice under one id. -/
theorem retransmits_iff_short :
    let store : ProfileStore := ⟨fun _ => none⟩
    let env := envelopeOf (F := Binary32) 100 .hello (⟨0, 0⟩, [0x41], [])
    let s : ServiceState Binary32 := freshService 1 15 20 []
    Retransmits store store env s ↔
      (srFindPlayerId s.registry [0x41]).isSome ∨ candidateId s.session = none ∨
        Keeps s.registry [0x41] := by
  intro store env s
  exact retransmits_iff store store env [0x41] [] s (.fresh 1 15 20 []) (by decide +kernel)

/-- A GUID of 64 bytes fits the decoder and not the registry, and is given a second seat. -/
theorem retransmits_iff_long :
    let store : ProfileStore := ⟨fun _ => none⟩
    let playerGuid : Text := List.replicate 64 0x41
    let env := envelopeOf (F := Binary32) 100 .hello (⟨0, 0⟩, playerGuid, [])
    let s : ServiceState Binary32 := freshService 1 15 20 []
    helloOf? env.bytes = some (playerGuid, []) ∧ ¬ Retransmits store store env s := by
  decide +kernel

end F4MP.Service
