import F4MP.Service.Casualties
import F4MP.Service.Snapshot

/-!
# The loop of the service

`service_main.c`, behind its sockets. One iteration clears the queue, handles one envelope, ticks when
the envelope was handled, and sends what is queued by then. Players and actors that leave in an
iteration are announced in it, if its queue has room.
-/

namespace F4MP.Service
open SoftFloat CFloat Protocol Transition MessageFlags

variable {F : Type}

/-! ## Leaving one after another -/

/-- How many messages the leaving of `m` out of `n` connected players takes. -/
def leaveCount : Nat → Nat → Nat
  | _, 0 => 0
  | n, m + 1 => n + leaveCount (n - 1) m

theorem leaveCount_le (n m : Nat) : 2 * leaveCount n m ≤ n * (n + 1) := by
  induction m generalizing n with
  | zero => exact Nat.zero_le _
  | succ m ih =>
      cases n with
      | zero => simpa [leaveCount] using ih 0
      | succ n =>
          have rest := ih n
          rw [leaveCount, Nat.add_sub_cancel]
          simp only [Nat.mul_add, Nat.add_mul, Nat.mul_one, Nat.one_mul] at rest ⊢
          omega

theorem connections_length (s : SessionState F) :
    (connections s).length = s.players.slots.countP (·.connected) := by
  rw [connections, List.length_map, List.countP_eq_length_filter]

theorem connections_smRemovePlayer {s : SessionState F} (placed : Placed s.seats)
    {p : PlayerRuntimeState F} (listed : p ∈ s.players.slots) (connected : p.connected = true) :
    (connections (smRemovePlayer s p.playerId)).length = (connections s).length - 1 := by
  obtain ⟨k, at_⟩ := List.mem_iff_getElem?.mp listed
  obtain ⟨inside, here⟩ := List.getElem?_eq_some_iff.mp at_
  rw [connections_length, connections_length, placed.smRemovePlayer_slots at_ connected,
    List.countP_set inside, here, if_pos connected]
  rfl

/-- The ids of connected players, each once. -/
structure Leaving (s : SessionState F) (ids : List PlayerId) : Prop where
  placed : Placed s.seats
  nodup : ids.Nodup
  connected : ∀ id ∈ ids, ∃ p ∈ s.players.slots, p.connected = true ∧ p.playerId = id

theorem Leaving.next {s : SessionState F} {id : PlayerId} {ids : List PlayerId}
    (leaving : Leaving s (id :: ids)) : Leaving (smRemovePlayer s id) ids := by
  obtain ⟨placed, nodup, connected⟩ := leaving
  rw [List.nodup_cons] at nodup
  refine ⟨?_, nodup.2, fun other listed => ?_⟩
  · rw [seats_smRemovePlayer]
    exact placed.vacate id
  · obtain ⟨p, member, stays, rfl⟩ := connected other (List.mem_cons_of_mem id listed)
    obtain ⟨k, at_⟩ := List.mem_iff_getElem?.mp member
    rcases Slots.getElem?_modifyFirst (p := fun p : PlayerRuntimeState F => p.playerId == id)
      (f := fun p => { p with connected := false, connectionId := 0 })
      s.players.slots k with same | ⟨q, before, hit, _⟩
    · exact ⟨p, List.mem_of_getElem? (same.trans at_), stays, rfl⟩
    · obtain rfl := Option.some.inj (at_.symm.trans before)
      exact absurd (beq_iff_eq.mp hit ▸ listed) nodup.1

theorem leavePosts_length {s : SessionState F} {ids : List PlayerId} (leaving : Leaving s ids) :
    (leavePosts s ids).length = leaveCount (connections s).length ids.length := by
  induction ids generalizing s with
  | nil => rfl
  | cons id ids ih =>
      obtain ⟨p, listed, connected, rfl⟩ := leaving.connected _ List.mem_cons_self
      have rest := ih leaving.next
      rw [connections_smRemovePlayer leaving.placed listed connected] at rest
      rw [leavePosts, List.length_append, rest, toConnected_connections, List.length_map,
        List.length_cons, leaveCount]

/-- What one player is told when another leaves. -/
def leftPost (r : PlayerRuntimeState F) (id : PlayerId) : Post F :=
  ⟨r.connectionId, .playerLeft, reliable ||| ordered ||| ch1World, { playerId := id }⟩

theorem mem_leavePosts_of_stays {s : SessionState F} {ids : List PlayerId} {id : PlayerId}
    (leaves : id ∈ ids) {r : PlayerRuntimeState F}
    (stays : r ∈ (ids.foldl smRemovePlayer s).players.slots) (connected : r.connected = true) :
    leftPost r id ∈ leavePosts s ids := by
  induction ids generalizing s with
  | nil => cases leaves
  | cons first ids ih =>
      rcases List.mem_cons.mp leaves with rfl | later
      · obtain ⟨q, listed, rfl | rfl⟩ := mem_smRemovePlayers stays
        · exact List.mem_append_left _ (mem_toConnected_of_connected listed connected _ _)
        · cases connected
      · exact List.mem_append_right _ (ih later stays)

theorem smRemovePlayers_keeps {s : SessionState F} {ids : List PlayerId} {k : Nat}
    {p : PlayerRuntimeState F} (at_ : s.players.slots[k]? = some p) (stays : p.playerId ∉ ids) :
    (ids.foldl smRemovePlayer s).players.slots[k]? = some p := by
  induction ids generalizing s with
  | nil => exact at_
  | cons id ids ih =>
      rw [List.mem_cons, not_or] at stays
      refine ih ?_ stays.2
      rcases Slots.getElem?_modifyFirst (p := fun p : PlayerRuntimeState F => p.playerId == id)
        (f := fun p => { p with connected := false, connectionId := 0 })
        s.players.slots k with same | ⟨q, before, hit, _⟩
      · exact same.trans at_
      · obtain rfl := Option.some.inj (at_.symm.trans before)
        exact absurd (beq_iff_eq.mp hit) stays.1

theorem smRemovePlayers_connected {s : SessionState F} {ids : List PlayerId} {k : Nat}
    {p : PlayerRuntimeState F} (now : (ids.foldl smRemovePlayer s).players.slots[k]? = some p)
    (connected : p.connected = true) : s.players.slots[k]? = some p := by
  induction ids generalizing s with
  | nil => exact now
  | cons id ids ih =>
      have later := ih now
      rcases Slots.getElem?_modifyFirst (p := fun p : PlayerRuntimeState F => p.playerId == id)
        (f := fun p => { p with connected := false, connectionId := 0 })
        s.players.slots k with same | ⟨q, _, _, left⟩
      · exact same.symm.trans later
      · obtain rfl := Option.some.inj (left.symm.trans later)
        cases connected

theorem Placed.smRemovePlayers {s : SessionState F} (placed : Placed s.seats)
    (ids : List PlayerId) : Placed (ids.foldl smRemovePlayer s).seats := by
  induction ids generalizing s with
  | nil => exact placed
  | cons id ids ih => exact ih (seats_smRemovePlayer s id ▸ placed.vacate id)

theorem leavePosts_snoc (s : SessionState F) (ids : List PlayerId) (id : PlayerId) :
    leavePosts s (ids ++ [id]) = leavePosts s ids ++
      toConnected (ids.foldl smRemovePlayer s) .playerLeft (reliable ||| ordered ||| ch1World)
        { playerId := id } := by
  induction ids generalizing s with
  | nil => exact List.append_nil _
  | cons first ids ih =>
      rw [List.cons_append, leavePosts, ih, leavePosts, List.append_assoc]
      rfl

theorem filter_last {α : Type} {p : α → Bool} {l : List α} {k : Nat} {a : α}
    (at_ : l[k]? = some a) (holds : p a = true)
    (last : ∀ (j : Nat) (b : α), l[j]? = some b → p b = true → j ≤ k) :
    l.filter p = (l.take k).filter p ++ [a] := by
  obtain ⟨inside, here⟩ := List.getElem?_eq_some_iff.mp at_
  have behind : (l.drop (k + 1)).filter p = [] := by
    refine List.filter_eq_nil_iff.mpr fun b member held => ?_
    obtain ⟨j, at'⟩ := List.mem_iff_getElem?.mp member
    rw [List.getElem?_drop] at at'
    have bound := last _ b at' held
    omega
  conv_lhs => rw [← List.take_append_drop k l, List.drop_eq_getElem_cons inside, here]
  rw [List.filter_append, List.filter_cons_of_pos holds, behind]

theorem mem_dropLast_leavePosts {s : SessionState F} {ids : List PlayerId} {k : Nat}
    {last : PlayerRuntimeState F} (leaving : Leaving s (ids ++ [last.playerId]))
    (at_ : s.players.slots[k]? = some last) (connected : last.connected = true)
    (highest : ∀ (j : Nat) (q : PlayerRuntimeState F), s.players.slots[j]? = some q →
      q.connected = true → j ≤ k) {id : PlayerId} (leaves : id ∈ ids ++ [last.playerId])
    {r : PlayerRuntimeState F}
    (stays : r ∈ ((ids ++ [last.playerId]).foldl smRemovePlayer s).players.slots)
    (still : r.connected = true) :
    leftPost r id ∈ (leavePosts s (ids ++ [last.playerId])).dropLast := by
  obtain ⟨now, nowIs⟩ : ∃ now, now = ids.foldl smRemovePlayer s := ⟨_, rfl⟩
  have here : now.players.slots[k]? = some last := by
    rw [nowIs]
    refine smRemovePlayers_keeps at_ fun listed => ?_
    exact (List.nodup_append.mp leaving.nodup).2.2 _ listed _ List.mem_cons_self rfl
  have order := filter_last (p := fun p => p.connected) here connected fun j q there up =>
    highest j q (smRemovePlayers_connected (nowIs ▸ there) up) up
  have placed : Placed now.seats := nowIs ▸ leaving.placed.smRemovePlayers ids
  rw [List.foldl_append, ← nowIs, List.foldl_cons, List.foldl_nil,
    placed.smRemovePlayer_slots here connected] at stays
  rw [leavePosts_snoc, ← nowIs, toConnected, order, List.map_append, List.map_singleton,
    ← List.append_assoc, List.dropLast_concat]
  obtain ⟨j, there⟩ := List.mem_iff_getElem?.mp stays
  rw [List.getElem?_set] at there
  split at there
  · split at there
    · obtain rfl := Option.some.inj there
      cases still
    · cases there
  · rename_i apart
    have bound := highest j r (smRemovePlayers_connected (nowIs ▸ there) still) still
    rcases List.mem_append.mp leaves with early | final
    · refine List.mem_append_left _ (mem_leavePosts_of_stays early ?_ still)
      exact nowIs ▸ List.mem_of_getElem? there
    · obtain rfl := List.mem_singleton.mp final
      refine List.mem_append_right _ (List.mem_map.mpr ⟨r, List.mem_filter.mpr ⟨?_, still⟩, rfl⟩)
      refine List.mem_of_getElem? (i := j) ?_
      rw [List.getElem?_take, if_pos (by omega)]
      exact there

section Loop
variable [CFloat F] [WireFloat F]

/-! ## The loop -/

/-- What `main` sets up before its loop, with the timeout and the whitelist of its environment. -/
def serviceMainStart (timeoutTicks : UInt32) (whitelist : List UInt32) : ServiceState F :=
  run serviceStep (freshService 1 29 20 whitelist)
    [.allocSettlement 1001 zeroVec (lit 2048 1) 512,
      .spawnHostile 0x90000001 ⟨lit 128 1, lit 0 1, lit 0 1⟩,
      .setPlayerTimeoutTicks timeoutTicks]

/-- One iteration of the loop, with an envelope and the profile files of that moment. -/
def serviceMainStep (s : ServiceState F) (e : ProfileStore × TransportEnvelope) : ServiceState F :=
  let (handled, s) := tlHandleEnvelope e.1 e.2 (tlClearOutputs s)
  if handled then tlTick s else s

/-- Everyone who is connected after an iteration is told, in its queue, of every player and every
actor that it has lost. -/
structure Announced (s : ServiceState F) (e : ProfileStore × TransportEnvelope) : Prop where
  players : ∀ (k : Nat) (p q : PlayerRuntimeState F), s.session.players.slots[k]? = some p →
    (serviceMainStep s e).session.players.slots[k]? = some q → p.connected = true →
    q.connected = false → ∀ r ∈ (serviceMainStep s e).session.players.slots, r.connected = true →
      ∃ output ∈ (serviceMainStep s e).ctx.outputs, output.connectionId = r.connectionId ∧
        Carries (F := F) output.bytes .playerLeft ⟨p.playerId, 0⟩
  actors : ∀ (i : Nat) (a b : ActorRuntimeState F), s.session.actors.slots[i]? = some a →
    (serviceMainStep s e).session.actors.slots[i]? = some b → a.inUse = true → b.inUse = false →
    ∀ r ∈ (serviceMainStep s e).session.players.slots, r.connected = true →
      ∃ output ∈ (serviceMainStep s e).ctx.outputs, output.connectionId = r.connectionId ∧
        ∃ msg : Body F .actorDespawn, msg.actorNetId = a.actorNetId ∧
          Carries output.bytes .actorDespawn msg

/-- The player has been silent for too long by the next tick. -/
def late (s : ServiceState F) (p : PlayerRuntimeState F) : Bool :=
  decide (0 < s.ctx.playerTimeoutTicks ∧
    s.ctx.playerTimeoutTicks < s.ctx.currentTick + 1 - p.lastHeardTick)

def lateOthers (s : ServiceState F) (id : PlayerId) : List (PlayerRuntimeState F) :=
  (otherPlayers s.session id).filter (late s)

/-- The player in the highest slot is late, when player `id` has joined. -/
def HighestLate (s : ServiceState F) (id : PlayerId) : Prop :=
  ∃ p ∈ lateOthers s id, id < p.playerId ∧ ∀ q ∈ otherPlayers s.session id, q.playerId ≤ p.playerId

instance (s : ServiceState F) (id : PlayerId) : Decidable (HighestLate s id) := by
  unfold HighestLate
  infer_instance

/-- Who is let in while others are late leaves room for the messages about them, behind the answer and
the snapshot. The last of these messages may be spared, when it is addressed to the player it is
about. -/
def LeavesFit (s : ServiceState F) (e : ProfileStore × TransportEnvelope) : Prop :=
  ∀ names ∈ helloOf? e.2.bytes, ∀ id ∈ s.seatFor names.1, lateOthers s id ≠ [] →
    5 + snapshotSize s names.1 id +
      leaveCount ((otherPlayers s.session id).length + 1) (lateOthers s id).length ≤
        maxOutputs + if HighestLate s id then 1 else 0

instance (s : ServiceState F) (e : ProfileStore × TransportEnvelope) : Decidable (LeavesFit s e) := by
  unfold LeavesFit
  have (names : Text × Text) : Decidable (∀ id ∈ s.seatFor names.1, lateOthers s id ≠ [] →
      5 + snapshotSize s names.1 id +
        leaveCount ((otherPlayers s.session id).length + 1) (lateOthers s id).length ≤
          maxOutputs + if HighestLate s id then 1 else 0) := Option.decidableForallMem _
  infer_instance

/-! ## Envelopes -/

omit [WireFloat F] in
theorem Aligned.connected_le {s : ServiceState F} (aligned : Aligned s.roster) :
    (connections s.session).length ≤ 7 := by
  have size : s.session.players.slots.length = 8 := s.session.players.size
  obtain ⟨last, at_⟩ : ∃ last, s.session.players.slots[7]? = some last :=
    ⟨_, List.getElem?_eq_getElem (by omega)⟩
  have free := (aligned.slots.lastUnused last at_).1
  obtain ⟨inside, here⟩ := List.getElem?_eq_some_iff.mp at_
  have back : s.session.players.slots.drop 7 = [last] := by
    rw [List.drop_eq_getElem_cons inside, here, List.drop_of_length_le (by omega)]
  have front := List.countP_le_length (p := fun p : PlayerRuntimeState F => p.connected)
    (l := s.session.players.slots.take 7)
  rw [List.length_take, size] at front
  rw [connections_length, ← List.take_append_drop 7 s.session.players.slots, List.countP_append,
    back, List.countP_singleton, free]
  simpa using front

variable {store : ProfileStore} {env : TransportEnvelope} {s after : ServiceState F}
  {posts : List (Post F)} {ok : Bool}

omit [WireFloat F] in
theorem hitPosts_length (s : SessionState F) (attacker : PlayerId) (target : ActorRuntimeState F) :
    (hitPosts s attacker target).length ≤ 3 * (connections s).length := by
  have states : ((findActor s target.actorNetId).toList.flatMap fun actor =>
      toConnected s .actorState ch1World actor.replicatedState).length ≤ (connections s).length := by
    cases findActor s target.actorNetId with
    | none => exact Nat.zero_le _
    | some actor => simp [toConnected_connections]
  rw [hitPosts]
  split
  · exact Nat.zero_le _
  · rw [List.length_append, List.length_append, toConnected_connections, List.length_map]
    split
    · rw [toConnected_connections, List.length_map]
      omega
    · rw [List.length_nil]
      omega

theorem Outcome.posts_length (outcome : Outcome store env s posts (ok, after))
    (noHello : helloOf? env.bytes = none) (few : (connections s.session).length ≤ 7) :
    posts.length ≤ 21 := by
  have toAll : ∀ {session : SessionState F}, session.seats = s.session.seats →
      ∀ {type : MessageType} (flags : UInt16) (body : Body F type),
        (toConnected session type flags body).length ≤ 7 := by
    intro session same type flags body
    rw [toConnected_connections, List.length_map, connections_of_seats same]
    exact few
  cases outcome with
  | ignored => exact Nat.zero_le _
  | seated hello => rw [noHello] at hello; cases hello
  | kept _ _ _ _ wrote =>
      cases wrote with
      | heard => exact Nat.zero_le _
      | ponged => simp
      | stale => exact Nat.zero_le _
      | relayed => exact (toAll rfl _ _).trans (by omega)
      | edited => exact (toAll rfl _ _).trans (by omega)
  | left _ posted => rw [posted]; exact (toAll (seats_heard s _) _ _).trans (by omega)
  | @hit player i target session _ _ _ _ _ _ shot posted =>
      have seats : session.seats = s.session.seats := by
        rw [shot]
        exact seats_heard s player.playerId
      have bound := hitPosts_length session player.playerId target
      rw [connections_of_seats seats] at bound
      rw [posted]
      omega
  | refused _ _ _ posted => rw [posted]; simp
  | @built _ player msg _ session _ _ _ placed posted =>
      have seats : session.seats = s.session.seats := by
        rw [placed]
        exact seats_heard s player.playerId
      rw [posted, List.length_cons, objectSpawnPosts]
      cases findObject session s.nextObjectId with
      | none => simp
      | some obj =>
          have bound := @toAll session seats .objectSpawn (reliable ||| ordered ||| ch3Work)
            (objectSpawnMsg obj)
          simp only [Option.toList_some, List.flatMap_cons, List.flatMap_nil, List.append_nil]
          omega
  | moved _ changed posted => subst changed; rw [posted]; exact (toAll rfl _ _).trans (by omega)
  | scrapped _ removed posted => subst removed; rw [posted]; exact (toAll rfl _ _).trans (by omega)
  | selected => exact Nat.zero_le _

omit [CFloat F] [WireFloat F] in
theorem seats_connected {s t : SessionState F} (same : t.seats = s.seats) {k : Nat}
    {p q : PlayerRuntimeState F} (before : s.players.slots[k]? = some p)
    (now : t.players.slots[k]? = some q) : q.connected = p.connected := by
  have seatP := seats_get before
  rw [← same, seats_get now] at seatP
  exact congrArg Seat.connected (Option.some.inj seatP)

theorem Outcome.leaver (outcome : Outcome store env s posts (ok, after))
    (aligned : Aligned s.roster) {k : Nat} {p q : PlayerRuntimeState F}
    (before : s.session.players.slots[k]? = some p) (connected : p.connected = true)
    (now : after.session.players.slots[k]? = some q) (gone : q.connected = false)
    {r : PlayerRuntimeState F} (listed : r ∈ after.session.players.slots)
    (stays : r.connected = true) : leftPost r p.playerId ∈ posts := by
  have kept : ∀ {t : SessionState F}, t.players.slots[k]? = some q → t.seats ≠ s.session.seats := by
    intro t at_ same
    rw [seats_connected same before at_, connected] at gone
    cases gone
  cases outcome with
  | ignored => exact absurd rfl (kept now)
  | @seated playerGuid playerName id taken _ _ _ _ takes =>
      obtain ⟨slot, takesSlot, _, slots⟩ := fillSeat_slots store aligned playerName takes
      rw [post_session, slots] at now
      rw [List.getElem?_set] at now
      split at now
      · split at now
        · obtain rfl := Option.some.inj now
          exact absurd (takesSlot.seated.1.symm.trans gone) nofun
        · cases now
      · obtain rfl := Option.some.inj (now.symm.trans before)
        rw [connected] at gone
        cases gone
  | kept _ keeps => exact absurd (seats_updatePlayer s.session _ keeps) (kept now)
  | @left player _ byConnection posted =>
      have seats := seats_heard s player.playerId
      obtain ⟨p', at_, seat⟩ : ∃ p', (heard s player.playerId).session.players.slots[k]? = some p' ∧
          p'.seat = p.seat := by
        have here := seats_get before
        rw [← seats, SessionState.seats, List.getElem?_map] at here
        exact Option.map_eq_some_iff.mp here
      rcases Slots.getElem?_modifyFirst (p := fun p : PlayerRuntimeState F =>
          p.playerId == player.playerId)
        (f := fun p => { p with connected := false, connectionId := 0 })
        (heard s player.playerId).session.players.slots k with same | ⟨p'', before', hit, _⟩
      · obtain rfl := Option.some.inj (at_.symm.trans (same.symm.trans now))
        have stillHere : p'.connected = p.connected := congrArg Seat.connected seat
        rw [stillHere, connected] at gone
        cases gone
      · obtain rfl := Option.some.inj (at_.symm.trans before')
        have named : p.playerId = player.playerId :=
          (congrArg Seat.playerId seat).symm.trans (beq_iff_eq.mp hit)
        rw [posted, named]
        rcases Slots.mem_modifyFirst listed with old | ⟨_, _, _, rfl⟩
        · exact mem_toConnected_of_connected old stays _ _
        · cases stays
  | hit _ _ _ _ _ shot => exact absurd (shot ▸ seats_heard s _) (kept now)
  | refused => exact absurd (seats_heard s _) (kept now)
  | built _ _ _ placed => exact absurd (placed ▸ seats_heard s _) (kept now)
  | moved _ changed => exact absurd (changed ▸ rfl) (kept now)
  | scrapped _ removed => exact absurd (removed ▸ rfl) (kept now)
  | selected applied =>
      obtain ⟨_, rfl⟩ := dspApplySelection_frame applied
      exact absurd rfl (kept now)

/-! ## Ticks -/

/-- The ids of the players who leave in the next tick. -/
def lateIds (s : ServiceState F) : List PlayerId :=
  (s.session.players.slots.filter fun p => p.connected && late s p).map (·.playerId)

omit [CFloat F] [WireFloat F] in
theorem timedOutPlayers_late (s : ServiceState F) :
    timedOutPlayers { s with ctx := { s.ctx with currentTick := s.ctx.currentTick + 1 } } =
      lateIds s := by
  rw [timedOutPlayers, lateIds]
  by_cases limited : 0 < s.ctx.playerTimeoutTicks
  · simp only [late, limited, if_true, true_and]
  · simp [late, limited]

omit [CFloat F] [WireFloat F] in
theorem tickPosts_late [CFloat F] (s : ServiceState F) : tickPosts s =
    leavePosts s.session (lateIds s) ++ despawnPosts (markedSession s)
      (actorsToDespawn (markedSession s)) := by
  rw [tickPosts, timedOutPlayers_late]

theorem tlTick_players (s : ServiceState F) : (tlTick s).session.players =
    ((lateIds s).foldl smRemovePlayer s.session).players := by
  rw [tlTick_posts]
  simp only [tickSession_players, timedOutSession, timedOutPlayers_late]

omit [WireFloat F] in
theorem Aligned.nodup_ids {s : ServiceState F} (aligned : Aligned s.roster) :
    ((s.session.players.slots.filter (·.connected)).map (·.playerId)).Nodup := by
  refine List.pairwise_map.mpr (List.pairwise_filter.mpr ?_)
  refine List.pairwise_iff_getElem.mpr fun i j insideI insideJ less connectedI connectedJ same => ?_
  have index := aligned.slots.connectedApart i j _ _ (List.getElem?_eq_getElem insideI)
    (List.getElem?_eq_getElem insideJ) connectedI connectedJ same
  exact absurd index (Nat.ne_of_lt less)

omit [WireFloat F] in
theorem Aligned.leaving {s : ServiceState F} (aligned : Aligned s.roster) :
    Leaving s.session (lateIds s) where
  placed := aligned.placed
  nodup := by
    refine aligned.nodup_ids.sublist (List.Sublist.map _ ?_)
    exact List.monotone_filter_right _ fun p both => (Bool.and_eq_true_iff.mp both).1
  connected id listed := by
    obtain ⟨p, member, rfl⟩ := List.mem_map.mp listed
    obtain ⟨slot, both⟩ := List.mem_filter.mp member
    exact ⟨p, slot, (Bool.and_eq_true_iff.mp both).1, rfl⟩

theorem tick_leaver {k : Nat} {p q : PlayerRuntimeState F}
    (before : s.session.players.slots[k]? = some p) (connected : p.connected = true)
    (now : (tlTick s).session.players.slots[k]? = some q) (gone : q.connected = false) :
    p.playerId ∈ lateIds s := by
  by_contra stays
  rw [tlTick_players] at now
  obtain rfl := Option.some.inj (now.symm.trans (smRemovePlayers_keeps before stays))
  rw [connected] at gone
  cases gone

theorem tick_casualty (countable : Countable s.session) {i : Nat} {a b : ActorRuntimeState F}
    (before : s.session.actors.slots[i]? = some a) (inUse : a.inUse = true)
    (now : (tlTick s).session.actors.slots[i]? = some b) (gone : b.inUse = false)
    {r : PlayerRuntimeState F} (listed : r ∈ (tlTick s).session.players.slots)
    (stays : r.connected = true) : ⟨r.connectionId, .actorDespawn, reliable ||| ordered ||| ch1World,
      { actorNetId := a.actorNetId, reason := adespawnDead }⟩ ∈
        despawnPosts (markedSession s) (actorsToDespawn (markedSession s)) := by
  have session : (tlTick s).session = tickSession s := by rw [tlTick_posts]
  rw [session, tickSession_actors countable, List.getElem?_map, before] at now
  have dead : a.fallen = true := by
    by_contra standing
    rw [Bool.not_eq_true] at standing
    obtain rfl := Option.some.inj now
    dsimp only at gone
    rw [ActorRuntimeState.bury_standing standing, inUse] at gone
    cases gone
  rw [session, tickSession_players] at listed
  have players : (markedSession s).players = (timedOutSession s).players := by
    rw [markedSession, acTick_frame]
  rw [actorsToDespawn_marked countable]
  refine List.mem_flatMap.mpr ⟨a.actorNetId, ?_, ?_⟩
  · exact List.mem_map_of_mem (List.mem_filter.mpr ⟨List.mem_of_getElem? before, dead⟩)
  · exact mem_toConnected_of_connected (players ▸ listed) stays _ _

/-! ## Iterations -/

variable [LawfulWireFloat F]

/-- Between two iterations the actors in use are alive. -/
structure MainInvariant (s : ServiceState F) : Prop where
  aligned : Aligned s.roster
  standing : Standing s.session

omit [LawfulWireFloat F] in
theorem Outcome.unhandled (outcome : Outcome store env s posts (false, after))
    (empty : s.ctx.outputs = []) : after.session.actors = s.session.actors ∧
      after.session.seats = s.session.seats := by
  refine ⟨outcome.unhandled_actors, ?_⟩
  cases outcome with
  | ignored => rfl
  | seated _ _ _ _ _ stopped =>
      have full := stopped rfl
      rw [empty] at full
      exact absurd full (by decide)
  | kept _ keeps => exact seats_updatePlayer s.session _ keeps

omit [LawfulWireFloat F] in
theorem serviceMainStep_handled {s : ServiceState F} {e : ProfileStore × TransportEnvelope}
    {after : ServiceState F} {ok : Bool}
    (handled : tlHandleEnvelope e.1 e.2 (tlClearOutputs s) = (ok, after)) :
    serviceMainStep s e = if ok then tlTick after else after := by
  rw [serviceMainStep, handled]

omit [LawfulWireFloat F] in
theorem unhandled_announced {s : ServiceState F} {e : ProfileStore × TransportEnvelope}
    {sequence : UInt32} {posts : List (Post F)} {after : ServiceState F}
    (outcome : Outcome e.1 e.2 (received (tlClearOutputs s) sequence) posts (false, after))
    (step : serviceMainStep s e = after) : Announced s e := by
  obtain ⟨actors, seats⟩ := outcome.unhandled rfl
  constructor
  · intro k p q before now connected gone
    rw [step] at now
    have same := seats_connected (s := s.session) seats before now
    rw [gone, connected] at same
    cases same
  · intro i a b before now inUse gone
    rw [step, actors] at now
    obtain rfl := Option.some.inj (before.symm.trans now)
    rw [inUse] at gone
    cases gone

/-- A queue holds a message for its connection. -/
def Holds (outputs : List TransportOutput) (p : Post F) : Prop :=
  ∃ output ∈ outputs, output.connectionId = p.connectionId ∧ Carries output.bytes p.type p.body

omit [LawfulWireFloat F] in
/-- A handled envelope and the tick behind it announce whom they lose, if the queue then holds what the
envelope posted, and what the tick posted to those who stay. -/
theorem announced_of_holds {s : ServiceState F} {e : ProfileStore × TransportEnvelope}
    {sequence : UInt32} {posts : List (Post F)} {after : ServiceState F}
    (outcome : Outcome e.1 e.2 (received (tlClearOutputs s) sequence) posts (true, after))
    (ticked : serviceMainStep s e = tlTick after) (aligned : Aligned s.roster)
    (alignedAfter : Aligned after.roster) (countable : Countable after.session)
    (posted : ∀ p ∈ posts, p.type = .playerLeft → Holds (tlTick after).ctx.outputs p)
    (left : ∀ id ∈ lateIds after, ∀ r ∈ (tlTick after).session.players.slots, r.connected = true →
      Holds (tlTick after).ctx.outputs (leftPost r id))
    (died : ∀ p ∈ despawnPosts (markedSession after) (actorsToDespawn (markedSession after)),
      Holds (tlTick after).ctx.outputs p) : Announced s e := by
  constructor
  · intro k p q before now connected gone r listed stays
    rw [ticked] at now listed ⊢
    obtain ⟨m, between⟩ : ∃ m, after.session.players.slots[k]? = some m := by
      have inside := (List.getElem?_eq_some_iff.mp now).1
      have size : after.session.players.slots.length = (tlTick after).session.players.slots.length :=
        after.session.players.size.trans (tlTick after).session.players.size.symm
      exact ⟨_, List.getElem?_eq_getElem (size ▸ inside)⟩
    cases still : m.connected with
    | false =>
        refine posted (leftPost r p.playerId) (outcome.leaver aligned before connected between still
          ?_ stays) rfl
        rw [tlTick_players] at listed
        obtain ⟨r', member, rfl | rfl⟩ := mem_smRemovePlayers listed
        · exact member
        · cases stays
    | true =>
        have same : m.playerId = p.playerId := UInt16.toNat_inj.mp <|
          (alignedAfter.placed.connected_index (seats_get between) still).1.trans
            (aligned.placed.connected_index (seats_get before) connected).1.symm
        exact left _ (same ▸ tick_leaver between still now gone) r listed stays
  · intro i a b before now inUse gone r listed stays
    rw [ticked] at now listed ⊢
    obtain ⟨m, between, live, id⟩ : ∃ m, after.session.actors.slots[i]? = some m ∧
        m.inUse = a.inUse ∧ m.actorNetId = a.actorNetId := outcome.struck.slot before
    have dead := tick_casualty countable between (live.trans inUse) now gone listed stays
    obtain ⟨output, queued, addressed, carries⟩ := died _ dead
    exact ⟨output, queued, addressed, _, id, carries⟩

/-! ## What the queue holds -/

theorem holds_posted {s after : ServiceState F} {posts : List (Post F)}
    (outcome : Outcome store env s posts (ok, after)) (empty : s.ctx.outputs = [])
    (room : posts.length ≤ maxOutputs) {p : Post F} (listed : p ∈ posts) :
    Holds (tlTick after).ctx.outputs p := by
  obtain ⟨output, queued, found⟩ := queuedPosts_of_take (s := s) outcome.sendable (p := p) <| by
    rwa [empty, List.length_nil, Nat.sub_zero, List.take_of_length_le room]
  refine ⟨output, ?_, found⟩
  rw [tlTick_outputs, show after.ctx.outputs = _ from outcome.outputs, empty]
  exact List.mem_append_left _ queued

theorem holds_ticked (s : ServiceState F) {p : Post F}
    (first : p ∈ (tickPosts s).take (maxOutputs - s.ctx.outputs.length)) :
    Holds (tlTick s).ctx.outputs p := by
  obtain ⟨output, queued, found⟩ := queuedPosts_of_take (tickPosts_sendable s) first
  refine ⟨output, ?_, found⟩
  rw [tlTick_outputs]
  exact List.mem_append_right _ queued

theorem Outcome.outputs_length {s after : ServiceState F} {posts : List (Post F)}
    (outcome : Outcome store env s posts (ok, after)) (empty : s.ctx.outputs = [])
    (room : posts.length ≤ maxOutputs) : after.ctx.outputs.length = posts.length := by
  rw [show after.ctx.outputs = _ from outcome.outputs, empty, List.nil_append, queuedPosts,
    stamp_take, stamp_length, empty, List.length_nil, Nat.sub_zero, List.take_of_length_le room]

omit [CFloat F] [WireFloat F] [LawfulWireFloat F] in
theorem despawnPosts_length (s : SessionState F) (ids : List ActorNetId) :
    (despawnPosts s ids).length ≤ ids.length * maxPlayersPerSession := by
  induction ids with
  | nil => exact Nat.zero_le _
  | cons id ids ih =>
      have one := toConnected_length_le s .actorDespawn (reliable ||| ordered ||| ch1World)
        { actorNetId := id, reason := adespawnDead }
      rw [despawnPosts] at ih
      rw [despawnPosts, List.flatMap_cons, List.length_append, List.length_cons, Nat.succ_mul]
      omega

/-- A message other than a HELLO leaves room for everything that its tick posts. -/
theorem message_announced {s : ServiceState F} {e : ProfileStore × TransportEnvelope}
    {sequence : UInt32} {posts : List (Post F)} {after : ServiceState F}
    (outcome : Outcome e.1 e.2 (received (tlClearOutputs s) sequence) posts (true, after))
    (step : serviceMainStep s e = tlTick after) (noHello : helloOf? e.2.bytes = none)
    (inv : MainInvariant s) (alignedAfter : Aligned after.roster) : Announced s e := by
  have few : after.session.actors.slots.countP (·.fallen) ≤ 1 :=
    outcome.struck.few inv.standing.alive
  have countable : Countable after.session :=
    (outcome.struck.fresh inv.standing.fresh).countable (by omega)
  have posted := outcome.posts_length noHello (Aligned.connected_le (s := s) inv.aligned)
  have room : posts.length ≤ maxOutputs := by rw [maxOutputs]; omega
  have queue := outcome.outputs_length rfl room
  have all : (tickPosts after).take (maxOutputs - after.ctx.outputs.length) = tickPosts after := by
    refine List.take_of_length_le ?_
    have leaving := leavePosts_length alignedAfter.leaving
    have leavers := leaveCount_le (connections after.session).length (lateIds after).length
    have connected := alignedAfter.connected_le
    have dead : (actorsToDespawn (markedSession after)).length ≤ 1 := by
      rw [actorsToDespawn_marked countable, fallenIds, List.length_map,
        ← List.countP_eq_length_filter]
      exact few
    have despawning := despawnPosts_length (markedSession after)
      (actorsToDespawn (markedSession after))
    have bound : (connections after.session).length * ((connections after.session).length + 1) ≤
        7 * 8 := Nat.mul_le_mul connected (Nat.succ_le_succ connected)
    have bound' := Nat.mul_le_mul_right maxPlayersPerSession dead
    rw [tickPosts_late, List.length_append, leaving, queue, maxOutputs]
    rw [maxPlayersPerSession] at despawning bound'
    omega
  refine announced_of_holds outcome step inv.aligned alignedAfter countable
    (fun p listed _ => holds_posted outcome rfl room listed) (fun id late r listed stays => ?_)
    fun p listed => ?_
  · refine holds_ticked after ?_
    rw [all, tickPosts_late]
    refine List.mem_append_left _ (mem_leavePosts_of_stays late ?_ stays)
    rwa [tlTick_players] at listed
  · refine holds_ticked after ?_
    rw [all, tickPosts_late]
    exact List.mem_append_right _ listed

/-! ## A player joins -/

omit [CFloat F] [WireFloat F] [LawfulWireFloat F] in
theorem late_heard {s : ServiceState F} {p : PlayerRuntimeState F}
    (now : p.lastHeardTick = s.ctx.currentTick) : late s p = false := by
  have one : s.ctx.currentTick + 1 - s.ctx.currentTick = 1 := by
    rw [UInt32.add_comm, UInt32.add_sub_cancel]
  rw [late, now, one, decide_eq_false_iff_not, UInt32.lt_iff_toNat_lt, UInt32.lt_iff_toNat_lt]
  rintro ⟨positive, less⟩
  have unit : (1 : UInt32).toNat = 1 := rfl
  have zero : (0 : UInt32).toNat = 0 := rfl
  omega

omit [WireFloat F] [LawfulWireFloat F] in
theorem connections_length_others {s : ServiceState F} (aligned : Aligned s.roster)
    {player : PlayerRuntimeState F} (listed : player ∈ s.session.players.slots)
    (connected : player.connected = true) : (connections s.session).length =
      (otherPlayers s.session player.playerId).length + 1 := by
  have one := List.count_eq_one_of_mem aligned.nodup_ids
    (List.mem_map_of_mem (List.mem_filter.mpr ⟨listed, connected⟩))
  rw [List.count, List.countP_map] at one
  have others : (otherPlayers s.session player.playerId).length =
      (s.session.players.slots.filter (·.connected)).countP fun p =>
        decide ¬(p.playerId == player.playerId) = true := by
    rw [List.countP_eq_length_filter, List.filter_filter, otherPlayers]
    exact congrArg List.length (List.filter_congr fun p _ => Bool.eq_iff_iff.mpr (by simp [and_comm]))
  have split := List.length_eq_countP_add_countP (fun p => p.playerId == player.playerId)
    (l := s.session.players.slots.filter (·.connected))
  rw [connections, List.length_map, others, split, Nat.add_comm]
  exact congrArg _ one

/-- What an accepted HELLO leaves behind. -/
structure Joined (s : ServiceState F) (id : PlayerId) (after : ServiceState F) : Prop where
  leavers : lateIds after = (lateOthers s id).map (·.playerId)
  count : (connections after.session).length = (otherPlayers s.session id).length + 1
  actors : after.session.actors = s.session.actors
  others : otherPlayers after.session id = otherPlayers s.session id

theorem joined_of_hello {s after : ServiceState F} {e : ProfileStore × TransportEnvelope}
    {playerGuid playerName : Text} (aligned : Aligned s.roster)
    (hello : helloOf? e.2.bytes = some (playerGuid, playerName))
    (handled : tlHandleEnvelope e.1 e.2 (tlClearOutputs s) = (true, after))
    (alignedAfter : Aligned after.roster) : ∃ id sequence posts,
      s.seatFor playerGuid = some id ∧
      Outcome e.1 e.2 (received (tlClearOutputs s) sequence) posts (true, after) ∧
      posts.length = 5 + snapshotSize s playerGuid id ∧ (∀ p ∈ posts, p.type ≠ .playerLeft) ∧
      Joined s id after := by
  have accepted : (tlHandleEnvelope e.1 e.2 (tlClearOutputs s)).1 = true := by rw [handled]
  obtain ⟨sequence, id, taken, slot, takes, found, eq⟩ := tlHandleEnvelope_accepted hello accepted
  rw [handled] at eq
  have given : s.seatFor playerGuid = some id :=
    takeSeat_seatFor (s := received (tlClearOutputs s) sequence) aligned takes
  obtain ⟨players, connectedCount, registry, frame⟩ := takeSeat_frame takes
  obtain ⟨slot', takesSlot, _, slots⟩ :=
    fillSeat_slots e.1 (s := received (tlClearOutputs s) sequence) aligned playerName takes
  dsimp only at eq
  subst eq
  obtain ⟨⟨player, resolved, position⟩, replay, others, actors, objects⟩ :=
    fillSeat_world e.1 (s := received (tlClearOutputs s) sequence) aligned playerName takes
      alignedAfter
  refine ⟨id, sequence, _, given, .seated hello takes found List.prefix_rfl (fun _ => rfl) nofun,
    ?_, ?_, ?_⟩
  · rw [helloPosts, List.length_append, replay, snapshotPosts_length, others, actors, objects]
    rfl
  · intro p listed left
    rcases List.mem_append.mp listed with answer | shown
    · simp only [answerPosts, welcomePost, profilePosts, List.mem_cons, List.not_mem_nil,
        or_false] at answer
      rcases answer with rfl | rfl | rfl | rfl | rfl <;> cases left
    · rcases mem_replayPosts shown with ⟨_, _, _, _, rfl⟩ | ⟨_, _, _, rfl | rfl⟩ | ⟨_, _, _, rfl⟩ <;>
        cases left
  · obtain ⟨seated, seatedIs⟩ : ∃ seated, seated =
      fillSeat e.1 playerGuid playerName e.2.connectionId id taken := ⟨_, rfl⟩
    obtain ⟨joined, joinedIs⟩ : ∃ joined, joined =
      fillSlot e.1 playerGuid playerName e.2.connectionId taken.ctx.currentTick slot' := ⟨_, rfl⟩
    rw [← seatedIs] at slots others alignedAfter ⊢
    rw [← joinedIs] at slots
    have ctx : seated.ctx = taken.ctx := seatedIs ▸ rfl
    have tick : taken.ctx.currentTick = s.ctx.currentTick := by rw [frame]; rfl
    have timeout : taken.ctx.playerTimeoutTicks = s.ctx.playerTimeoutTicks := by rw [frame]; rfl
    have inside : id.toNat - 1 < s.session.players.slots.length := by
      obtain ⟨low, high⟩ := aligned.seatFor ((seatFor_roster s playerGuid).symm.trans given)
      rw [s.session.players.size, maxPlayersPerSession]
      omega
    have listed : joined ∈ seated.session.players.slots := by
      rw [slots]
      exact List.mem_of_getElem? (List.getElem?_set_self inside)
    have connected : joined.connected = true := joinedIs ▸ takesSlot.seated.1
    have named : joined.playerId = id := joinedIs ▸ takesSlot.seated.2
    have heard : late s joined = false := late_heard (joinedIs ▸ tick)
    have unchanged : otherPlayers seated.session id = otherPlayers s.session id := others
    refine ⟨?_, ?_, ?_, unchanged⟩
    · have sendable := helloPosts_sendable e.1 playerGuid playerName e.2.connectionId id slot taken
      have same : late (seated.post
          (helloPosts e.1 playerGuid playerName e.2.connectionId id slot taken)) = late s := by
        funext p
        simp only [late, ServiceState.post, sendAll_sendable _ sendable, ctx, tick, timeout]
      rw [lateIds, lateOthers, ← unchanged, otherPlayers, List.filter_filter, same]
      refine congrArg (List.map (fun p : PlayerRuntimeState F => p.playerId)) ?_
      refine List.filter_congr fun p member => ?_
      -- The player who has joined was heard in this tick.
      by_cases joins : p.connected = true ∧ p.playerId = id
      · obtain rfl : p = joined := alignedAfter.slot_unique listed member
          (alignedAfter.connected_ne_zero listed connected) (joins.2.trans named.symm)
        rw [heard, Bool.and_false, Bool.false_and]
      · cases connects : p.connected with
        | false => simp
        | true => simp [show p.playerId ≠ id from fun same => joins ⟨connects, same⟩]
    · rw [← unchanged, ← named]
      exact connections_length_others alignedAfter listed connected
    · rw [post_session, seatedIs, frame]
      rfl

omit [WireFloat F] [LawfulWireFloat F] in
theorem Joined.highest {s after : ServiceState F} {id : PlayerId} (joined : Joined s id after)
    (aligned : Aligned after.roster) (highest : HighestLate s id) : ∃ k last ids,
      after.session.players.slots[k]? = some last ∧ last.connected = true ∧
      (∀ (j : Nat) (q : PlayerRuntimeState F), after.session.players.slots[j]? = some q →
        q.connected = true → j ≤ k) ∧ lateIds after = ids ++ [last.playerId] := by
  obtain ⟨last, isLate, above, greatest⟩ := highest
  have other := (List.mem_filter.mp isLate).1
  rw [← joined.others] at other greatest
  obtain ⟨listed, both⟩ := List.mem_filter.mp other
  have connected := (Bool.and_eq_true_iff.mp both).1
  obtain ⟨k, at_⟩ := List.mem_iff_getElem?.mp listed
  have number := (aligned.placed.connected_index (seats_get at_) connected).1
  have top : ∀ (j : Nat) (q : PlayerRuntimeState F), after.session.players.slots[j]? = some q →
      q.connected = true → j ≤ k := by
    intro j q there up
    have number' := (aligned.placed.connected_index (seats_get there) up).1
    have order : q.playerId ≤ last.playerId := by
      by_cases same : q.playerId = id
      · exact same ▸ UInt16.le_of_lt above
      · refine greatest q (List.mem_filter.mpr ⟨List.mem_of_getElem? there, ?_⟩)
        rw [up, Bool.true_and, bne_iff_ne]
        exact same
    rw [UInt16.le_iff_toNat_le] at order
    simp only [PlayerRuntimeState.seat] at number number'
    omega
  have lateHere : (last.connected && late after last) = true := by
    have named : last.playerId ∈ lateIds after := by
      rw [joined.leavers]
      exact List.mem_map_of_mem isLate
    obtain ⟨p, member, same⟩ := List.mem_map.mp named
    obtain ⟨slot, holds⟩ := List.mem_filter.mp member
    obtain rfl := aligned.slot_unique listed slot
      (aligned.connected_ne_zero listed connected) same
    exact holds
  have order := filter_last (p := fun p => p.connected && late after p) at_ lateHere
    fun j q there holds => top j q there (Bool.and_eq_true_iff.mp holds).1
  have split := congrArg (List.map fun p : PlayerRuntimeState F => p.playerId) order
  rw [List.map_append] at split
  exact ⟨k, last, _, at_, connected, top, split⟩

/-- A HELLO that is accepted leaves room for the messages about those who are late. -/
theorem hello_announced {s after : ServiceState F} {e : ProfileStore × TransportEnvelope}
    {names : Text × Text} (hello : helloOf? e.2.bytes = some names)
    (handled : tlHandleEnvelope e.1 e.2 (tlClearOutputs s) = (true, after))
    (inv : MainInvariant s) (alignedAfter : Aligned after.roster) (fits : LeavesFit s e) :
    Announced s e := by
  obtain ⟨id, sequence, posts, given, outcome, size, others, joined⟩ :=
    joined_of_hello inv.aligned hello handled alignedAfter
  have standing : ∀ a ∈ after.session.actors.slots, a.fallen = false := by
    rw [joined.actors]
    exact inv.standing.alive
  have none : after.session.actors.slots.countP (·.fallen) = 0 :=
    List.countP_eq_zero.mpr fun a member => by simp [standing a member]
  have countable : Countable after.session :=
    (outcome.struck.fresh inv.standing.fresh).countable (by omega)
  have nobody : actorsToDespawn (markedSession after) = [] := by
    rw [actorsToDespawn_marked countable, fallenIds, List.map_eq_nil_iff, List.filter_eq_nil_iff]
    exact fun a member => by simp [standing a member]
  have ticks : tickPosts after = leavePosts after.session (lateIds after) := by
    rw [tickPosts_late, nobody, despawnPosts, List.flatMap_nil, List.append_nil]
  refine announced_of_holds outcome (serviceMainStep_handled handled) inv.aligned alignedAfter
    countable (fun p listed left => absurd left (others p listed)) ?_ ?_
  · intro leaver isLate r listed stays
    refine holds_ticked after ?_
    have count : (leavePosts after.session (lateIds after)).length =
        leaveCount ((otherPlayers s.session id).length + 1) (lateOthers s id).length := by
      rw [leavePosts_length alignedAfter.leaving, joined.count, joined.leavers, List.length_map]
    rw [tlTick_players] at listed
    have somebody : lateOthers s id ≠ [] := fun nobody => by
      rw [joined.leavers, nobody] at isLate
      cases isLate
    have room := fits names hello id given somebody
    have first : 0 < leaveCount ((otherPlayers s.session id).length + 1)
        (lateOthers s id).length := by
      obtain ⟨p, rest, split⟩ := List.exists_cons_of_ne_nil somebody
      rw [split, List.length_cons, leaveCount]
      omega
    have queue : after.ctx.outputs.length = 5 + snapshotSize s names.1 id := by
      rw [outcome.outputs_length rfl, size]
      split at room <;> omega
    rw [ticks, queue]
    by_cases top : HighestLate s id
    · rw [if_pos top] at room
      obtain ⟨k, last, ids, at_, connected, highest, split⟩ := joined.highest alignedAfter top
      have leaving := alignedAfter.leaving
      rw [split] at isLate listed leaving count ⊢
      have needed := mem_dropLast_leavePosts leaving at_ connected highest isLate listed stays
      rw [List.dropLast_eq_take, count] at needed
      exact List.take_subset_take_left _ (by omega) needed
    · rw [if_neg top] at room
      rw [List.take_of_length_le (by omega)]
      exact mem_leavePosts_of_stays isLate listed stays
  · rw [nobody]
    exact fun _ member => by cases member

/-! ## Runs -/

/-- Every iteration announces whom it loses, where the messages about late players fit. -/
theorem serviceMainStep_announced {s : ServiceState F} {e : ProfileStore × TransportEnvelope}
    (inv : MainInvariant s) (fits : LeavesFit s e) : Announced s e := by
  obtain ⟨sequence, posts, outcome⟩ := tlHandleEnvelope_outcome e.1 e.2 (tlClearOutputs s)
  have alignedAfter : Aligned (tlHandleEnvelope e.1 e.2 (tlClearOutputs s)).2.roster :=
    serviceStep_aligned (s := tlClearOutputs s) inv.aligned (.envelope e.1 e.2)
  cases handled : tlHandleEnvelope e.1 e.2 (tlClearOutputs s) with
  | mk ok after =>
      rw [handled] at outcome alignedAfter
      have step := serviceMainStep_handled handled
      cases ok with
      | false => exact unhandled_announced outcome step
      | true =>
          cases hello : helloOf? e.2.bytes with
          | none => exact message_announced outcome step hello inv alignedAfter
          | some names => exact hello_announced hello handled inv alignedAfter fits

theorem serviceMainStep_invariant {s : ServiceState F} (inv : MainInvariant s)
    (e : ProfileStore × TransportEnvelope) : MainInvariant (serviceMainStep s e) := by
  obtain ⟨sequence, posts, outcome⟩ := tlHandleEnvelope_outcome e.1 e.2 (tlClearOutputs s)
  have alignedAfter : Aligned (tlHandleEnvelope e.1 e.2 (tlClearOutputs s)).2.roster :=
    serviceStep_aligned (s := tlClearOutputs s) inv.aligned (.envelope e.1 e.2)
  cases handled : tlHandleEnvelope e.1 e.2 (tlClearOutputs s) with
  | mk ok after =>
      rw [handled] at outcome alignedAfter
      rw [serviceMainStep_handled handled]
      cases ok with
      | false =>
          have actors : after.session.actors = s.session.actors := (outcome.unhandled rfl).1
          rw [if_neg Bool.false_ne_true]
          refine ⟨alignedAfter, ⟨?_, ?_⟩, ?_⟩
          · exact actors ▸ inv.standing.fresh.distinct
          · exact actors ▸ inv.standing.fresh.unmarked
          · exact actors ▸ inv.standing.alive
      | true =>
          rw [if_pos rfl]
          refine ⟨serviceStep_aligned alignedAfter .tick, ?_⟩
          have fresh : Fresh after.session := outcome.struck.fresh inv.standing.fresh
          have few := outcome.struck.few inv.standing.alive
          have buried := fresh.tick (Nat.le_trans few (by decide))
          have session : (tlTick after).session = tickSession after := by rw [tlTick_posts]
          exact session ▸ buried

theorem serviceMainStart_invariant (timeoutTicks : UInt32)
    (whitelist : List UInt32) :
    MainInvariant (serviceMainStart timeoutTicks whitelist : ServiceState F) := by
  refine ⟨?_, ?_⟩
  · exact Reachable.aligned ⟨1, 29, 20, whitelist, _, rfl⟩
  · have standing : (ActorStateFlags.hostile &&& ActorStateFlags.dead != 0) = false := by decide
    obtain ⟨hostile, placed, unmarked, alive⟩ : ∃ a : ActorRuntimeState F,
        (serviceMainStart timeoutTicks whitelist).session.actors.slots = [a] ∧
          a.pendingDespawn = false ∧ a.fallen = false := by
      refine ⟨_, rfl, rfl, ?_⟩
      rw [ActorRuntimeState.fallen, ActorRuntimeState.dead]
      simp only [standing, Bool.and_false]
    refine ⟨⟨?_, ?_⟩, ?_⟩
    · rw [placed]
      exact List.pairwise_singleton _ _
    · rw [placed, List.forall_mem_singleton]
      exact fun _ => unmarked
    · rw [placed, List.forall_mem_singleton]
      exact alive

/-- In every run of the loop each iteration announces whom it loses, if in each iteration that lets
somebody in while others are late the messages about these fit into the queue. -/
theorem serviceMain_announced (timeoutTicks : UInt32) (whitelist : List UInt32)
    (iterations : List (ProfileStore × TransportEnvelope))
    (fit : Along serviceMainStep LeavesFit
      (serviceMainStart timeoutTicks whitelist : ServiceState F) iterations) :
    Along serviceMainStep Announced (serviceMainStart timeoutTicks whitelist : ServiceState F)
      iterations := by
  have preserved : ∀ (s : ServiceState F) (e : ProfileStore × TransportEnvelope), MainInvariant s →
      LeavesFit s e → MainInvariant (serviceMainStep s e) :=
    fun _ e inv _ => serviceMainStep_invariant inv e
  exact along_of_invariant preserved (fun _ _ inv fits => serviceMainStep_announced inv fits)
    (serviceMainStart_invariant timeoutTicks whitelist) fit

end Loop

/-! ## Two runs -/

def helloIteration (connectionId : UInt32) (playerGuid : Text) : ProfileStore × TransportEnvelope :=
  (⟨fun _ => none⟩, envelopeOf (F := Binary32) connectionId .hello (⟨0, 0⟩, playerGuid, []))

/-- A second player is let in while the first is late. -/
theorem serviceMain_announced_late :
    Along serviceMainStep Announced (serviceMainStart 1 [7] : ServiceState Binary32)
      [helloIteration 100 [0x41], helloIteration 101 [0x42]] :=
  serviceMain_announced 1 [7] _ (by decide +kernel)

/-- Behind 53 objects a third player is let in, in the iteration in which the first one is late: of the
three messages about that only two are queued, and the third player is not told. -/
theorem serviceMain_announced_crowded :
    let build : Body Binary32 .buildRequest := ⟨1, 2, 0, 1001, 7, zeroVec, zeroRot, 0⟩
    let start : ServiceState Binary32 := serviceMainStart 55 [7]
    ¬ Along serviceMainStep Announced start ([helloIteration 100 [0x41], helloIteration 101 [0x42]] ++
      List.replicate 53 (⟨fun _ => none⟩, envelopeOf 101 .buildRequest build) ++
      [helloIteration 102 [0x43]]) := by
  intro build start all
  have announced := (along_append.mp all).2.1
  have lost : let before := run serviceMainStep start ([helloIteration 100 [0x41],
        helloIteration 101 [0x42]] ++
        List.replicate 53 (⟨fun _ => none⟩, envelopeOf 101 .buildRequest build))
      let after := serviceMainStep before (helloIteration 102 [0x43])
      (before.session.players.slots[0]?.map fun p => (p.connected, p.playerId)) = some (true, 1) ∧
      (after.session.players.slots[0]?.map (·.connected)) = some false ∧
      (after.session.players.slots[2]?.map fun p => (p.connected, p.connectionId)) =
        some (true, 102) ∧
      told (F := Binary32) .playerLeft 102 after.ctx.outputs = [] := by
    decide +kernel
  obtain ⟨before, now, stays, silent⟩ := lost
  obtain ⟨p, atP, wasP⟩ := Option.map_eq_some_iff.mp before
  obtain ⟨q, atQ, gone⟩ := Option.map_eq_some_iff.mp now
  obtain ⟨r, atR, isR⟩ := Option.map_eq_some_iff.mp stays
  obtain ⟨connected, named⟩ := Prod.mk.inj wasP
  obtain ⟨still, addressed⟩ := Prod.mk.inj isR
  obtain ⟨output, queued, toR, carries⟩ :=
    announced.players 0 p q atP atQ connected gone r (List.mem_of_getElem? atR) still
  have heard := List.filterMap_eq_nil_iff.mp silent output queued
  rw [if_pos (toR.trans addressed), messageOf?_eq_some.mpr carries] at heard
  cases heard

end F4MP.Service
