import F4MP.Service.Tick

/-!
# The roster

Who sits where, and which GUID is bound to which player id. The slot table, the registry and the
connection ids of the service are one roster, and every event of the service is one step of it: some
seats are vacated, or one player sits down.
-/

namespace F4MP.Service
open SoftFloat Protocol

variable {F : Type}

/-! ## Rosters -/

structure Roster where
  seats : List Seat
  registry : Registry

def ServiceState.roster (s : ServiceState F) : Roster := ⟨s.session.seats, s.registry⟩

def vacate (id : PlayerId) (seats : List Seat) : List Seat :=
  Slots.modifyFirst (·.playerId == id) (fun seat => { seat with connected := false, connectionId := 0 })
    seats

/-- The GUID as the registry and the slots keep it. -/
def keptGuid (playerGuid : Text) : Text := strncpyField 64 playerGuid

/-- The seats when player `id` has sat down. -/
def sit (id : PlayerId) (connectionId : UInt32) (playerGuid : Text) (seats : List Seat) :
    List Seat :=
  seats.set (id.toNat - 1) ⟨true, id, connectionId, keptGuid playerGuid⟩

/-- The lowest id that no connected player holds. -/
def lowestFree (seats : List Seat) : Option PlayerId :=
  ([1, 2, 3, 4, 5, 6, 7] : List PlayerId).find? fun id =>
    !seats.any fun seat => seat.connected && seat.playerId == id

/-- The seat a GUID is given: the one it is bound to, or the lowest free one. -/
def Roster.seatFor (r : Roster) (playerGuid : Text) : Option PlayerId :=
  (srFindPlayerId r.registry playerGuid).or (lowestFree r.seats)

/-- A GUID sits down on the seat it is given, and is bound to it when it was bound to none. -/
def Roster.letIn (r : Roster) (playerGuid : Text) (connectionId : UInt32) :
    Option (PlayerId × Roster) :=
  (r.seatFor playerGuid).map fun id => (id, {
    seats := sit id connectionId playerGuid r.seats
    registry := if (srFindPlayerId r.registry playerGuid).isSome then r.registry
      else srBindPlayer r.registry playerGuid id })

def Roster.vacate (r : Roster) (ids : List PlayerId) : Roster :=
  { r with seats := ids.foldl (fun seats id => Service.vacate id seats) r.seats }

/-- Seat `k` was never taken or is the seat of player `k + 1`, and there are seven players. -/
def Placed (seats : List Seat) : Prop :=
  ∀ (k : Nat) (seat : Seat), seats[k]? = some seat →
    (seat.connected = false ∧ seat.playerId = 0) ∨ (seat.playerId.toNat = k + 1 ∧ k < 7)

/-- Every binding is of a GUID the registry can keep, and to the player of a seat. -/
structure Bound (r : Roster) : Prop where
  kept : ∀ e ∈ r.registry.slots, e.inUse = true → e.playerGuid ≠ [] ∧ keptGuid e.playerGuid = e.playerGuid
  seated : ∀ e ∈ r.registry.slots, e.inUse = true → e.playerId ≠ 0 ∧
    ∃ (k : Nat) (seat : Seat), r.seats[k]? = some seat ∧ seat.playerId = e.playerId

structure Aligned (r : Roster) : Prop where
  size : r.seats.length = maxPlayersPerSession
  placed : Placed r.seats
  bound : Bound r

section Seats
variable {seats : List Seat} {k : Nat} {seat : Seat}

theorem Placed.index (placed : Placed seats) (at_ : seats[k]? = some seat)
    (taken : seat.playerId ≠ 0) : seat.playerId.toNat = k + 1 ∧ k < 7 := by
  rcases placed k seat at_ with ⟨_, unused⟩ | held
  · exact absurd unused taken
  · exact held

theorem Placed.connected_index (placed : Placed seats) (at_ : seats[k]? = some seat)
    (connected : seat.connected = true) : seat.playerId.toNat = k + 1 ∧ k < 7 := by
  rcases placed k seat at_ with ⟨free, _⟩ | held
  · rw [connected] at free
    cases free
  · exact held

theorem playerId_ne_zero {id : PlayerId} {n : Nat} (held : id.toNat = n + 1) : id ≠ 0 := by
  rintro rfl
  cases held

theorem vacate_get (id : PlayerId) (seats : List Seat) (k : Nat) :
    (vacate id seats)[k]? = seats[k]? ∨ ∃ seat, seats[k]? = some seat ∧
      (vacate id seats)[k]? = some { seat with connected := false, connectionId := 0 } := by
  unfold vacate
  rcases Slots.getElem?_modifyFirst (p := fun seat : Seat => seat.playerId == id)
    (f := fun seat => { seat with connected := false, connectionId := 0 }) seats k with
    same | ⟨seat, at_, _, written⟩
  · exact .inl same
  · exact .inr ⟨seat, at_, written⟩

theorem Placed.vacate (placed : Placed seats) (id : PlayerId) : Placed (vacate id seats) := by
  intro k seat at_
  rcases vacate_get id seats k with same | ⟨old, before, after⟩
  · exact placed k seat (same ▸ at_)
  · obtain rfl := Option.some.inj (at_.symm.trans after)
    rcases placed k old before with ⟨_, unused⟩ | held
    · exact .inl ⟨rfl, unused⟩
    · exact .inr held

theorem Placed.sit (placed : Placed seats) {id : PlayerId} (low : 0 < id.toNat)
    (high : id.toNat ≤ 7) (connectionId : UInt32) (playerGuid : Text) :
    Placed (sit id connectionId playerGuid seats) := by
  intro k seat at_
  simp only [Service.sit, List.getElem?_set] at at_
  split at at_
  · rename_i here
    split at at_
    · obtain rfl := Option.some.inj at_
      exact .inr ⟨by dsimp only; omega, by omega⟩
    · cases at_
  · exact placed k seat at_

theorem lowestFree_bounds {id : PlayerId} (lowest : lowestFree seats = some id) :
    0 < id.toNat ∧ id.toNat ≤ 7 := by
  have listed : id ∈ ([1, 2, 3, 4, 5, 6, 7] : List PlayerId) := List.mem_of_find?_eq_some lowest
  simp only [List.mem_cons, List.not_mem_nil, or_false] at listed
  rcases listed with rfl | rfl | rfl | rfl | rfl | rfl | rfl <;> decide

theorem lowestFree_free {id : PlayerId} (lowest : lowestFree seats = some id) {k : Nat}
    {seat : Seat} (at_ : seats[k]? = some seat) (connected : seat.connected = true) :
    seat.playerId ≠ id := by
  rintro rfl
  have free := List.find?_some lowest
  simp only [Bool.not_eq_true', List.any_eq_false, Bool.and_eq_true, beq_iff_eq] at free
  exact free seat (List.mem_of_getElem? at_) ⟨connected, rfl⟩

theorem Placed.connected_below (placed : Placed seats) {id : PlayerId}
    (lowest : lowestFree seats = some id) {j : Nat} (below : j + 1 < id.toNat) {seat : Seat}
    (at_ : seats[j]? = some seat) : seat.connected = true := by
  obtain ⟨_, i, inside, here, before⟩ := List.find?_eq_some_iff_getElem.mp lowest
  have ids : ∀ i : Fin 7, (([1, 2, 3, 4, 5, 6, 7] : List PlayerId)[i]).toNat = i.val + 1 := by decide
  have number : id.toNat = i + 1 := here ▸ ids ⟨i, inside⟩
  have held := before j (by omega)
  simp only [Bool.not_not, List.any_eq_true, Bool.and_eq_true, beq_iff_eq] at held
  obtain ⟨other, member, connected, same⟩ := held
  obtain ⟨k, here⟩ := List.mem_iff_getElem?.mp member
  have place := (placed.connected_index here connected).1
  have index : j = k := by
    have := ids ⟨j, by have : i < 7 := inside; omega⟩
    rw [same] at place
    simp only [Fin.getElem_fin] at this
    omega
  subst index
  rwa [Option.some.inj (at_.symm.trans here)]

theorem keptGuid_ne_nil {playerGuid : Text} (whole : cString playerGuid = playerGuid)
    (named : playerGuid ≠ []) : keptGuid playerGuid ≠ [] := by
  rw [keptGuid, strncpyField, whole]
  simpa using named

theorem mem_srBindPlayer {registry : Registry} {playerGuid : Text} {id : PlayerId}
    (unbound : srFindPlayerId registry playerGuid = none) {e : SessionRegistryEntry}
    (member : e ∈ (srBindPlayer registry playerGuid id).slots) :
    e ∈ registry.slots ∨ (playerGuid ≠ [] ∧ e = ⟨true, keptGuid playerGuid, id⟩) := by
  have absent : ¬ registry.slots.any (Slots.holds playerGuid) = true := by
    rw [Slots.lookup_isSome_iff]
    simpa [srFindPlayerId] using unbound
  simp only [srBindPlayer, absent, Bool.false_eq_true, if_false] at member
  split at member
  · exact .inl member
  · rename_i named
    cases claimed : registry.claim Slots.free ⟨true, strncpyField 64 playerGuid, id⟩ with
    | none => exact .inl (by simpa [claimed] using member)
    | some after =>
        rw [claimed] at member
        rcases Slots.mem_claim (Slots.Table.claim_slots claimed) member with old | rfl
        · exact .inl old
        · exact .inr ⟨named, rfl⟩

theorem Bound.vacate {r : Roster} (bound : Bound r) (id : PlayerId) :
    Bound { r with seats := Service.vacate id r.seats } where
  kept := bound.kept
  seated e member inUse := by
    obtain ⟨taken, k, seat, at_, same⟩ := bound.seated e member inUse
    refine ⟨taken, k, ?_⟩
    rcases vacate_get id r.seats k with unchanged | ⟨old, before, after⟩
    · exact ⟨seat, unchanged.trans at_, same⟩
    · obtain rfl := Option.some.inj (at_.symm.trans before)
      exact ⟨_, after, same⟩

theorem Aligned.vacate {r : Roster} (aligned : Aligned r) (ids : List PlayerId) :
    Aligned (r.vacate ids) := by
  induction ids generalizing r with
  | nil => exact aligned
  | cons id rest ih =>
      refine @ih { r with seats := Service.vacate id r.seats } ⟨?_, ?_, ?_⟩
      · rw [Service.vacate, Slots.length_modifyFirst, aligned.size]
      · exact aligned.placed.vacate id
      · exact aligned.bound.vacate id

theorem Bound.find {r : Roster} (bound : Bound r) {playerGuid : Text} {id : PlayerId}
    (found : srFindPlayerId r.registry playerGuid = some id) :
    id ≠ 0 ∧ keptGuid playerGuid = playerGuid ∧ ∃ (k : Nat) (seat : Seat),
      r.seats[k]? = some seat ∧ seat.playerId = id := by
  obtain ⟨e, held, rfl⟩ := Option.map_eq_some_iff.mp found
  obtain ⟨inUse, rfl⟩ := Slots.lookup_key held
  have member := Slots.lookup_mem held
  obtain ⟨taken, seated⟩ := bound.seated e member inUse
  exact ⟨taken, (bound.kept e member inUse).2, seated⟩

theorem Aligned.seatFor {r : Roster} (aligned : Aligned r) {playerGuid : Text} {id : PlayerId}
    (given : r.seatFor playerGuid = some id) : 0 < id.toNat ∧ id.toNat ≤ 7 := by
  unfold Roster.seatFor at given
  cases bound : srFindPlayerId r.registry playerGuid with
  | none =>
      rw [bound] at given
      exact lowestFree_bounds given
  | some found =>
      rw [bound] at given
      obtain rfl : found = id := Option.some.inj given
      obtain ⟨taken, _, k, seat, at_, rfl⟩ := aligned.bound.find bound
      have index := aligned.placed.index at_ taken
      omega

theorem sit_get {seats : List Seat} {id : PlayerId} (inside : id.toNat - 1 < seats.length)
    (connectionId : UInt32) (playerGuid : Text) :
    (sit id connectionId playerGuid seats)[id.toNat - 1]? =
      some ⟨true, id, connectionId, keptGuid playerGuid⟩ := by
  rw [sit, List.getElem?_set_self inside]

theorem sit_get_ne {seats : List Seat} {id : PlayerId} {k : Nat} (other : id.toNat - 1 ≠ k)
    (connectionId : UInt32) (playerGuid : Text) :
    (sit id connectionId playerGuid seats)[k]? = seats[k]? := by
  rw [sit, List.getElem?_set_ne other]

theorem Aligned.letIn {r after : Roster} (aligned : Aligned r) {playerGuid : Text}
    {connectionId : UInt32} {id : PlayerId} (whole : cString playerGuid = playerGuid)
    (sat : r.letIn playerGuid connectionId = some (id, after)) : Aligned after := by
  obtain ⟨_, given, eq⟩ := Option.map_eq_some_iff.mp sat
  obtain ⟨rfl, rfl⟩ := Prod.mk.inj eq
  obtain ⟨low, high⟩ := aligned.seatFor given
  rename_i id
  have inside : id.toNat - 1 < r.seats.length := by
    rw [aligned.size, maxPlayersPerSession]
    omega
  have here := sit_get inside connectionId playerGuid
  -- A binding that was there is still to the player of its seat.
  have old : ∀ e ∈ r.registry.slots, e.inUse = true → e.playerId ≠ 0 ∧ ∃ (k : Nat) (seat : Seat),
      (sit id connectionId playerGuid r.seats)[k]? = some seat ∧ seat.playerId = e.playerId := by
    intro e member inUse
    obtain ⟨taken, k, seat, at_, same⟩ := aligned.bound.seated e member inUse
    refine ⟨taken, k, ?_⟩
    by_cases seatOf : id.toNat - 1 = k
    · have number := (aligned.placed.index at_ (same ▸ taken)).1
      refine ⟨_, seatOf ▸ here, ?_⟩
      rw [← same]
      exact UInt16.toNat_inj.mp (by dsimp only; omega)
    · exact ⟨seat, (sit_get_ne seatOf connectionId playerGuid).trans at_, same⟩
  refine ⟨?_, aligned.placed.sit low high connectionId playerGuid, ?_⟩
  · rw [sit, List.length_set, aligned.size]
  · cases bound : srFindPlayerId r.registry playerGuid with
    | some found => exact ⟨aligned.bound.kept, old⟩
    | none =>
        refine ⟨fun e member inUse => ?_, fun e member inUse => ?_⟩ <;>
          rcases mem_srBindPlayer bound member with before | ⟨named, rfl⟩
        · exact aligned.bound.kept e before inUse
        · exact ⟨keptGuid_ne_nil whole named, strncpyField_kept 64 playerGuid⟩
        · exact old e before inUse
        · exact ⟨fun (zero : id = 0) => by simp [zero] at low, _, _, here, rfl⟩

end Seats

/-! ## The service refines the roster -/

section Refinement

theorem seats_get {s : SessionState F} {k : Nat} {p : PlayerRuntimeState F}
    (at_ : s.players.slots[k]? = some p) : s.seats[k]? = some p.seat := by
  rw [SessionState.seats, List.getElem?_map, at_]
  rfl

theorem Placed.updatePlayer_slots {s : SessionState F} (placed : Placed s.seats) {k : Nat}
    {player : PlayerRuntimeState F} (at_ : s.players.slots[k]? = some player)
    (connected : player.connected = true) (f : PlayerRuntimeState F → PlayerRuntimeState F) :
    (updatePlayer s player.playerId f).players.slots = s.players.slots.set k (f player) := by
  refine Slots.modifyFirst_eq_set at_ (by simp [connected]) fun j q below at_j => ?_
  by_contra held
  rw [Bool.not_eq_false, Bool.and_eq_true, beq_iff_eq] at held
  have here := (placed.connected_index (seats_get at_) connected).1
  have there := (placed.connected_index (seats_get at_j) held.1).1
  simp only [PlayerRuntimeState.seat, held.2] at here there
  omega

theorem Placed.smRemovePlayer_slots {s : SessionState F} (placed : Placed s.seats) {k : Nat}
    {player : PlayerRuntimeState F} (at_ : s.players.slots[k]? = some player)
    (connected : player.connected = true) :
    (smRemovePlayer s player.playerId).players.slots =
      s.players.slots.set k { player with connected := false, connectionId := 0 } := by
  refine Slots.modifyFirst_eq_set at_ (by simp) fun j q below at_j => ?_
  by_contra held
  rw [Bool.not_eq_false, beq_iff_eq] at held
  have here := (placed.connected_index (seats_get at_) connected).1
  have taken : q.playerId ≠ 0 := held ▸ playerId_ne_zero here
  have there := (placed.index (seats_get at_j) taken).1
  simp only [PlayerRuntimeState.seat, held] at here there
  omega

theorem candidateId_lowestFree (s : SessionState F) : candidateId s = lowestFree s.seats := by
  unfold candidateId lowestFree
  congr 1
  funext id
  simp only [findPlayer, SessionState.seats, List.any_map, ← Option.not_isSome, List.isSome_find?]
  rfl

/-- The seat that a HELLO of this GUID is given. -/
def ServiceState.seatFor (s : ServiceState F) (playerGuid : Text) : Option PlayerId :=
  (srFindPlayerId s.registry playerGuid).or (candidateId s.session)

theorem seatFor_roster (s : ServiceState F) (playerGuid : Text) :
    s.seatFor playerGuid = s.roster.seatFor playerGuid := by
  rw [ServiceState.seatFor, candidateId_lowestFree]
  rfl

theorem seats_smRemovePlayer (s : SessionState F) (id : PlayerId) :
    (smRemovePlayer s id).seats = vacate id s.seats :=
  Slots.map_modifyFirst_comm (fun _ => rfl) fun _ => rfl

theorem seats_fillSeat (store : ProfileStore) (playerGuid playerName : Text)
    (connectionId : UInt32) {id : PlayerId} {taken : ServiceState F}
    {slots : List (PlayerRuntimeState F)} {k : Nat} {p : PlayerRuntimeState F}
    (number : id.toNat = k + 1) (inside : k < slots.length)
    (written : taken.session.players.slots = slots.set k p) (connected : p.connected = true)
    (named : p.playerId = id)
    (others : ∀ j q, j < k → slots[j]? = some q → q.playerId ≠ id) :
    (fillSeat store playerGuid playerName connectionId id taken).session.seats =
      sit id connectionId playerGuid (slots.map (·.seat)) := by
  have here : (slots.set k p)[k]? = some p := by simp [inside]
  have filled := Slots.modifyFirst_eq_set (f := fillSlot store playerGuid playerName connectionId
      taken.ctx.currentTick) (p := fun q => q.connected && q.playerId == id) here
    (by simp [connected, named]) fun j q below at_ => by
      rw [List.getElem?_set_ne (Nat.ne_of_gt below)] at at_
      simp [others j q below at_]
  have index : id.toNat - 1 = k := by omega
  simp only [fillSeat, SessionState.seats, updatePlayer, PlayerTable.modifyFirst, written, filled,
    List.set_set, List.map_set, sit, index]
  simp [fillSlot, tlLoadProfileIntoPlayer, PlayerRuntimeState.seat, connected, named, keptGuid]

theorem smReconnectPlayer_slots {s : SessionState F} {id : PlayerId} (placed : Placed s.seats)
    (taken : id ≠ 0) {k : Nat} {old : PlayerRuntimeState F} (at_ : s.players.slots[k]? = some old)
    (named : old.playerId = id) (connectionId : UInt32) :
    ∃ session, smReconnectPlayer s id connectionId = some session ∧ session.players.slots =
      s.players.slots.set k { old with connected := true, connectionId } := by
  have others : ∀ j q, j < k → s.players.slots[j]? = some q → q.playerId ≠ id := by
    rintro j q below at_j rfl
    have here := (placed.index (seats_get at_) fun unused => taken (named ▸ unused)).1
    have there := (placed.index (seats_get at_j) taken).1
    simp only [PlayerRuntimeState.seat, named] at here there
    omega
  have present : s.players.slots.any (·.playerId == id) = true :=
    List.any_eq_true.mpr ⟨old, List.mem_of_getElem? at_, beq_iff_eq.mpr named⟩
  have written := Slots.modifyFirst_eq_set (f := fun p => { p with connected := true, connectionId })
    (p := fun p : PlayerRuntimeState F => p.playerId == id) at_ (beq_iff_eq.mpr named)
    fun j q below at_j => by simpa using others j q below at_j
  exact ⟨_, by rw [smReconnectPlayer, if_pos present], written⟩

theorem smReconnectPlayer_seats (store : ProfileStore) (playerGuid playerName : Text)
    (connectionId : UInt32) {s : ServiceState F} {id : PlayerId} (placed : Placed s.session.seats)
    (taken : id ≠ 0) (seated : ∃ (k : Nat) (seat : Seat), s.session.seats[k]? = some seat ∧
      seat.playerId = id) :
    ∃ session, smReconnectPlayer s.session id connectionId = some session ∧
      (fillSeat store playerGuid playerName connectionId id { s with session }).session.seats =
        sit id connectionId playerGuid s.session.seats := by
  obtain ⟨k, seat, at_, named⟩ := seated
  obtain ⟨old, here, rfl⟩ : ∃ p, s.session.players.slots[k]? = some p ∧ p.seat = seat := by
    simpa [SessionState.seats] using at_
  have named : old.playerId = id := named
  obtain ⟨number, _⟩ := placed.index at_ fun unused => taken (named ▸ unused)
  have others : ∀ j q, j < k → s.session.players.slots[j]? = some q → q.playerId ≠ id := by
    rintro j q below at_j rfl
    have index := (placed.index (seats_get at_j) taken).1
    have same : q.playerId.toNat = k + 1 := named ▸ number
    simp only [PlayerRuntimeState.seat] at index
    omega
  obtain ⟨session, reconnected, written⟩ :=
    smReconnectPlayer_slots placed taken here named connectionId
  refine ⟨session, reconnected, ?_⟩
  exact seats_fillSeat store playerGuid playerName connectionId (named ▸ number)
    (List.getElem?_eq_some_iff.mp here).1 written rfl named others

theorem wsAllocPlayer_slots [CFloat F] {s : SessionState F} {id : PlayerId} (placed : Placed s.seats)
    (lowest : lowestFree s.seats = some id) (connectionId : UInt32) :
    ∃ session, wsAllocPlayer s id connectionId = some session ∧ session.players.slots =
      s.players.slots.set (id.toNat - 1)
        { PlayerRuntimeState.zero with connected := true, playerId := id, connectionId } := by
  obtain ⟨low, high⟩ := lowestFree_bounds lowest
  have inside : id.toNat - 1 < s.players.slots.length := by
    rw [s.players.size, maxPlayersPerSession]
    omega
  have here : s.players.slots[id.toNat - 1]? = some s.players.slots[id.toNat - 1] :=
    List.getElem?_eq_getElem inside
  have free : s.players.slots[id.toNat - 1].connected = false := by
    by_contra connected
    rw [Bool.not_eq_false] at connected
    have place := (placed.connected_index (seats_get here) connected).1
    refine lowestFree_free lowest (seats_get here) connected (UInt16.toNat_inj.mp ?_)
    omega
  have below : ∀ j q, j < id.toNat - 1 → s.players.slots[j]? = some q → q.connected = true :=
    fun j q less at_ => placed.connected_below lowest (by omega) (seats_get at_)
  have room : s.players.slots.any (!·.connected) = true :=
    List.any_eq_true.mpr ⟨_, List.mem_of_getElem? here, by simp [free]⟩
  have written := Slots.modifyFirst_eq_set (f := fun _ => { PlayerRuntimeState.zero with
      connected := true, playerId := id, connectionId })
    (p := fun p : PlayerRuntimeState F => !p.connected) here (by simp [free])
    fun j q less at_ => by simp [below j q less at_]
  exact ⟨_, by rw [wsAllocPlayer, if_pos room], written⟩

theorem smJoinSession_seats [CFloat F] (store : ProfileStore) (playerGuid playerName : Text)
    (connectionId : UInt32) {s : ServiceState F} {id : PlayerId} (registry : Registry)
    (placed : Placed s.session.seats) (lowest : lowestFree s.session.seats = some id) :
    ∃ session, smJoinSession s.session id connectionId = some session ∧
      (fillSeat store playerGuid playerName connectionId id
        { s with session, registry }).session.seats =
        sit id connectionId playerGuid s.session.seats := by
  obtain ⟨session, joined, written⟩ := wsAllocPlayer_slots placed lowest connectionId
  obtain ⟨low, high⟩ := lowestFree_bounds lowest
  have number : id.toNat = id.toNat - 1 + 1 := by omega
  have inside : id.toNat - 1 < s.session.players.slots.length := by
    rw [s.session.players.size, maxPlayersPerSession]
    omega
  have others : ∀ j q, j < id.toNat - 1 → s.session.players.slots[j]? = some q →
      q.playerId ≠ id := by
    rintro j q less at_ rfl
    have taken := placed.connected_below lowest (by omega) (seats_get at_)
    have index := (placed.connected_index (seats_get at_) taken).1
    simp only [PlayerRuntimeState.seat] at index
    omega
  refine ⟨session, joined, ?_⟩
  exact seats_fillSeat store playerGuid playerName connectionId number inside written rfl rfl others

/-- Taking a seat and filling it is letting the GUID in. -/
theorem takeSeat_letIn [CFloat F] (store : ProfileStore) {s : ServiceState F}
    (aligned : Aligned s.roster) (playerGuid playerName : Text) (connectionId : UInt32) :
    (takeSeat s playerGuid connectionId).map (fun (id, taken) =>
      (id, (fillSeat store playerGuid playerName connectionId id taken).roster)) =
      s.roster.letIn playerGuid connectionId := by
  have placed : Placed s.session.seats := aligned.placed
  have same : s.roster.registry = s.registry := rfl
  have seats : s.roster.seats = s.session.seats := rfl
  simp only [takeSeat, Roster.letIn, Roster.seatFor, same, seats]
  cases bound : srFindPlayerId s.registry playerGuid with
  | some id =>
      obtain ⟨taken, _, seated⟩ := aligned.bound.find bound
      obtain ⟨session, returned, sat⟩ :=
        smReconnectPlayer_seats store playerGuid playerName connectionId placed taken seated
      simpa [returned, ServiceState.roster, fillSeat] using sat
  | none =>
      rw [candidateId_lowestFree]
      cases lowest : lowestFree s.session.seats with
      | none => rfl
      | some id =>
          obtain ⟨session, joined, sat⟩ := smJoinSession_seats store playerGuid playerName
            connectionId (srBindPlayer s.registry playerGuid id) placed lowest
          simpa [joined, ServiceState.roster, fillSeat] using sat

/-- The slot that a GUID takes: a new one, or the one that it has had before. -/
def TakesSlot [CFloat F] (s : ServiceState F) (playerGuid : Text) (connectionId : UInt32)
    (id : PlayerId) (slot : PlayerRuntimeState F) : Prop :=
  (srFindPlayerId s.registry playerGuid = none ∧ slot =
    { PlayerRuntimeState.zero with connected := true, playerId := id, connectionId }) ∨
  (srFindPlayerId s.registry playerGuid = some id ∧ ∃ old ∈ s.session.players.slots,
    old.playerId = id ∧ slot = { old with connected := true, connectionId })

theorem takeSeat_slots [CFloat F] {s taken : ServiceState F} (aligned : Aligned s.roster)
    {playerGuid : Text} {connectionId : UInt32} {id : PlayerId}
    (takes : takeSeat s playerGuid connectionId = some (id, taken)) :
    ∃ slot, TakesSlot s playerGuid connectionId id slot ∧ taken.session.players.slots =
      s.session.players.slots.set (id.toNat - 1) slot := by
  have placed : Placed s.session.seats := aligned.placed
  simp only [takeSeat] at takes
  cases bound : srFindPlayerId s.registry playerGuid with
  | none =>
      rw [bound, candidateId_lowestFree] at takes
      cases lowest : lowestFree s.session.seats with
      | none => simp [lowest] at takes
      | some candidate =>
          obtain ⟨session, joined, written⟩ := wsAllocPlayer_slots placed lowest connectionId
          simp only [lowest, smJoinSession, joined, Option.some.injEq, Prod.mk.injEq] at takes
          obtain ⟨rfl, rfl⟩ := takes
          exact ⟨_, .inl ⟨bound, rfl⟩, written⟩
  | some found =>
      obtain ⟨present, _, k, seat, at_, named⟩ := aligned.bound.find bound
      obtain ⟨old, here, rfl⟩ : ∃ p, s.session.players.slots[k]? = some p ∧ p.seat = seat := by
        simpa [ServiceState.roster, SessionState.seats] using at_
      have named : old.playerId = found := named
      obtain ⟨session, reconnected, written⟩ :=
        smReconnectPlayer_slots placed present here named connectionId
      rw [bound] at takes
      simp only [reconnected, Option.some.injEq, Prod.mk.injEq] at takes
      obtain ⟨rfl, rfl⟩ := takes
      have number := (placed.index at_ fun unused => present (named ▸ unused)).1
      have index : found.toNat - 1 = k := by
        simp only [PlayerRuntimeState.seat, named] at number
        omega
      refine ⟨_, .inr ⟨bound, old, List.mem_of_getElem? here, named, rfl⟩, ?_⟩
      rw [index]
      exact written

theorem TakesSlot.seated [CFloat F] {s : ServiceState F} {playerGuid : Text} {connectionId : UInt32}
    {id : PlayerId} {slot : PlayerRuntimeState F} (takes : TakesSlot s playerGuid connectionId id slot) :
    slot.connected = true ∧ slot.playerId = id := by
  rcases takes with ⟨_, rfl⟩ | ⟨_, old, _, named, rfl⟩
  · exact ⟨rfl, rfl⟩
  · exact ⟨rfl, named⟩

theorem takeSeat_seatFor [CFloat F] {s taken : ServiceState F} (aligned : Aligned s.roster)
    {playerGuid : Text} {connectionId : UInt32} {id : PlayerId}
    (takes : takeSeat s playerGuid connectionId = some (id, taken)) :
    s.seatFor playerGuid = some id := by
  have sat := takeSeat_letIn ⟨fun _ => none⟩ aligned playerGuid [] connectionId
  obtain ⟨_, given, eq⟩ := Option.map_eq_some_iff.mp (sat.symm.trans (congrArg _ takes))
  rw [seatFor_roster, given, (Prod.mk.inj eq).1]

theorem fillSeat_slots [CFloat F] (store : ProfileStore) {s taken : ServiceState F}
    (aligned : Aligned s.roster) {playerGuid : Text} (playerName : Text) {connectionId : UInt32}
    {id : PlayerId} (takes : takeSeat s playerGuid connectionId = some (id, taken)) :
    ∃ slot, TakesSlot s playerGuid connectionId id slot ∧
      findPlayer taken.session id = some slot ∧
      (fillSeat store playerGuid playerName connectionId id taken).session.players.slots =
        s.session.players.slots.set (id.toNat - 1)
          (fillSlot store playerGuid playerName connectionId taken.ctx.currentTick slot) := by
  obtain ⟨slot, takesSlot, written⟩ := takeSeat_slots aligned takes
  obtain ⟨connected, named⟩ := takesSlot.seated
  have given := takeSeat_seatFor aligned takes
  rw [seatFor_roster] at given
  obtain ⟨low, high⟩ := aligned.seatFor given
  have inside : id.toNat - 1 < s.session.players.slots.length := by
    rw [s.session.players.size, maxPlayersPerSession]
    omega
  have here : taken.session.players.slots[id.toNat - 1]? = some slot := by
    rw [written, List.getElem?_set_self inside]
  have others : ∀ j q, j < id.toNat - 1 → taken.session.players.slots[j]? = some q →
      (q.connected && q.playerId == id) = false := by
    intro j q below at_
    rw [written, List.getElem?_set_ne (Nat.ne_of_gt below)] at at_
    by_contra held
    rw [Bool.not_eq_false, Bool.and_eq_true, beq_iff_eq] at held
    have placed : Placed s.session.seats := aligned.placed
    have index := (placed.connected_index (seats_get at_) held.1).1
    simp only [PlayerRuntimeState.seat, held.2] at index
    omega
  have hit : (slot.connected && slot.playerId == id) = true := by simp [connected, named]
  refine ⟨slot, takesSlot, ?_, ?_⟩
  · refine List.find?_eq_some_iff_getElem.mpr ⟨hit, id.toNat - 1,
      (List.getElem?_eq_some_iff.mp here).1, (List.getElem?_eq_some_iff.mp here).2, fun j below => ?_⟩
    have inside' : j < taken.session.players.slots.length :=
      Nat.lt_trans below (List.getElem?_eq_some_iff.mp here).1
    rw [others j _ below (List.getElem?_eq_getElem inside')]
    rfl
  · have filled := Slots.modifyFirst_eq_set (f := fillSlot store playerGuid playerName connectionId
      taken.ctx.currentTick) (p := fun q => q.connected && q.playerId == id) here hit others
    rw [written, List.set_set] at filled
    simpa only [fillSeat, updatePlayer, PlayerTable.modifyFirst, written] using filled

/-! ## Every event is a step of the roster -/

section Steps

/-- The GUID and the connection of an event that carries a HELLO. -/
def helloEvent [WireFloat F] : ServiceEvent F → Option (Text × UInt32)
  | .envelope _ env => (helloOf? env.bytes).map fun names => (names.1, env.connectionId)
  | _ => none

inductive RosterStep (r : Roster) (hello : Option (Text × UInt32)) : Roster → Prop where
  | vacated (ids : List PlayerId) : RosterStep r hello (r.vacate ids)
  | seated {playerGuid : Text} {connectionId : UInt32} {id : PlayerId} {after : Roster}
      (asked : hello = some (playerGuid, connectionId))
      (sat : r.letIn playerGuid connectionId = some (id, after)) : RosterStep r hello after

theorem RosterStep.of_eq {r after : Roster} {hello : Option (Text × UInt32)} (same : after = r) :
    RosterStep r hello after := same ▸ .vacated []

theorem roster_updatePlayer (s : ServiceState F) (playerId : PlayerId)
    {f : PlayerRuntimeState F → PlayerRuntimeState F} (keeps : ∀ p, (f p).seat = p.seat) :
    ServiceState.roster { s with session := updatePlayer s.session playerId f } = s.roster := by
  simp only [ServiceState.roster, seats_updatePlayer s.session playerId keeps]

theorem roster_heard (s : ServiceState F) (playerId : PlayerId) :
    (heard s playerId).roster = s.roster :=
  roster_updatePlayer s playerId fun _ => rfl

theorem roster_smRemovePlayer (s : ServiceState F) (ctx : TransportLoopContext) (id : PlayerId) :
    ServiceState.roster { s with ctx, session := smRemovePlayer s.session id } =
      s.roster.vacate [id] := by
  simp only [ServiceState.roster, seats_smRemovePlayer, Roster.vacate, List.foldl_cons,
    List.foldl_nil]

theorem dppApplySelection_frame {s after : SessionState F} {playerId : PlayerId}
    {select : MsgDialogueSelect} {out : DialogueProgressionOutput}
    (applied : dppApplySelection s playerId select = some (after, out)) :
    ∃ dialogue, after = { s with dialogue } := by
  obtain ⟨selected, chosen, rest⟩ := Option.bind_eq_some_iff.mp applied
  obtain ⟨choice, _, done⟩ := Option.bind_eq_some_iff.mp rest
  obtain ⟨dialogue, rfl⟩ := dspApplySelection_frame chosen
  exact ⟨_, (Prod.mk.inj (Option.some.inj done)).1.symm⟩

variable [CFloat F] [WireFloat F]

theorem Outcome.roster {store : ProfileStore} {env : TransportEnvelope} {s after : ServiceState F}
    {posts : List (Post F)} {ok : Bool} (outcome : Outcome store env s posts (ok, after))
    (aligned : Aligned s.roster) :
    RosterStep s.roster (helloEvent (.envelope store env : ServiceEvent F)) after.roster := by
  cases outcome with
  | ignored => exact .of_eq rfl
  | @seated playerGuid playerName id taken slot _ _ hello takes =>
      have sat := takeSeat_letIn store aligned playerGuid playerName env.connectionId
      rw [takes] at sat
      exact .seated (by rw [helloEvent, hello]; rfl) sat.symm
  | kept _ keeps => exact .of_eq (roster_updatePlayer s _ keeps)
  | @left player =>
      have removed := roster_smRemovePlayer (heard s player.playerId)
        ((heard s player.playerId).post posts).ctx player.playerId
      rw [roster_heard] at removed
      exact removed ▸ .vacated [player.playerId]
  | hit _ _ _ _ _ shot =>
      subst shot
      exact .of_eq (roster_heard s _)
  | refused => exact .of_eq (roster_heard s _)
  | built _ _ _ placed =>
      subst placed
      exact .of_eq (roster_heard s _)
  | moved _ changed =>
      subst changed
      exact .of_eq rfl
  | scrapped _ removed =>
      subst removed
      exact .of_eq rfl
  | selected applied =>
      obtain ⟨dialogue, rfl⟩ := dspApplySelection_frame applied
      exact .of_eq rfl

omit [CFloat F] [WireFloat F] in
theorem seats_smRemovePlayers (s : SessionState F) (ids : List PlayerId) :
    (ids.foldl smRemovePlayer s).seats = ids.foldl (fun seats id => vacate id seats) s.seats := by
  induction ids generalizing s with
  | nil => rfl
  | cons id rest ih => rw [List.foldl_cons, ih, seats_smRemovePlayer, List.foldl_cons]

theorem tlTick_roster (s : ServiceState F) : ∃ ids, (tlTick s).roster = s.roster.vacate ids := by
  refine ⟨timedOutPlayers { s with ctx := { s.ctx with
    currentTick := s.ctx.currentTick + 1 } }, ?_⟩
  rw [tlTick_posts]
  simp only [ServiceState.roster, Roster.vacate, ← seats_smRemovePlayers]
  simp only [SessionState.seats, tickSession_players, timedOutSession]

omit [CFloat F] [WireFloat F] in
/-- The host's game changes the dialogue and the quest, and sends. -/
theorem hostStep_frame (s : ServiceState F) (event : HostEvent) : ∃ dialogue quest ctx,
    hostStep s event = { s with ctx, session := { s.session with dialogue, quest } } := by
  cases event with
  | dialogueOpen => exact ⟨_, _, _, rfl⟩
  | dialogueLine => exact ⟨_, _, _, rfl⟩
  | dialogueChoices => exact ⟨_, _, _, rfl⟩
  | dialogueClose => exact ⟨_, _, _, rfl⟩
  | questUpdate =>
      simp only [hostStep, hemQuestUpdate]
      split <;> exact ⟨_, _, _, rfl⟩
  | guestDialogueSelect playerId select =>
      simp only [hostStep, hemApplyGuestDialogueSelect]
      split
      · exact ⟨_, _, _, rfl⟩
      · rename_i applied
        obtain ⟨dialogue, rfl⟩ := dppApplySelection_frame applied
        exact ⟨_, _, _, rfl⟩

omit [CFloat F] [WireFloat F] in
theorem hostStep_players (s : ServiceState F) (event : HostEvent) :
    (hostStep s event).session.players = s.session.players ∧
      (hostStep s event).registry = s.registry := by
  obtain ⟨dialogue, quest, ctx, frame⟩ := hostStep_frame s event
  rw [frame]
  exact ⟨rfl, rfl⟩

omit [CFloat F] [WireFloat F] in
theorem hostStep_roster (s : ServiceState F) (event : HostEvent) :
    (hostStep s event).roster = s.roster := by
  obtain ⟨players, registry⟩ := hostStep_players s event
  simp only [ServiceState.roster, SessionState.seats, players, registry]

theorem serviceStep_roster [LawfulWireFloat F] {s : ServiceState F} (aligned : Aligned s.roster)
    (e : ServiceEvent F) : RosterStep s.roster (helloEvent e) (serviceStep s e).roster := by
  cases e with
  | envelope store env =>
      obtain ⟨sequence, posts, outcome⟩ := tlHandleEnvelope_outcome store env s
      have aligned : Aligned (received s sequence).roster := aligned
      exact outcome.roster aligned
  | tick =>
      obtain ⟨ids, step⟩ := tlTick_roster s
      exact (congrArg (RosterStep s.roster _) step).mpr (.vacated ids)
  | clearOutputs => exact .of_eq rfl
  | popDialogueSelect =>
      refine .of_eq ?_
      obtain ⟨_, _, _, frame⟩ := popDialogueSelect_frame s
      rw [frame]
      rfl
  | setPlayerTimeoutTicks => exact .of_eq rfl
  | spawnHostile baseFormId position =>
      refine .of_eq ?_
      obtain ⟨_, frame⟩ := spawnHostile_frame s baseFormId position
      rw [frame]
      rfl
  | allocSettlement settlementId center radius budget =>
      refine .of_eq ?_
      obtain ⟨_, frame⟩ := allocSettlement_frame s settlementId center radius budget
      rw [frame]
      rfl
  | rebuildBubble => exact .of_eq rfl
  | setTrace => exact .of_eq rfl
  | host event => exact .of_eq (hostStep_roster s event)

omit [CFloat F] in
theorem helloEvent_whole {e : ServiceEvent F} {playerGuid : Text} {connectionId : UInt32}
    (hello : helloEvent e = some (playerGuid, connectionId)) : cString playerGuid = playerGuid := by
  cases e with
  | envelope store env =>
      obtain ⟨names, decoded, eq⟩ := Option.map_eq_some_iff.mp hello
      obtain ⟨rfl, rfl⟩ := Prod.mk.inj eq
      simp only [helloOf?] at decoded
      split at decoded
      · cases decoded
      · split at decoded
        · split at decoded
          · rw [← Option.some.inj decoded]
            exact cString_whole (cString_noNul _)
          · cases decoded
        · cases decoded
  | _ => cases hello

omit [CFloat F] [WireFloat F] in
theorem RosterStep.aligned {r after : Roster} {hello : Option (Text × UInt32)}
    (step : RosterStep r hello after) (aligned : Aligned r)
    (whole : ∀ playerGuid connectionId, hello = some (playerGuid, connectionId) →
      cString playerGuid = playerGuid) : Aligned after := by
  cases step with
  | vacated ids => exact aligned.vacate ids
  | seated asked sat => exact aligned.letIn (whole _ _ asked) sat

theorem serviceStep_aligned [LawfulWireFloat F] {s : ServiceState F} (aligned : Aligned s.roster)
    (e : ServiceEvent F) : Aligned (serviceStep s e).roster :=
  (serviceStep_roster aligned e).aligned aligned fun _ _ asked => helloEvent_whole asked

/-- No slot and no entry of the registry has been used. -/
structure Unvisited (s : ServiceState F) : Prop where
  players : ∀ p ∈ s.session.players.slots, p = .zero
  registry : ∀ e ∈ s.registry.slots, e.inUse = false

omit [WireFloat F] in
theorem Unvisited.aligned {s : ServiceState F} (unvisited : Unvisited s) : Aligned s.roster := by
  have unused : ∀ e ∈ s.registry.slots, e.inUse = true → False := fun e member inUse => by
    rw [unvisited.registry e member] at inUse
    cases inUse
  refine ⟨?_, fun k seat at_ => .inl ?_, ?_, ?_⟩
  · simp only [ServiceState.roster, SessionState.seats, List.length_map, s.session.players.size]
  · obtain ⟨p, member, rfl⟩ := List.mem_map.mp (List.mem_of_getElem? at_)
    rw [unvisited.players p member]
    exact ⟨rfl, rfl⟩
  · exact fun e member inUse => (unused e member inUse).elim
  · exact fun e member inUse => (unused e member inUse).elim

omit [WireFloat F] in
theorem freshService_unvisited (sessionId : SessionId) (rules : UInt32) (tickRate : UInt16)
    (whitelist : List UInt32) :
    Unvisited (freshService sessionId rules tickRate whitelist : ServiceState F) :=
  ⟨fun _ member => List.eq_of_mem_replicate member, nofun⟩

omit [WireFloat F] in
theorem freshService_aligned (sessionId : SessionId) (rules : UInt32) (tickRate : UInt16)
    (whitelist : List UInt32) :
    Aligned (freshService sessionId rules tickRate whitelist : ServiceState F).roster :=
  (freshService_unvisited sessionId rules tickRate whitelist).aligned

theorem Reachable.aligned [LawfulWireFloat F] {s : ServiceState F} (reachable : Reachable s) :
    Aligned s.roster :=
  @Reachable.invariant F _ _ (fun s => Aligned s.roster) freshService_aligned
    (fun _ e aligned => serviceStep_aligned aligned e) s reachable

end Steps

end Refinement

end F4MP.Service
