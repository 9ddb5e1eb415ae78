import F4MP.Service.Roster

/-!
# Identities over a run

A GUID keeps its player id, and a connection its player, for as long as nobody is let in on an id or
a connection that belongs to someone else. The service does not look out for either.
-/

namespace F4MP.Service
open SoftFloat Protocol Transition

variable {F : Type}

/-- A HELLO as a client sends it, to a service without profile files. -/
def helloFrom (connectionId : UInt32) (playerGuid : Text) : ServiceEvent Binary32 :=
  .envelope ⟨fun _ => none⟩ (envelopeOf (F := Binary32) connectionId .hello (⟨0, 0⟩, playerGuid, []))

def disconnectFrom (connectionId : UInt32) : ServiceEvent Binary32 :=
  .envelope ⟨fun _ => none⟩ (envelopeOf (F := Binary32) connectionId .disconnect ⟨0⟩)

/-! ## GUIDs and player ids -/

/-- Whoever sits on the seat a GUID is bound to sat down under that GUID. -/
def Roster.Owned (r : Roster) : Prop :=
  ∀ e ∈ r.registry.slots, e.inUse = true → ∀ (k : Nat) (seat : Seat), r.seats[k]? = some seat →
    seat.playerId = e.playerId → seat.playerGuid = e.playerGuid

/-- No GUID other than this one is bound to the id. -/
def Unclaimed (registry : Registry) (playerGuid : Text) (id : PlayerId) : Prop :=
  ∀ e ∈ registry.slots, e.inUse = true → e.playerId = id → e.playerGuid = keptGuid playerGuid

instance (registry : Registry) (playerGuid : Text) (id : PlayerId) :
    Decidable (Unclaimed registry playerGuid id) :=
  inferInstanceAs (Decidable (∀ e ∈ registry.slots, _ → _ → _))

theorem Roster.Owned.vacate {r : Roster} (owned : r.Owned) (ids : List PlayerId) :
    (r.vacate ids).Owned := by
  induction ids generalizing r with
  | nil => exact owned
  | cons id rest ih =>
      refine @ih { r with seats := Service.vacate id r.seats } fun e member inUse k seat at_ same => ?_
      rcases vacate_get id r.seats k with unchanged | ⟨old, before, after⟩
      · exact owned e member inUse k seat (unchanged.symm.trans at_) same
      · obtain rfl := Option.some.inj (at_.symm.trans after)
        exact owned e member inUse k old before same

theorem Roster.Owned.letIn {r after : Roster} (owned : r.Owned) (aligned : Aligned r)
    {playerGuid : Text} {connectionId : UInt32} {id : PlayerId}
    (sat : r.letIn playerGuid connectionId = some (id, after))
    (unclaimed : srFindPlayerId r.registry playerGuid = none →
      Unclaimed r.registry playerGuid id) : after.Owned := by
  obtain ⟨_, given, eq⟩ := Option.map_eq_some_iff.mp sat
  obtain ⟨rfl, rfl⟩ := Prod.mk.inj eq
  rename_i id
  obtain ⟨low, high⟩ := aligned.seatFor given
  have inside : id.toNat - 1 < r.seats.length := by
    rw [aligned.size, maxPlayersPerSession]
    omega
  -- Whatever is bound to this id is bound to it under the GUID that sits down.
  have claimed : ∀ e ∈ r.registry.slots, e.inUse = true → e.playerId = id →
      e.playerGuid = keptGuid playerGuid := by
    intro e member inUse same
    cases bound : srFindPlayerId r.registry playerGuid with
    | none => exact unclaimed bound e member inUse same
    | some found =>
        have : found = id := by simpa [Roster.seatFor, bound] using given
        subst this
        obtain ⟨entry, held, named⟩ := Option.map_eq_some_iff.mp bound
        obtain ⟨taken, kept, k, seat, at_, seated⟩ := aligned.bound.find bound
        obtain ⟨entryInUse, guid⟩ := Slots.lookup_key held
        have mine := owned e member inUse k seat at_ (seated.trans same.symm)
        have theirs := owned entry (Slots.lookup_mem held) entryInUse k seat at_
          (seated.trans named.symm)
        rw [kept, ← mine, theirs]
        exact guid
  intro e member inUse k seat at_ same
  have origin : e ∈ r.registry.slots ∨ e = ⟨true, keptGuid playerGuid, id⟩ := by
    cases bound : srFindPlayerId r.registry playerGuid with
    | some found =>
        rw [bound] at member
        exact .inl member
    | none =>
        rw [bound] at member
        exact (mem_srBindPlayer bound member).imp_right And.right
  by_cases index : id.toNat - 1 = k
  · obtain rfl := Option.some.inj
      (at_.symm.trans (index ▸ sit_get inside connectionId playerGuid))
    rcases origin with old | rfl
    · exact (claimed e old inUse same.symm).symm
    · rfl
  · have before := (sit_get_ne index connectionId playerGuid).symm.trans at_
    rcases origin with old | rfl
    · exact owned e old inUse k seat before same
    · have same : seat.playerId = id := same
      have number := (aligned.placed.index before fun unused => by
        rw [← same, unused] at low
        cases low).1
      rw [same] at number
      omega

/-! ### Over a run -/

/-- No two bindings of different GUIDs are to one player id. -/
def GuidsApart (registry : Registry) : Prop :=
  ∀ a ∈ registry.slots, ∀ b ∈ registry.slots, a.inUse = true → b.inUse = true →
    a.playerGuid ≠ b.playerGuid → a.playerId ≠ b.playerId

instance (registry : Registry) : Decidable (GuidsApart registry) :=
  inferInstanceAs (Decidable (∀ a ∈ registry.slots, ∀ b ∈ registry.slots, _ → _ → _ → _))

section Run
variable [CFloat F] [WireFloat F]

/-- A HELLO of a GUID that is bound finds its own GUID in the slot that `sm_reconnect_player` takes. -/
def ReturnsToOwnSlot (s : ServiceState F) (e : ServiceEvent F) : Prop :=
  ∀ hello ∈ helloEvent e, ∀ id ∈ srFindPlayerId s.registry hello.1,
    ∀ slot ∈ s.session.players.slots.find? (·.playerId == id),
      slot.profileRef.playerGuid = hello.1

/-- A HELLO of a GUID that is not bound is given an id that no other GUID is bound to. -/
def JoinsUnclaimed (s : ServiceState F) (e : ServiceEvent F) : Prop :=
  ∀ hello ∈ helloEvent e, srFindPlayerId s.registry hello.1 = none →
    ∀ id ∈ candidateId s.session, Unclaimed s.registry hello.1 id

instance (s : ServiceState F) (e : ServiceEvent F) : Decidable (JoinsUnclaimed s e) :=
  have (hello : Text × UInt32) :
      Decidable (∀ id ∈ candidateId s.session, Unclaimed s.registry hello.1 id) :=
    Option.decidableForallMem _
  inferInstanceAs (Decidable (∀ hello ∈ helloEvent e, _ → ∀ id ∈ candidateId s.session, _))

theorem serviceStep_owned [LawfulWireFloat F] {s : ServiceState F} {e : ServiceEvent F}
    (aligned : Aligned s.roster) (owned : s.roster.Owned) (joins : JoinsUnclaimed s e) :
    (serviceStep s e).roster.Owned := by
  have step := serviceStep_roster aligned e
  generalize (serviceStep s e).roster = after at step
  cases step with
  | vacated ids => exact owned.vacate ids
  | seated asked sat =>
      refine owned.letIn aligned sat fun unbound => ?_
      obtain ⟨_, given, eq⟩ := Option.map_eq_some_iff.mp sat
      obtain ⟨rfl, rfl⟩ := Prod.mk.inj eq
      refine joins _ asked unbound _ ?_
      rw [Roster.seatFor, unbound] at given
      exact (candidateId_lowestFree s.session).trans given

omit [CFloat F] [WireFloat F] in
theorem Roster.Owned.guidsApart {s : ServiceState F} (owned : s.roster.Owned)
    (aligned : Aligned s.roster) : GuidsApart s.registry := by
  intro a memberA b memberB inUseA inUseB different same
  obtain ⟨_, k, seat, at_, seated⟩ := aligned.bound.seated a memberA inUseA
  exact different ((owned a memberA inUseA k seat at_ seated).symm.trans
    (owned b memberB inUseB k seat at_ (seated.trans same)))

omit [CFloat F] in
theorem Roster.Owned.returns {s : ServiceState F} (owned : s.roster.Owned)
    (e : ServiceEvent F) : ReturnsToOwnSlot s e := by
  intro hello _ id bound slot found
  obtain ⟨entry, held, rfl⟩ := Option.map_eq_some_iff.mp bound
  obtain ⟨inUse, guid⟩ := Slots.lookup_key held
  obtain ⟨k, at_⟩ := List.mem_iff_getElem?.mp (List.mem_of_find?_eq_some found)
  have named := List.find?_some found
  rw [beq_iff_eq] at named
  exact (owned entry (Slots.lookup_mem held) inUse k slot.seat (seats_get at_) named).trans guid

/-- When no stranger is let in on the id of a bound GUID, GUIDs and player ids stay one to one, and
every GUID that returns is given its own slot. -/
theorem run_guidsApart [LawfulWireFloat F] (sessionId : SessionId) (rules : UInt32)
    (tickRate : UInt16) (whitelist : List UInt32) (events : List (ServiceEvent F))
    (joins : Along serviceStep JoinsUnclaimed (freshService sessionId rules tickRate whitelist)
      events) :
    GuidsApart (run serviceStep (freshService sessionId rules tickRate whitelist) events).registry ∧
      Along serviceStep ReturnsToOwnSlot (freshService sessionId rules tickRate whitelist) events := by
  have initial : Aligned (freshService sessionId rules tickRate whitelist : ServiceState F).roster ∧
      (freshService sessionId rules tickRate whitelist : ServiceState F).roster.Owned :=
    ⟨freshService_aligned sessionId rules tickRate whitelist, nofun⟩
  have preserved : ∀ (s : ServiceState F) e, Aligned s.roster ∧ s.roster.Owned →
      JoinsUnclaimed s e → Aligned (serviceStep s e).roster ∧ (serviceStep s e).roster.Owned :=
    fun s e held joins => ⟨serviceStep_aligned held.1 e, serviceStep_owned held.1 held.2 joins⟩
  obtain ⟨aligned, owned⟩ := run_invariant preserved initial joins
  exact ⟨owned.guidsApart aligned,
    along_of_invariant preserved (fun _ e held _ => held.2.returns e) initial joins⟩

end Run

/-- Two players join, and one leaves and returns on another connection. -/
theorem run_guidsApart_two :
    let events := [helloFrom 100 [0x41], helloFrom 101 [0x42], disconnectFrom 100,
      helloFrom 102 [0x41]]
    GuidsApart (run serviceStep (freshService 1 15 20 []) events).registry ∧
      Along serviceStep ReturnsToOwnSlot (freshService 1 15 20 []) events :=
  run_guidsApart 1 15 20 [] _ (by decide +kernel)

/-- A stranger joins on the id of a player who left. Both GUIDs are bound to it then, and the player
who returns takes over the slot that is connected for the stranger. -/
theorem run_guidsApart_stranger :
    let events := [helloFrom 100 [0x41], disconnectFrom 100, helloFrom 101 [0x42]]
    let s := run serviceStep (freshService 1 15 20 [] : ServiceState Binary32) events
    ¬ GuidsApart s.registry ∧ srFindPlayerId s.registry [0x41] = some 1 ∧
      (s.session.players.slots.find? (·.playerId == 1)).map (·.seat) = some ⟨true, 1, 101, [0x42]⟩ ∧
      ((serviceStep s (helloFrom 102 [0x41])).session.players.slots.find? (·.playerId == 1)).map
        (·.seat) = some ⟨true, 1, 102, [0x41]⟩ := by
  decide +kernel

/-! ## Connections and players -/

/-- No two connected seats are on one connection. -/
def Roster.Apart (r : Roster) : Prop :=
  ∀ (j k : Nat) (a b : Seat), r.seats[j]? = some a → r.seats[k]? = some b →
    a.connected = true → b.connected = true → a.connectionId = b.connectionId → j = k

/-- Only player `id` is connected on this connection, if anyone is. -/
def SoleUser (seats : List Seat) (connectionId : UInt32) (id : PlayerId) : Prop :=
  ∀ seat ∈ seats, seat.connected = true → seat.connectionId = connectionId → seat.playerId = id

instance (seats : List Seat) (connectionId : UInt32) (id : PlayerId) :
    Decidable (SoleUser seats connectionId id) :=
  inferInstanceAs (Decidable (∀ seat ∈ seats, _ → _ → _))

theorem Roster.Apart.vacate {r : Roster} (apart : r.Apart) (ids : List PlayerId) :
    (r.vacate ids).Apart := by
  induction ids generalizing r with
  | nil => exact apart
  | cons id rest ih =>
      -- A seat that is connected now was connected and has not changed.
      have before : ∀ (k : Nat) (seat : Seat), (Service.vacate id r.seats)[k]? = some seat →
          seat.connected = true → r.seats[k]? = some seat := by
        intro k seat at_ connected
        rcases vacate_get id r.seats k with unchanged | ⟨old, _, after⟩
        · exact unchanged.symm.trans at_
        · obtain rfl := Option.some.inj (at_.symm.trans after)
          cases connected
      refine @ih { r with seats := Service.vacate id r.seats } ?_
      intro j k a b atJ atK connectedA connectedB same
      exact apart j k a b (before j a atJ connectedA) (before k b atK connectedB) connectedA
        connectedB same

theorem Roster.Apart.letIn {r after : Roster} (apart : r.Apart) (aligned : Aligned r)
    {playerGuid : Text} {connectionId : UInt32} {id : PlayerId}
    (sat : r.letIn playerGuid connectionId = some (id, after))
    (sole : SoleUser r.seats connectionId id) : after.Apart := by
  obtain ⟨_, given, eq⟩ := Option.map_eq_some_iff.mp sat
  obtain ⟨rfl, rfl⟩ := Prod.mk.inj eq
  rename_i id
  obtain ⟨low, high⟩ := aligned.seatFor given
  have inside : id.toNat - 1 < r.seats.length := by
    rw [aligned.size, maxPlayersPerSession]
    omega
  have here := sit_get inside connectionId playerGuid
  -- Whoever else is connected on this connection would be the player who sits down.
  have other : ∀ (k : Nat) (seat : Seat), id.toNat - 1 ≠ k →
      (sit id connectionId playerGuid r.seats)[k]? = some seat → seat.connected = true →
      seat.connectionId ≠ connectionId := by
    intro k seat index at_ connected same
    have before := (sit_get_ne index connectionId playerGuid).symm.trans at_
    have number := (aligned.placed.connected_index before connected).1
    rw [sole seat (List.mem_of_getElem? before) connected same] at number
    omega
  intro j k a b atJ atK connectedA connectedB same
  by_cases indexJ : id.toNat - 1 = j <;> by_cases indexK : id.toNat - 1 = k
  · exact indexJ.symm.trans indexK
  · obtain rfl := Option.some.inj (atJ.symm.trans (indexJ ▸ here))
    exact absurd same.symm (other k b indexK atK connectedB)
  · obtain rfl := Option.some.inj (atK.symm.trans (indexK ▸ here))
    exact absurd same (other j a indexJ atJ connectedA)
  · exact apart j k a b ((sit_get_ne indexJ connectionId playerGuid).symm.trans atJ)
      ((sit_get_ne indexK connectionId playerGuid).symm.trans atK) connectedA connectedB same

/-! ### Over a run -/

/-- No two connected slots have one connection id. -/
def ConnectionsApart (s : SessionState F) : Prop :=
  s.players.slots.Pairwise fun p q =>
    p.connected = true → q.connected = true → p.connectionId ≠ q.connectionId

instance (s : SessionState F) : Decidable (ConnectionsApart s) :=
  inferInstanceAs (Decidable (s.players.slots.Pairwise fun _ _ => _ → _ → _))

theorem Roster.Apart.connectionsApart {s : ServiceState F} (apart : s.roster.Apart) :
    ConnectionsApart s.session := by
  refine List.pairwise_iff_getElem.mpr fun j k insideJ insideK below connectedP connectedQ same => ?_
  have index := apart j k _ _ (seats_get (List.getElem?_eq_getElem insideJ))
    (seats_get (List.getElem?_eq_getElem insideK)) connectedP connectedQ same
  omega

theorem Roster.Apart.resolves {s : ServiceState F} (apart : s.roster.Apart)
    {p : PlayerRuntimeState F} (member : p ∈ s.session.players.slots)
    (connected : p.connected = true) :
    tlFindPlayerByConnection s.session p.connectionId = some p := by
  obtain ⟨q, found⟩ : ∃ q, tlFindPlayerByConnection s.session p.connectionId = some q := by
    rw [← Option.isSome_iff_exists, tlFindPlayerByConnection, List.find?_isSome]
    exact ⟨p, member, by simp [connected]⟩
  have test := List.find?_some found
  simp only [Bool.and_eq_true, beq_iff_eq] at test
  obtain ⟨j, atJ⟩ := List.mem_iff_getElem?.mp member
  obtain ⟨k, atK⟩ := List.mem_iff_getElem?.mp (List.mem_of_find?_eq_some found)
  obtain rfl := apart j k p.seat q.seat (seats_get atJ) (seats_get atK) connected test.1
    test.2.symm
  rw [found, ← atK, atJ]

section Run
variable [CFloat F] [WireFloat F]

/-- A HELLO that is let in comes over a connection that no other player is connected on. -/
def ArrivesAlone (s : ServiceState F) (e : ServiceEvent F) : Prop :=
  ∀ hello ∈ helloEvent e, ∀ id ∈ s.seatFor hello.1, SoleUser s.session.seats hello.2 id

instance (s : ServiceState F) (e : ServiceEvent F) : Decidable (ArrivesAlone s e) :=
  have (hello : Text × UInt32) :
      Decidable (∀ id ∈ s.seatFor hello.1, SoleUser s.session.seats hello.2 id) :=
    Option.decidableForallMem _
  inferInstanceAs (Decidable (∀ hello ∈ helloEvent e, ∀ id ∈ s.seatFor hello.1, _))

theorem serviceStep_apart [LawfulWireFloat F] {s : ServiceState F} {e : ServiceEvent F}
    (aligned : Aligned s.roster) (apart : s.roster.Apart) (arrives : ArrivesAlone s e) :
    (serviceStep s e).roster.Apart := by
  have step := serviceStep_roster aligned e
  generalize (serviceStep s e).roster = after at step
  cases step with
  | vacated ids => exact apart.vacate ids
  | seated asked sat =>
      refine apart.letIn aligned sat (arrives _ asked _ ?_)
      obtain ⟨_, given, eq⟩ := Option.map_eq_some_iff.mp sat
      obtain ⟨rfl, rfl⟩ := Prod.mk.inj eq
      rwa [seatFor_roster]

/-- When every player arrives alone on its connection, connections stay apart and each of them is
resolved to its player. -/
theorem run_connectionsApart [LawfulWireFloat F] (sessionId : SessionId) (rules : UInt32)
    (tickRate : UInt16) (whitelist : List UInt32) (events : List (ServiceEvent F))
    (arrive : Along serviceStep ArrivesAlone (freshService sessionId rules tickRate whitelist)
      events) :
    let s := run serviceStep (freshService sessionId rules tickRate whitelist) events
    ConnectionsApart s.session ∧ ∀ p ∈ s.session.players.slots, p.connected = true →
      tlFindPlayerByConnection s.session p.connectionId = some p := by
  intro s
  have empty : (freshService sessionId rules tickRate whitelist : ServiceState F).roster.Apart := by
    intro j _ a _ atJ _ connected
    have unused : a ∈ List.replicate maxPlayersPerSession ⟨false, 0, 0, []⟩ :=
      List.mem_of_getElem? atJ
    obtain rfl := List.eq_of_mem_replicate unused
    cases connected
  have preserved : ∀ (s : ServiceState F) e, Aligned s.roster ∧ s.roster.Apart →
      ArrivesAlone s e → Aligned (serviceStep s e).roster ∧ (serviceStep s e).roster.Apart :=
    fun s e held arrives => ⟨serviceStep_aligned held.1 e, serviceStep_apart held.1 held.2 arrives⟩
  have held := run_invariant preserved
    ⟨freshService_aligned sessionId rules tickRate whitelist, empty⟩ arrive
  exact ⟨held.2.connectionsApart, fun p => held.2.resolves⟩

end Run

/-- Two players, of whom one changes its connection. -/
theorem run_connectionsApart_two :
    let events := [helloFrom 100 [0x41], helloFrom 101 [0x42], helloFrom 102 [0x41]]
    let s := run serviceStep (freshService 1 15 20 []) events
    ConnectionsApart s.session ∧ ∀ p ∈ s.session.players.slots, p.connected = true →
      tlFindPlayerByConnection s.session p.connectionId = some p :=
  run_connectionsApart 1 15 20 [] _ (by decide +kernel)

/-- A connection that says HELLO under a second GUID holds two seats, and is resolved to the first. -/
theorem run_connectionsApart_twice :
    let events := [helloFrom 100 [0x41], helloFrom 100 [0x42]]
    let s := run serviceStep (freshService 1 15 20 [] : ServiceState Binary32) events
    ¬ ConnectionsApart s.session ∧
      (tlFindPlayerByConnection s.session 100).map (·.playerId) = some 1 := by
  decide +kernel

end F4MP.Service
