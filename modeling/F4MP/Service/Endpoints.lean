import F4MP.Service.MainLoop
import F4MP.Service.Retransmission

/-!
# Admission

`service_main.c` with its sockets: a datagram gets the connection id of its endpoint. The bindings are
made for whatever arrives, and none is ever given up.
-/

namespace F4MP.Service
open SoftFloat Protocol Transition

variable {F : Type}

/-! ## Endpoint bindings -/

/-- An address of `AF_INET`, as `st_endpoint_equal` compares it. -/
structure SocketEndpoint where
  addr : UInt32
  port : UInt16
  deriving DecidableEq

structure EndpointBinding where
  connectionId : UInt32
  endpoint : SocketEndpoint
  deriving DecidableEq

instance : Slots.Slot EndpointBinding SocketEndpoint := ⟨(·.connectionId != 0), (·.endpoint)⟩

/-- `g_bindings` and `g_next_connection_id` -/
structure EndpointBindings where
  bindings : Slots.Table 16 EndpointBinding := .empty
  nextConnectionId : UInt32 := 100

/-- `get_connection_id_for_endpoint`: 0 when the table is full. -/
def getConnectionIdForEndpoint (b : EndpointBindings) (ep : SocketEndpoint) :
    UInt32 × EndpointBindings :=
  match Slots.lookup ep b.bindings.slots with
  | some binding => (binding.connectionId, b)
  | none =>
      match b.bindings.claim Slots.free ⟨b.nextConnectionId, ep⟩ with
      | some bindings => (b.nextConnectionId, ⟨bindings, b.nextConnectionId + 1⟩)
      | none => (0, b)

/-- What `st_recv` returns, with the profile files of that moment. -/
structure Datagram where
  store : ProfileStore
  endpoint : SocketEndpoint
  bytes : List UInt8

structure ServiceMain (F : Type) where
  service : ServiceState F
  endpoints : EndpointBindings

/-- How many endpoints the datagrams came from. -/
def endpointCount (received : List Datagram) : Nat := (received.map (·.endpoint)).dedup.length

/-- The bindings after these datagrams: of the endpoints seen, and of all of them while one is free. -/
structure Bookkept (received : List Datagram) (b : EndpointBindings) : Prop where
  distinct : Slots.Distinct b.bindings.slots
  numbered : b.nextConnectionId.toNat = 100 + b.bindings.slots.countP Slots.Slot.live
  earlier : ∀ binding ∈ b.bindings.slots, binding.connectionId < b.nextConnectionId
  seen : ∀ ep, (Slots.lookup ep b.bindings.slots).isSome → ep ∈ received.map (·.endpoint)
  bound : b.bindings.slots.countP Slots.Slot.live < 16 →
    ∀ ep ∈ received.map (·.endpoint), (Slots.lookup ep b.bindings.slots).isSome

section Bindings
variable {b : EndpointBindings} {ep : SocketEndpoint} {received : List Datagram} {d : Datagram}

theorem Bookkept.start : Bookkept [] {} where
  distinct := .nil
  numbered := rfl
  earlier := fun _ listed => absurd listed List.not_mem_nil
  seen := fun _ found => absurd found Bool.false_ne_true
  bound := fun _ _ listed => absurd listed List.not_mem_nil

theorem keys_length (slots : List EndpointBinding) :
    (Slots.keys slots).length = slots.countP Slots.Slot.live := by
  rw [Slots.keys, List.length_map, List.countP_eq_length_filter]

theorem Bookkept.free_iff (kept : Bookkept received b) :
    b.bindings.slots.countP Slots.Slot.live < 16 ↔ endpointCount received < 16 := by
  have keysSeen : Slots.keys b.bindings.slots ⊆ (received.map (·.endpoint)).dedup := fun ep listed =>
    List.mem_dedup.mpr (kept.seen ep (Slots.mem_keys_iff.mp listed))
  have fewer := (List.subperm_of_subset kept.distinct.nodup_keys keysSeen).length_le
  rw [keys_length] at fewer
  constructor
  · intro room
    have seenKept : (received.map (·.endpoint)).dedup ⊆ Slots.keys b.bindings.slots :=
      fun ep listed => Slots.mem_keys_iff.mpr (kept.bound room ep (List.mem_dedup.mp listed))
    have more := (List.subperm_of_subset (List.nodup_dedup _) seenKept).length_le
    rw [keys_length] at more
    exact more.trans_lt room
  · exact fewer.trans_lt

theorem getConnectionIdForEndpoint_bound {binding : EndpointBinding}
    (found : Slots.lookup ep b.bindings.slots = some binding) :
    getConnectionIdForEndpoint b ep = (binding.connectionId, b) := by
  rw [getConnectionIdForEndpoint, found]

theorem getConnectionIdForEndpoint_new (unbound : Slots.lookup ep b.bindings.slots = none) :
    if b.bindings.slots.countP Slots.Slot.live < 16 then
      ∃ bindings, b.bindings.claim Slots.free ⟨b.nextConnectionId, ep⟩ = some bindings ∧
        getConnectionIdForEndpoint b ep =
          (b.nextConnectionId, ⟨bindings, b.nextConnectionId + 1⟩)
    else getConnectionIdForEndpoint b ep = (0, b) := by
  have room := Slots.Table.claim_isSome_iff (⟨b.nextConnectionId, ep⟩ : EndpointBinding) b.bindings
  split
  · rename_i free
    obtain ⟨bindings, claimed⟩ := Option.isSome_iff_exists.mp (room.mpr free)
    exact ⟨bindings, claimed, by simp only [getConnectionIdForEndpoint, unbound, claimed]⟩
  · rename_i full
    have claimed : b.bindings.claim Slots.free ⟨b.nextConnectionId, ep⟩ = none := by
      rw [← Option.not_isSome_iff_eq_none, room]
      exact full
    simp only [getConnectionIdForEndpoint, unbound, claimed]

theorem Bookkept.next_ne_zero (kept : Bookkept received b) : b.nextConnectionId ≠ 0 := by
  intro zero
  have numbered := kept.numbered
  rw [zero] at numbered
  exact absurd numbered (by rw [UInt32.toNat_zero]; omega)

theorem Bookkept.next (kept : Bookkept received b) (d : Datagram) :
    Bookkept (received ++ [d]) (getConnectionIdForEndpoint b d.endpoint).2 := by
  have listed : ∀ ep, ep ∈ (received ++ [d]).map (·.endpoint) ↔
      ep ∈ received.map (·.endpoint) ∨ ep = d.endpoint := by
    intro ep
    rw [List.map_append, List.mem_append, List.map_singleton, List.mem_singleton]
  cases found : Slots.lookup d.endpoint b.bindings.slots with
  | some binding =>
      rw [getConnectionIdForEndpoint_bound found]
      refine { kept with seen := fun ep bound => ?_, bound := fun room ep member => ?_ }
      · exact (listed ep).mpr (.inl (kept.seen ep bound))
      · rcases (listed ep).mp member with old | rfl
        · exact kept.bound room ep old
        · rw [found]
          rfl
  | none =>
      have assigned := getConnectionIdForEndpoint_new found
      split at assigned
      · rename_i room
        obtain ⟨bindings, claimed, after⟩ := assigned
        have slots := Slots.Table.claim_slots claimed
        have live : Slots.Slot.live (⟨b.nextConnectionId, d.endpoint⟩ : EndpointBinding) = true :=
          bne_iff_ne.mpr kept.next_ne_zero
        have fits := b.bindings.slots.countP_le_length (p := Slots.Slot.live)
        have small := b.bindings.fits
        have numbered := kept.numbered
        have one : (1 : UInt32).toNat = 1 := rfl
        have later : (b.nextConnectionId + 1).toNat = b.nextConnectionId.toNat + 1 := by
          rw [UInt32.toNat_add, one]
          omega
        rw [after]
        refine ⟨kept.distinct.claim slots found, ?_, fun binding member => ?_, fun ep bound => ?_,
          fun _ ep member => ?_⟩
        · have counted := Slots.countP_claim (p := Slots.Slot.live)
            (fun a unused => by simpa [Slots.free] using unused) slots
          rw [live, if_pos rfl] at counted
          rw [later, numbered, counted, Nat.add_assoc]
        · rw [UInt32.lt_iff_toNat_lt, later]
          rcases Slots.mem_claim slots member with old | rfl
          · have below := UInt32.lt_iff_toNat_lt.mp (kept.earlier binding old)
            omega
          · exact Nat.lt_succ_self _
        · rw [Slots.lookup_claim slots live found] at bound
          split at bound
          · rename_i same
            exact (listed ep).mpr (.inr same)
          · exact (listed ep).mpr (.inl (kept.seen ep bound))
        · rw [Slots.lookup_claim slots live found]
          split
          · rfl
          · rename_i other
            exact kept.bound room ep (((listed ep).mp member).resolve_right other)
      · rename_i full
        rw [assigned]
        refine { kept with seen := fun ep bound => ?_, bound := fun room => absurd room full }
        exact (listed ep).mpr (.inl (kept.seen ep bound))

end Bindings

/-! ## The lowest free seat -/

theorem Placed.lowestFree_isSome {seats : List Seat} (placed : Placed seats)
    (few : seats.countP (·.connected) < 7) : (lowestFree seats).isSome := by
  by_contra none
  rw [Option.not_isSome_iff_eq_none, lowestFree, List.find?_eq_none] at none
  have seated : ∀ k : Nat, k < 7 → ∃ seat, seats[k]? = some seat ∧ seat.connected = true := by
    intro k below
    have listed : UInt16.ofNat (k + 1) ∈ ([1, 2, 3, 4, 5, 6, 7] : List PlayerId) := by
      interval_cases k <;> decide
    have taken := none _ listed
    simp only [Bool.not_eq_true', Bool.not_eq_false, List.any_eq_true, Bool.and_eq_true,
      beq_iff_eq] at taken
    obtain ⟨seat, member, connected, named⟩ := taken
    obtain ⟨j, at_⟩ := List.mem_iff_getElem?.mp member
    have index := (placed.connected_index at_ connected).1
    rw [named, UInt16.toNat_ofNat'] at index
    obtain rfl : j = k := by omega
    exact ⟨seat, at_, connected⟩
  have size : 7 ≤ seats.length := by
    obtain ⟨_, at_, _⟩ := seated 6 (by decide)
    exact (List.getElem?_eq_some_iff.mp at_).1
  have front : (seats.take 7).countP (·.connected) = (seats.take 7).length := by
    refine List.countP_eq_length.mpr fun seat member => ?_
    obtain ⟨k, below, rfl⟩ := List.mem_take_iff_getElem.mp member
    obtain ⟨seat, at_, connected⟩ := seated k (by omega)
    rw [List.getElem?_eq_getElem (by omega)] at at_
    rw [Option.some.inj at_]
    exact connected
  have bound := (List.take_sublist 7 seats).countP_le (p := (·.connected))
  rw [front, List.length_take] at bound
  omega

/-! ## The loop with its endpoints -/

section Loop
variable [CFloat F] [WireFloat F]

/-- What `main` has set up when the loop starts. -/
def serviceMain (timeoutTicks : UInt32) (whitelist : List UInt32) : ServiceMain F :=
  ⟨serviceMainStart timeoutTicks whitelist, {}⟩

/-- One iteration of the loop. -/
def receiveDatagram (m : ServiceMain F) (d : Datagram) : ServiceMain F :=
  let assigned := getConnectionIdForEndpoint m.endpoints d.endpoint
  if assigned.1 = 0 then { m with endpoints := assigned.2 }
  else ⟨serviceMainStep m.service (d.store, ⟨assigned.1, d.bytes⟩), assigned.2⟩

/-- The datagram is handed over with a connection id that no endpoint has had, and handled. -/
def Admitted (m : ServiceMain F) (d : Datagram) : Prop :=
  let connectionId := (getConnectionIdForEndpoint m.endpoints d.endpoint).1
  connectionId ≠ 0 ∧ (∀ binding ∈ m.endpoints.bindings.slots, binding.connectionId ≠ connectionId) ∧
    (tlHandleEnvelope d.store ⟨connectionId, d.bytes⟩ (tlClearOutputs m.service)).1 = true

omit [CFloat F] [WireFloat F] in
theorem Aligned.seatFor_isSome {s : ServiceState F} (aligned : Aligned s.roster)
    (few : connectedSlots s < 7) (playerGuid : Text) :
    (s.roster.seatFor playerGuid).isSome := by
  rw [connectedSlots_seats] at few
  have free := aligned.placed.lowestFree_isSome few
  rw [Roster.seatFor]
  cases srFindPlayerId s.roster.registry playerGuid with
  | none => exact free
  | some id => rfl

variable [LawfulWireFloat F]

/-- With a free seat every HELLO to an empty queue is accepted. -/
theorem tlHandleEnvelope_hello_handled {s : ServiceState F} (aligned : Aligned s.roster)
    (few : connectedSlots s < 7) (store : ProfileStore) {env : TransportEnvelope}
    {names : Text × Text} (hello : helloOf? env.bytes = some names) :
    (tlHandleEnvelope store env (tlClearOutputs s)).1 = true := by
  obtain ⟨id, given⟩ := Option.isSome_iff_exists.mp (aligned.seatFor_isSome few names.1)
  have answered := tlHandleEnvelope_letIn (s := tlClearOutputs s) store hello aligned rfl
  have sat : ∃ after, (tlClearOutputs s).roster.letIn names.1 env.connectionId = some (id, after) := by
    rw [show (tlClearOutputs s).roster = s.roster from rfl, Roster.letIn, given]
    exact ⟨_, rfl⟩
  obtain ⟨after, sat⟩ := sat
  rw [sat] at answered
  exact answered.1

structure MainKept (received : List Datagram) (m : ServiceMain F) : Prop where
  service : MainInvariant m.service
  endpoints : Bookkept received m.endpoints

theorem MainKept.next {received : List Datagram} {m : ServiceMain F} (kept : MainKept received m)
    (d : Datagram) : MainKept (received ++ [d]) (receiveDatagram m d) := by
  have endpoints := kept.endpoints.next d
  by_cases full : (getConnectionIdForEndpoint m.endpoints d.endpoint).1 = 0
  · rw [receiveDatagram, if_pos full]
    exact ⟨kept.service, endpoints⟩
  · rw [receiveDatagram, if_neg full]
    exact ⟨serviceMainStep_invariant kept.service _, endpoints⟩

theorem run_mainKept (timeoutTicks : UInt32) (whitelist : List UInt32) (received : List Datagram) :
    MainKept received (run receiveDatagram (serviceMain timeoutTicks whitelist : ServiceMain F)
      received) := by
  induction received using List.reverseRecOn with
  | nil => exact ⟨serviceMainStart_invariant timeoutTicks whitelist, .start⟩
  | append_singleton before d ih =>
      rw [run_snoc]
      exact ih.next d

/-- While fewer than seven slots are connected, a HELLO from an endpoint that has not been heard of is
admitted exactly if fewer than 16 endpoints have. -/
theorem run_admitted_iff (timeoutTicks : UInt32) (whitelist : List UInt32)
    (received : List Datagram) (d : Datagram) {names : Text × Text}
    (hello : helloOf? d.bytes = some names)
    (unseen : ∀ earlier ∈ received, earlier.endpoint ≠ d.endpoint)
    (few : connectedSlots (run receiveDatagram
      (serviceMain timeoutTicks whitelist : ServiceMain F) received).service < 7) :
    Admitted (run receiveDatagram (serviceMain timeoutTicks whitelist : ServiceMain F) received) d ↔
      endpointCount received < 16 := by
  obtain ⟨service, endpoints⟩ := run_mainKept (F := F) timeoutTicks whitelist received
  have unbound := Option.not_isSome_iff_eq_none.mp fun bound => by
    obtain ⟨earlier, listed, same⟩ := List.mem_map.mp (endpoints.seen d.endpoint bound)
    exact unseen earlier listed same
  have assigned := getConnectionIdForEndpoint_new unbound
  rw [← endpoints.free_iff]
  split at assigned
  · rename_i room
    obtain ⟨bindings, _, after⟩ := assigned
    rw [Admitted, after]
    refine iff_of_true ⟨endpoints.next_ne_zero, fun binding listed same => ?_, ?_⟩ room
    · have below := endpoints.earlier binding listed
      rw [same] at below
      exact UInt32.lt_irrefl _ below
    · exact tlHandleEnvelope_hello_handled service.aligned few d.store hello
  · rename_i full
    rw [Admitted, assigned]
    exact iff_of_false (fun admitted => admitted.1 rfl) full

end Loop

/-! ## Clients that have left -/

def helloDatagram (port : UInt16) (playerGuid : Text) : Datagram :=
  ⟨⟨fun _ => none⟩, ⟨0x7f000001, port⟩, packetBytes (F := Binary32) 1 1 .hello 0 (⟨0, 0⟩, playerGuid, [])⟩

def disconnectDatagram (port : UInt16) : Datagram :=
  ⟨⟨fun _ => none⟩, ⟨0x7f000001, port⟩, packetBytes (F := Binary32) 1 2 .disconnect 0 ⟨0⟩⟩

/-- A client joins from its port and leaves again. -/
def visit (port : UInt16) : List Datagram :=
  [helloDatagram port [port.toUInt8], disconnectDatagram port]

theorem run_admitted_iff_second :
    let d := helloDatagram 2 [2]
    Admitted (run receiveDatagram (serviceMain 0 [] : ServiceMain Binary32) (visit 1)) d ↔
      endpointCount (visit 1) < 16 := by
  intro d
  have hello : helloOf? d.bytes = some ([2], []) := by decide +kernel
  refine run_admitted_iff 0 [] (visit 1) d hello ?_ (by decide +kernel)
  simp [visit, helloDatagram, disconnectDatagram, d]

/-- Nobody is connected after 16 visits, and nobody is admitted any more. -/
theorem run_admitted_iff_departed :
    let received := ([1, 2, 3, 4, 5, 6, 7, 8, 9, 10, 11, 12, 13, 14, 15, 16] : List UInt16).flatMap visit
    let m := run receiveDatagram (serviceMain 0 [] : ServiceMain Binary32) received
    let d := helloDatagram 17 [17]
    connectedSlots m.service = 0 ∧ helloOf? d.bytes = some ([17], []) ∧
      (∀ earlier ∈ received, earlier.endpoint ≠ d.endpoint) ∧
      (getConnectionIdForEndpoint m.endpoints d.endpoint).1 = 0 ∧ ¬ Admitted m d := by
  intro received m d
  have full : (getConnectionIdForEndpoint m.endpoints d.endpoint).1 = 0 := by decide +kernel
  exact ⟨by decide +kernel, by decide +kernel, by decide +kernel, full, fun admitted => admitted.1 full⟩

end F4MP.Service
