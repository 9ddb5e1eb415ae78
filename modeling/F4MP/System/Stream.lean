import F4MP.Library.Delivery
import F4MP.Service.Discipline
import F4MP.Client.ActorProxy
import F4MP.System.Mirror

/-!
# What a connection is sent

The packets that the network queues for one connection, step by step, and their flags.
-/

namespace F4MP.System
open SoftFloat CFloat Protocol Service Client MessageFlags

variable {F U : Type} [CFloat F] [WireFloat F]

/-! ## Flags -/

/-- A packet whose message is flagged `MSGF_RELIABLE | MSGF_ORDERED`. -/
def flaggedReliable (bytes : List UInt8) : Bool :=
  match openPacket bytes with
  | none => false
  | some (_, mh, _) => mh.flags &&& (reliable ||| ordered) == reliable ||| ordered

omit [CFloat F] in
theorem flaggedReliable_packetBytes [LawfulWireFloat F] {type : MessageType} {body : Body F type}
    (sendable : Sendable type body) (sessionId : SessionId) (sequence : UInt32) (flags : UInt16) :
    flaggedReliable (packetBytes sessionId sequence type flags body) =
      (flags &&& (reliable ||| ordered) == reliable ||| ordered) := by
  rw [flaggedReliable, openPacket_packetBytes sendable sessionId sequence flags]
  rfl

/-! ## Packets about an actor -/

/-- The packet carries a message of this type about the actor. -/
def Tells (F : Type) [CFloat F] [WireFloat F] (type : MessageType) (v : ActorNetId)
    (bytes : List UInt8) : Prop :=
  ∃ body : Body F type, Carries bytes type body ∧ aboutActor type body = some v

/-! ## Streams -/

/-- The packets that the network queues for a connection. -/
def sentTo (connectionId : UInt32) : ServiceState F → List NetworkEvent → List (List UInt8)
  | _, [] => []
  | s, e :: rest =>
      ((networkStep s e).ctx.outputs.filter (·.connectionId = connectionId)).map (·.bytes) ++
        sentTo connectionId (clearedStep s e) rest

theorem mem_sentTo_step [LawfulWireFloat F] {s : ServiceState F} {e : NetworkEvent}
    (cleared : s.ctx.outputs = []) :
    ∃ posts, NetworkPosts s e posts (networkStep s e) ∧ ∀ connectionId, ∀ bytes ∈
      ((networkStep s e).ctx.outputs.filter (·.connectionId = connectionId)).map (·.bytes),
      ∃ p ∈ posts, Carries bytes p.type p.body ∧
        flaggedReliable bytes = (p.flags &&& (reliable ||| ordered) == reliable ||| ordered) := by
  obtain ⟨posts, taken, sendable, queue⟩ := networkStep_posts s e
  refine ⟨posts, taken, fun connectionId bytes member => ?_⟩
  obtain ⟨output, listed, rfl⟩ := List.mem_map.mp member
  have queued := (List.mem_filter.mp listed).1
  rw [queue, cleared, List.nil_append] at queued
  obtain ⟨p, posted, number, rfl⟩ := mem_stamp (List.mem_of_mem_take queued)
  exact ⟨p, posted, packetBytes_carries (sendable p posted) s.session.sessionId number p.flags,
    flaggedReliable_packetBytes (sendable p posted) s.session.sessionId number p.flags⟩

end F4MP.System
