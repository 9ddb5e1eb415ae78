import F4MP.Service.Network
import F4MP.Client.Apply

/-!
# A service and one of its clients

After every step of the service the packets queued for one connection are applied by the client
behind it, in order, and the queue is cleared.
-/

namespace F4MP.System
open SoftFloat Protocol Service Client

variable {F U : Type} [CFloat F] [WireFloat F]

/-! ## Delivery -/

/-- The packets for one connection are applied in order. -/
def deliver (backend : RemoteProxyBackend F U) (connectionId : UInt32)
    (outputs : List TransportOutput) (c : ClientState F U) : ClientState F U :=
  outputs.foldl (fun c output =>
    if output.connectionId = connectionId then (pluginApplyPacket backend output.bytes c).2
    else c) c

/-- What the client does with a post, if it is its own. -/
def applyPost (backend : RemoteProxyBackend F U) (connectionId : UInt32) (c : ClientState F U)
    (p : Post F) : ClientState F U :=
  if p.connectionId = connectionId then (applyMessage backend p.type p.body c).2 else c

theorem deliver_stamp [LawfulWireFloat F] (backend : RemoteProxyBackend F U)
    (connectionId : UInt32) (sessionId : SessionId) (sequence : UInt32) {posts : List (Post F)}
    (sendable : ∀ p ∈ posts, Sendable p.type p.body) (c : ClientState F U) :
    deliver backend connectionId (stamp sessionId sequence posts) c =
      posts.foldl (applyPost backend connectionId) c := by
  induction posts generalizing sequence c with
  | nil => rfl
  | cons p posts ih =>
      have carries := packetBytes_carries (sendable p List.mem_cons_self) sessionId (sequence + 1)
        p.flags
      have first : (if p.connectionId = connectionId then
          (pluginApplyPacket backend (p.output sessionId (sequence + 1)).bytes c).2 else c) =
          applyPost backend connectionId c p := by
        rw [Post.output, pluginApplyPacket_carries carries, applyPost]
      rw [List.foldl_cons, ← first, ← ih (sequence + 1) fun q later =>
        sendable q (List.mem_cons_of_mem p later)]
      rfl

/-! ## Steps -/

structure Mirror (F U : Type) where
  service : ServiceState F
  client : ClientState F U

def mirrorStep (backend : RemoteProxyBackend F U) (connectionId : UInt32) (m : Mirror F U)
    (e : NetworkEvent) : Mirror F U :=
  let s := networkStep m.service e
  ⟨tlClearOutputs s, deliver backend connectionId s.ctx.outputs m.client⟩

/-- The client's connection belongs to a connected player. -/
def Connected (connectionId : UInt32) (s : SessionState F) : Prop := connectionId ∈ connections s

instance (connectionId : UInt32) (s : SessionState F) : Decidable (Connected connectionId s) :=
  inferInstanceAs (Decidable (_ ∈ _))

theorem mirrorStep_queued [LawfulWireFloat F] (backend : RemoteProxyBackend F U)
    (connectionId : UInt32) {m : Mirror F U} (cleared : m.service.ctx.outputs = [])
    {e : NetworkEvent} {posts : List (Post F)} (sendable : ∀ p ∈ posts, Sendable p.type p.body)
    (queue : (networkStep m.service e).ctx.outputs =
      m.service.ctx.outputs ++ queuedPosts m.service posts) :
    mirrorStep backend connectionId m e = ⟨tlClearOutputs (networkStep m.service e),
      (posts.take maxOutputs).foldl (applyPost backend connectionId) m.client⟩ := by
  have fits : ∀ p ∈ posts.take maxOutputs, Sendable p.type p.body :=
    fun p member => sendable p (List.mem_of_mem_take member)
  rw [mirrorStep, queue, cleared, queuedPosts, cleared, List.nil_append, List.length_nil,
    Nat.sub_zero, stamp_take, deliver_stamp backend connectionId _ _ fits]

/-- A step as the posts whose messages reach the client. -/
theorem mirrorStep_posts [LawfulWireFloat F] (backend : RemoteProxyBackend F U)
    (connectionId : UInt32) {m : Mirror F U} (cleared : m.service.ctx.outputs = [])
    (e : NetworkEvent) :
    ∃ posts after, NetworkPosts m.service e posts after ∧
      mirrorStep backend connectionId m e = ⟨tlClearOutputs after,
        (posts.take maxOutputs).foldl (applyPost backend connectionId) m.client⟩ := by
  obtain ⟨posts, taken, sendable, queue⟩ := networkStep_posts m.service e
  exact ⟨posts, _, taken, mirrorStep_queued backend connectionId cleared sendable queue⟩

/-! ## Invariants of the client -/

section Invariants
variable {backend : RemoteProxyBackend F U} {connectionId : UInt32} {P Q : ClientState F U → Prop}
  {c : ClientState F U}

omit [WireFloat F] in
/-- Messages that keep an invariant one by one keep it in a row. -/
theorem applyPosts_keep {posts : List (Post F)}
    (keeps : ∀ p ∈ posts, ∀ c, Q c → Q (applyMessage backend p.type p.body c).2) (start : Q c) :
    Q (posts.foldl (applyPost backend connectionId) c) := by
  induction posts generalizing c with
  | nil => exact start
  | cons p posts ih =>
      refine ih (fun q later => keeps q (List.mem_cons_of_mem p later)) ?_
      rw [applyPost]
      split
      · exact keeps p List.mem_cons_self c start
      · exact start

omit [WireFloat F] in
theorem applyPosts_toConnected {s : SessionState F} {type : MessageType} (flags : UInt16)
    {body : Body F type} (connected : Connected connectionId s)
    (first : ∀ c, P c → Q (applyMessage backend type body c).2)
    (again : ∀ c, Q c → Q (applyMessage backend type body c).2) (start : P c) :
    Q ((toConnected s type flags body).foldl (applyPost backend connectionId) c) := by
  rw [toConnected_connections]
  rw [Connected] at connected
  generalize connections s = ids at connected
  induction ids with
  | nil => cases connected
  | cons id ids ih =>
      rw [List.map_cons, List.foldl_cons, applyPost]
      split
      · refine applyPosts_keep (fun p member => ?_) (first c start)
        obtain ⟨other, _, rfl⟩ := List.mem_map.mp member
        exact again
      · rename_i other
        exact ih ((List.mem_cons.mp connected).resolve_left fun same => other same.symm)

end Invariants

end F4MP.System
