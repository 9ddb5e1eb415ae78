import F4MP.Service.Tick

/-!
# Steps of the network

An envelope arrives, or a tick passes. Either way what reaches the output queue is a list of
messages that fit their packets, numbered on and cut off where the queue is full.
-/

namespace F4MP.Service
open SoftFloat Protocol MessageFlags

variable {F : Type}

/-! ## Messages that fit -/

theorem toConnected_sendable (s : SessionState F) {type : MessageType}
    (plain : plainMessage type = true) (flags : UInt16) (body : Body F type) :
    ∀ p ∈ toConnected s type flags body, Sendable p.type p.body := by
  intro p member
  obtain ⟨_, _, _, rfl⟩ := mem_toConnected member
  exact sendable_of_plainMessage plain body

section Numbers
variable [CFloat F]

theorem hitPosts_sendable (s : SessionState F) (attacker : PlayerId)
    (target : ActorRuntimeState F) : ∀ p ∈ hitPosts s attacker target, Sendable p.type p.body := by
  intro p member
  obtain ⟨_, _, _, rfl | ⟨_, _, rfl⟩ | ⟨_, rfl⟩⟩ := mem_hitPosts member <;>
    exact sendable_of_plainMessage rfl _

theorem tickPosts_sendable (s : ServiceState F) : ∀ p ∈ tickPosts s, Sendable p.type p.body := by
  intro p member
  rcases List.mem_append.mp member with left | despawned
  · obtain ⟨_, _, _, rfl⟩ := mem_leavePosts left
    exact sendable_of_plainMessage rfl _
  · obtain ⟨_, _, _, _, _, rfl⟩ := mem_despawnPosts despawned
    exact sendable_of_plainMessage rfl _

variable [WireFloat F]

theorem Outcome.sendable {store : ProfileStore} {env : TransportEnvelope} {s : ServiceState F}
    {posts : List (Post F)} {result : Bool × ServiceState F}
    (outcome : Outcome store env s posts result) : ∀ p ∈ posts, Sendable p.type p.body := by
  cases outcome with
  | ignored => exact nofun
  | seated _ _ _ isPrefix =>
      exact fun p member => helloPosts_sendable _ _ _ _ _ _ _ p (isPrefix.subset member)
  | kept _ _ personal =>
      intro p member
      obtain ⟨_, type, _, body⟩ := p
      rcases personal _ member with rfl | rfl <;> exact sendable_of_plainMessage rfl body
  | left _ posted => exact posted ▸ toConnected_sendable _ rfl _ _
  | hit _ _ _ _ _ _ posted => exact posted ▸ hitPosts_sendable _ _ _
  | refused _ denied _ posted =>
      rw [posted, List.forall_mem_singleton]
      exact ⟨.inl denied, trivial, by simp only [buildResultPost, bodySize]; decide⟩
  | built _ _ _ _ posted =>
      rw [posted, List.forall_mem_cons]
      refine ⟨⟨.inr rfl, trivial, by simp only [buildResultPost, bodySize]; decide⟩, ?_⟩
      intro p member
      obtain ⟨obj, _, listed⟩ := List.mem_flatMap.mp member
      exact toConnected_sendable _ rfl _ _ p listed
  | moved _ _ posted => exact posted ▸ toConnected_sendable _ rfl _ _
  | scrapped _ _ posted => exact posted ▸ toConnected_sendable _ rfl _ _
  | selected => exact nofun

/-! ## The queue behind a step -/

/-- The part of some posts that a queue has room for. -/
def queuedPosts (s : ServiceState F) (posts : List (Post F)) : List TransportOutput :=
  (stamp s.session.sessionId s.ctx.transport.lastTxSequence posts).take
    (maxOutputs - s.ctx.outputs.length)

variable [LawfulWireFloat F]

omit [CFloat F] in
/-- What a queued packet carries was posted. -/
theorem queuedPosts_carries {s : ServiceState F} {posts : List (Post F)}
    (sendable : ∀ p ∈ posts, Sendable p.type p.body) {output : TransportOutput}
    (queued : output ∈ queuedPosts s posts) {type : MessageType} {body : Body F type}
    (carries : Carries output.bytes type body) :
    ∃ flags, ⟨output.connectionId, type, flags, body⟩ ∈ posts := by
  obtain ⟨⟨connectionId, _, flags, _⟩, listed, number, rfl⟩ :=
    mem_stamp (List.mem_of_mem_take queued)
  have own := packetBytes_carries (sendable _ listed) s.session.sessionId number flags
  obtain rfl := own.type_unique carries
  obtain rfl := own.unique carries
  exact ⟨flags, listed⟩

omit [CFloat F] in
theorem post_outputs {s : ServiceState F} {posts : List (Post F)}
    (sendable : ∀ p ∈ posts, Sendable p.type p.body) :
    (s.post posts).ctx.outputs = s.ctx.outputs ++ queuedPosts s posts :=
  congrArg TransportLoopContext.outputs (sendAll_sendable s.session.sessionId sendable s.ctx)

omit [CFloat F] in
theorem queuedPosts_of_take {s : ServiceState F} {posts : List (Post F)}
    (sendable : ∀ p ∈ posts, Sendable p.type p.body) {p : Post F}
    (first : p ∈ posts.take (maxOutputs - s.ctx.outputs.length)) :
    ∃ output ∈ queuedPosts s posts, output.connectionId = p.connectionId ∧
      Carries output.bytes p.type p.body := by
  obtain ⟨number, member⟩ :=
    output_mem_stamp s.session.sessionId s.ctx.transport.lastTxSequence first
  refine ⟨p.output s.session.sessionId number, ?_, rfl, packetBytes_carries
    (sendable p (List.mem_of_mem_take first)) s.session.sessionId number p.flags⟩
  rw [queuedPosts, stamp_take]
  exact member

omit [CFloat F] in
theorem post_queued {s : ServiceState F} {posts : List (Post F)}
    (sendable : ∀ p ∈ posts, Sendable p.type p.body)
    (room : s.ctx.outputs.length + posts.length ≤ maxOutputs) {p : Post F} (listed : p ∈ posts) :
    ∃ output ∈ (s.post posts).ctx.outputs.drop s.ctx.outputs.length,
      output.connectionId = p.connectionId ∧ Carries output.bytes p.type p.body := by
  rw [post_outputs sendable, List.drop_left]
  refine queuedPosts_of_take sendable ?_
  rwa [List.take_of_length_le (by omega)]

theorem Outcome.outputs {store : ProfileStore} {env : TransportEnvelope} {s : ServiceState F}
    {posts : List (Post F)} {result : Bool × ServiceState F}
    (outcome : Outcome store env s posts result) :
    result.2.ctx.outputs = s.ctx.outputs ++ queuedPosts s posts := by
  have sendable := outcome.sendable
  cases outcome with
  | ignored => simp [queuedPosts, stamp]
  | seated _ takes =>
      obtain ⟨players, connectedCount, registry, rfl⟩ := takeSeat_frame takes
      exact post_outputs sendable
  | kept => exact post_outputs sendable
  | left => exact post_outputs (s := heard s _) sendable
  | hit _ _ _ _ _ shot => subst shot; exact post_outputs sendable
  | refused => exact post_outputs sendable
  | built _ _ _ placed => subst placed; exact post_outputs sendable
  | moved _ changed => subst changed; exact post_outputs sendable
  | scrapped _ removed => subst removed; exact post_outputs sendable
  | selected => simp [queuedPosts, stamp]

theorem tlTick_outputs (s : ServiceState F) :
    (tlTick s).ctx.outputs = s.ctx.outputs ++ queuedPosts s (tickPosts s) := by
  rw [tlTick_posts, sendAll_sendable s.session.sessionId (tickPosts_sendable s)]
  rfl

/-! ## Steps -/

end Numbers

/-- What the network does to the service. -/
inductive NetworkEvent where
  | envelope (store : ProfileStore) (env : TransportEnvelope)
  | tick

/-- Between two readings of its queue the service handles envelopes and ticks. -/
inductive TransportEvent where
  | network (e : NetworkEvent)
  | clearOutputs

section Steps
variable [CFloat F] [WireFloat F]

def networkStep (s : ServiceState F) : NetworkEvent → ServiceState F
  | .envelope store env => (tlHandleEnvelope store env s).2
  | .tick => tlTick s

def transportStep (s : ServiceState F) : TransportEvent → ServiceState F
  | .network e => networkStep s e
  | .clearOutputs => tlClearOutputs s

theorem transportStep_service (s : ServiceState F) (e : TransportEvent) :
    ∃ event, transportStep s e = serviceStep s event := by
  cases e with
  | network e =>
      cases e with
      | envelope store env => exact ⟨.envelope store env, rfl⟩
      | tick => exact ⟨.tick, rfl⟩
  | clearOutputs => exact ⟨.clearOutputs, rfl⟩

/-- What a step posts: an outcome of its envelope, or the messages of a tick. -/
inductive NetworkPosts (s : ServiceState F) : NetworkEvent → List (Post F) → ServiceState F → Prop
  where
  | envelope {store : ProfileStore} {env : TransportEnvelope} {sequence : UInt32}
      {posts : List (Post F)} {ok : Bool} {after : ServiceState F}
      (outcome : Outcome store env (received s sequence) posts (ok, after)) :
      NetworkPosts s (.envelope store env) posts after
  | tick : NetworkPosts s .tick (tickPosts s) (tlTick s)

theorem networkStep_posts [LawfulWireFloat F] (s : ServiceState F) (e : NetworkEvent) :
    ∃ posts, NetworkPosts s e posts (networkStep s e) ∧ (∀ p ∈ posts, Sendable p.type p.body) ∧
      (networkStep s e).ctx.outputs = s.ctx.outputs ++ queuedPosts s posts := by
  cases e with
  | envelope store env =>
      obtain ⟨sequence, posts, outcome⟩ := tlHandleEnvelope_outcome store env s
      exact ⟨posts, .envelope outcome, outcome.sendable, outcome.outputs⟩
  | tick => exact ⟨_, .tick, tickPosts_sendable s, tlTick_outputs s⟩

end Steps

end F4MP.Service
