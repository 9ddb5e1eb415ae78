import F4MP.Library.Circular
import F4MP.Client.MovementSync

/-!
# The live provider of the local player

`local_player_observer_provider.c`: the states of the local player that the hook submits, after
`commonlibf4_player_live_adapter.c` has checked them, wait in a ring of eight. A capture takes the
latest, and leaves it there.
-/

namespace F4MP.Client
open SoftFloat Protocol Service Transition Circular

variable {F : Type}

/-! ## Samples -/

structure PlayerHostEvent (F : Type) where
  playerId : PlayerId
  position : Vec3f F
  rotation : Rot3f F
  velocity : Vec3f F
  stance : UInt8
  animState : UInt16
  equippedFormId : UInt32

structure CommonLibF4PlayerHookArgs (F : Type) where
  event : PlayerHostEvent F

inductive CommonLibF4PlayerLiveRejectReason where
  | none
  | nullArgs
  | nullOut
  | missingPlayerId
  | invalidPosition
  | invalidRotation
  | invalidVelocity
  | invalidStance
  deriving DecidableEq

inductive CommonLibF4PlayerLiveSourceKind where
  | none
  | hookCallback
  deriving DecidableEq

/-- A `LocalPlayerObservedState` with the flag that the movement sync bridge does not read. -/
structure FlaggedState (F : Type) extends LocalPlayerObservedState F where
  valid : Bool

structure CommonLibF4PlayerLiveSample (F : Type) where
  state : FlaggedState F
  observedTick : UInt32
  acceptedSequence : UInt32
  sourceKind : CommonLibF4PlayerLiveSourceKind
  usedDefaultPlayerId : Bool

/-- The static state of the adapter; `lastSample` is `last_sample` if `has_last_sample`. -/
structure CommonLibF4PlayerLiveAdapterStats (F : Type) where
  fallbackPlayerId : PlayerId
  normalizeAttemptCount : UInt32 := 0
  acceptCount : UInt32 := 0
  rejectCount : UInt32 := 0
  lastObservedTick : UInt32 := 0
  lastAcceptedSequence : UInt32 := 0
  lastRejectReason : CommonLibF4PlayerLiveRejectReason := .none
  lastSample : Option (CommonLibF4PlayerLiveSample F) := none

def stanceFall : UInt8 := 7

section Adapter
variable [FloatClass F]

def vec3Finite (v : Vec3f F) : Bool :=
  FloatClass.isfinite v.x && FloatClass.isfinite v.y && FloatClass.isfinite v.z

def rot3Finite (r : Rot3f F) : Bool :=
  FloatClass.isfinite r.pitch && FloatClass.isfinite r.yaw && FloatClass.isfinite r.roll

/-- `clf4_pla_normalize`; no arguments stand for a null pointer, and `hasOut` says that there is room
for the sample. -/
def clf4PlaNormalize (args : Option (CommonLibF4PlayerHookArgs F)) (hasOut : Bool)
    (stats : CommonLibF4PlayerLiveAdapterStats F) :
    Option (CommonLibF4PlayerLiveSample F) × CommonLibF4PlayerLiveAdapterStats F :=
  let stats := { stats with normalizeAttemptCount := stats.normalizeAttemptCount + 1 }
  let reject (reason : CommonLibF4PlayerLiveRejectReason) :=
    (none, { stats with rejectCount := stats.rejectCount + 1, lastRejectReason := reason })
  match args with
  | none => reject .nullArgs
  | some args =>
      if !hasOut then reject .nullOut
      else
        let resolvedPlayerId :=
          if args.event.playerId ≠ 0 then args.event.playerId else stats.fallbackPlayerId
        if resolvedPlayerId = 0 then reject .missingPlayerId
        else if !vec3Finite args.event.position then reject .invalidPosition
        else if !rot3Finite args.event.rotation then reject .invalidRotation
        else if !vec3Finite args.event.velocity then reject .invalidVelocity
        else if stanceFall < args.event.stance then reject .invalidStance
        else
          let sample : CommonLibF4PlayerLiveSample F := {
            state := {
              valid := true
              playerId := resolvedPlayerId
              position := args.event.position
              rotation := args.event.rotation
              velocity := args.event.velocity
              stance := args.event.stance
              animState := args.event.animState
              equippedFormId := args.event.equippedFormId }
            sourceKind := .hookCallback
            usedDefaultPlayerId := args.event.playerId = 0
            acceptedSequence := stats.acceptCount + 1
            observedTick := stats.lastObservedTick + 1 }
          (some sample, { stats with
            acceptCount := stats.acceptCount + 1
            lastObservedTick := sample.observedTick
            lastAcceptedSequence := sample.acceptedSequence
            lastRejectReason := .none
            lastSample := some sample })

theorem clf4PlaNormalize_valid {args : Option (CommonLibF4PlayerHookArgs F)} {hasOut : Bool}
    {stats after : CommonLibF4PlayerLiveAdapterStats F} {sample : CommonLibF4PlayerLiveSample F}
    (accepted : clf4PlaNormalize args hasOut stats = (some sample, after)) :
    sample.state.valid = true := by
  have rejects : ∀ {rest : Option (CommonLibF4PlayerLiveSample F) ×
      CommonLibF4PlayerLiveAdapterStats F} {stats : CommonLibF4PlayerLiveAdapterStats F}
      {objection : Prop} [Decidable objection],
      (if objection then (none, stats) else rest) = (some sample, after) →
        rest = (some sample, after) := by
    intro rest stats objection _ taken
    split at taken
    · cases taken
    · exact taken
  cases args with
  | none => cases accepted
  | some args =>
      have accepted := rejects (rejects (rejects (rejects (rejects (rejects accepted)))))
      cases accepted
      rfl

end Adapter

/-! ## The queue -/

/-- `LocalPlayerObserverLiveProviderState`; the queue has `LPO_LIVE_PROVIDER_MAX_QUEUE` slots. -/
structure LocalPlayerObserverLiveProviderState (F : Type) where
  installed : Bool
  submitCount : UInt32 := 0
  captureCount : UInt32 := 0
  queueCount : UInt32 := 0
  queueHead : UInt32 := 0
  queueTail : UInt32 := 0
  queueHighWatermark : UInt32 := 0
  droppedSampleCount : UInt32 := 0
  liveAcceptCount : UInt32 := 0
  liveRejectCount : UInt32 := 0
  lastObservedTick : UInt32 := 0
  lastAcceptedSequence : UInt32 := 0
  lastSourceKind : CommonLibF4PlayerLiveSourceKind := .none
  lastUsedDefaultPlayerId : Bool := false
  lastRejectReason : CommonLibF4PlayerLiveRejectReason := .none
  hasState : Bool := false
  lastState : FlaggedState F
  queue : Vector (FlaggedState F) 8

section Queue

def liveQueuePush (state : FlaggedState F) (live : LocalPlayerObserverLiveProviderState F) :
    LocalPlayerObserverLiveProviderState F :=
  let live :=
    if live.queueCount = 8 then
      { live with
        queueHead := (live.queueHead + 1) % 8
        queueCount := live.queueCount - 1
        droppedSampleCount := live.droppedSampleCount + 1 }
    else live
  let live :=
    { live with
      queue := live.queue.setIfInBounds live.queueTail.toNat state
      queueTail := (live.queueTail + 1) % 8
      queueCount := live.queueCount + 1 }
  { live with
    queueHighWatermark :=
      if live.queueHighWatermark < live.queueCount then live.queueCount
      else live.queueHighWatermark }

def liveQueuePeekLatest (live : LocalPlayerObserverLiveProviderState F) :
    Option (FlaggedState F) :=
  if live.queueCount = 0 then none
  else
    let idx := (live.queueTail + 8 - 1) % 8
    live.queue[idx.toNat]?

/-- `live_provider_capture`; `hasOut` says that there is room for the state. -/
def liveProviderCapture (hasOut : Bool) (live : LocalPlayerObserverLiveProviderState F) :
    Option (FlaggedState F) × LocalPlayerObserverLiveProviderState F :=
  if !hasOut || !live.installed then (none, live)
  else
    let peeked :=
      match liveQueuePeekLatest live with
      | some state => some state
      | none => if live.hasState then some live.lastState else none
    match peeked with
    | none => (none, live)
    | some state =>
        let state := { state with valid := true }
        (some state, { live with
          lastState := state
          hasState := true
          captureCount := live.captureCount + 1 })

end Queue

/-! ## The provider -/

/-- The static states of the provider and the adapter. -/
structure LiveProvider (F : Type) where
  live : LocalPlayerObserverLiveProviderState F
  adapter : CommonLibF4PlayerLiveAdapterStats F

/-- The counters that the provider copies from the adapter after every submission. -/
def LocalPlayerObserverLiveProviderState.noteAdapter (live : LocalPlayerObserverLiveProviderState F)
    (stats : CommonLibF4PlayerLiveAdapterStats F) : LocalPlayerObserverLiveProviderState F :=
  { live with
    liveAcceptCount := stats.acceptCount
    liveRejectCount := stats.rejectCount
    lastRejectReason := stats.lastRejectReason }

/-- The state behind a sample that the adapter has let through. -/
def LiveProvider.accept (sample : CommonLibF4PlayerLiveSample F)
    (adapter : CommonLibF4PlayerLiveAdapterStats F) (p : LiveProvider F) : LiveProvider F :=
  let live := { liveQueuePush sample.state p.live with
    submitCount := p.live.submitCount + 1
    hasState := true
    lastState := sample.state
    lastObservedTick := sample.observedTick
    lastAcceptedSequence := sample.acceptedSequence
    lastSourceKind := sample.sourceKind
    lastUsedDefaultPlayerId := sample.usedDefaultPlayerId }
  { live := live.noteAdapter adapter, adapter }

section Provider

def lpoLiveProviderSubmit [FloatClass F] (args : Option (CommonLibF4PlayerHookArgs F))
    (p : LiveProvider F) : Bool × LiveProvider F :=
  if !p.live.installed || args.isNone then (false, p)
  else
    let (normalized, adapter) := clf4PlaNormalize args true p.adapter
    match normalized with
    | none => (false, { live := p.live.noteAdapter adapter, adapter })
    | some sample => (true, p.accept sample adapter)

variable [CFloat F]

def FlaggedState.zero : FlaggedState F where
  valid := false
  playerId := 0
  position := zeroVec
  rotation := zeroRot
  velocity := zeroVec
  stance := 0
  animState := 0
  equippedFormId := 0

def lpoLiveProviderInstall (fallbackPlayerId : PlayerId) : LiveProvider F where
  live := { installed := true, lastState := .zero, queue := Vector.replicate 8 .zero }
  adapter := { fallbackPlayerId }

end Provider

/-! ## The ring -/

/-- The queue as a ring. -/
def LocalPlayerObserverLiveProviderState.ring (live : LocalPlayerObserverLiveProviderState F) :
    Buffer 8 (FlaggedState F) :=
  ⟨live.queue, live.queueHead.toNat, live.queueTail.toNat, live.queueCount.toNat⟩

theorem toNat_succ_mod (x : UInt32) : ((x + 1) % 8).toNat = (x.toNat + 1) % 8 := by
  rw [UInt32.toNat_mod, UInt32.toNat_add]
  simp only [UInt32.reduceToNat]
  omega

section Ring
variable {live : LocalPlayerObserverLiveProviderState F}

/-- A full ring loses its oldest entry, which is counted. -/
def evicted (live : LocalPlayerObserverLiveProviderState F) :
    LocalPlayerObserverLiveProviderState F :=
  if live.queueCount = 8 then
    { live with
      queueHead := (live.queueHead + 1) % 8
      queueCount := live.queueCount - 1
      droppedSampleCount := live.droppedSampleCount + 1 }
  else live

theorem evicted_ring : (evicted live).ring = live.ring.evict := by
  unfold evicted Buffer.evict
  have full : live.ring.count = 8 ↔ live.queueCount = 8 := by
    rw [← UInt32.toNat_inj]
    rfl
  split
  · rename_i eight
    rw [if_pos (full.mpr eight), LocalPlayerObserverLiveProviderState.ring]
    simp only [toNat_succ_mod, eight, LocalPlayerObserverLiveProviderState.ring]
    rfl
  · rename_i less
    rw [if_neg fun eight => less (full.mp eight)]

theorem liveQueuePush_ring (wf : live.ring.WellFormed) (state : FlaggedState F) :
    (liveQueuePush state live).ring = live.ring.push state := by
  have evict := wf.evict
  have room := Buffer.evict_count_lt wf
  rw [← evicted_ring] at evict room
  have tail : (evicted live).queueTail.toNat < 8 := by
    have closed : _ = (evicted live).queueTail.toNat := evict.closed
    omega
  have count : ((evicted live).queueCount + 1).toNat = (evicted live).queueCount.toNat + 1 := by
    have : (evicted live).queueCount.toNat < 8 := room
    rw [UInt32.toNat_add]
    simp only [UInt32.reduceToNat]
    omega
  have pushed : (liveQueuePush state live).ring =
      ⟨(evicted live).queue.setIfInBounds (evicted live).queueTail.toNat state,
        (evicted live).queueHead.toNat, (((evicted live).queueTail + 1) % 8).toNat,
        ((evicted live).queueCount + 1).toNat⟩ := rfl
  rw [pushed, Buffer.push, ← evicted_ring, toNat_succ_mod, count, ← Nat.mod_eq_of_lt tail]
  simp only [Buffer.append, LocalPlayerObserverLiveProviderState.ring, Nat.mod_eq_of_lt tail]

theorem liveQueuePeekLatest_ring : liveQueuePeekLatest live = live.ring.latest? := by
  have idx : ((live.queueTail + 8 - 1) % 8).toNat = (live.queueTail.toNat + 8 - 1) % 8 := by
    rw [UInt32.toNat_mod, UInt32.toNat_sub, UInt32.toNat_add]
    simp only [UInt32.reduceToNat]
    omega
  have inside : (live.queueTail.toNat + 8 - 1) % 8 < 8 := Nat.mod_lt _ (by decide)
  have empty : live.queueCount = 0 ↔ live.ring.count = 0 := by
    rw [← UInt32.toNat_inj]
    rfl
  unfold liveQueuePeekLatest Buffer.latest?
  split
  · rename_i none
    rw [if_pos (empty.mp none)]
  · rename_i some_
    rw [if_neg fun none => some_ (empty.mpr none)]
    dsimp only
    rw [idx]
    exact Vector.getElem?_eq_getElem inside

theorem liveQueuePush_installed (state : FlaggedState F) :
    (liveQueuePush state live).installed = live.installed := by
  have pushed : (liveQueuePush state live).installed = (evicted live).installed := rfl
  rw [pushed, evicted]
  split
  · rfl
  · rfl

theorem liveQueuePush_counted (state : FlaggedState F) :
    (liveQueuePush state live).droppedSampleCount + (liveQueuePush state live).queueCount =
      live.droppedSampleCount + live.queueCount + 1 := by
  have pushed : (liveQueuePush state live).droppedSampleCount + (liveQueuePush state live).queueCount =
      (evicted live).droppedSampleCount + ((evicted live).queueCount + 1) := rfl
  rw [pushed, evicted]
  split
  · dsimp only
    rw [UInt32.sub_add_cancel, UInt32.add_assoc, UInt32.add_comm 1, ← UInt32.add_assoc]
  · rw [UInt32.add_assoc]

end Ring

/-! ## Runs -/

section Runs
variable [FloatClass F]

inductive ProviderEvent (F : Type) where
  /-- `lpo_live_provider_submit` -/
  | submit (args : Option (CommonLibF4PlayerHookArgs F))
  /-- `live_provider_capture` -/
  | capture (hasOut : Bool)

def providerStep (p : LiveProvider F) : ProviderEvent F → LiveProvider F
  | .submit args => (lpoLiveProviderSubmit args p).2
  | .capture hasOut => { p with live := (liveProviderCapture hasOut p.live).2 }

/-- The state of a submission that is accepted. -/
def acceptedState (p : LiveProvider F) : ProviderEvent F → Option (FlaggedState F)
  | .submit args =>
      if (lpoLiveProviderSubmit args p).1 then (clf4PlaNormalize args true p.adapter).1.map (·.state)
      else none
  | .capture _ => none

/-- The accepted states of a run, in order. -/
def acceptedStates (p : LiveProvider F) (events : List (ProviderEvent F)) : List (FlaggedState F) :=
  emitted providerStep acceptedState p events

/-- The provider behind the states that it has accepted. -/
structure Provides (p : LiveProvider F) (accepted : List (FlaggedState F)) : Prop where
  installed : p.live.installed = true
  ring : p.live.ring.WellFormed
  recent : p.live.ring.contents <:+ accepted
  counted : p.live.droppedSampleCount + p.live.queueCount = p.live.submitCount
  flagged : ∀ state ∈ accepted, state.valid = true
  waiting : p.live.queueCount = 0 → accepted = [] ∧ p.live.hasState = false

namespace Provides
variable {p : LiveProvider F} {accepted : List (FlaggedState F)}

omit [FloatClass F] in
theorem of_same {live : LocalPlayerObserverLiveProviderState F}
    {adapter : CommonLibF4PlayerLiveAdapterStats F} (provides : Provides p accepted)
    (installed : live.installed = p.live.installed) (ring : live.ring = p.live.ring)
    (dropped : live.droppedSampleCount = p.live.droppedSampleCount)
    (count : live.queueCount = p.live.queueCount)
    (submitted : live.submitCount = p.live.submitCount)
    (hasState : p.live.queueCount = 0 → live.hasState = p.live.hasState) :
    Provides ⟨live, adapter⟩ accepted where
  installed := installed.trans provides.installed
  ring := ring ▸ provides.ring
  recent := ring ▸ provides.recent
  counted := by
    show live.droppedSampleCount + live.queueCount = live.submitCount
    rw [dropped, count, submitted, provides.counted]
  flagged := provides.flagged
  waiting none := by
    obtain ⟨nothing, unset⟩ := provides.waiting (count ▸ none)
    exact ⟨nothing, (hasState (count ▸ none)).trans unset⟩

omit [FloatClass F] in
theorem latest (provides : Provides p accepted) :
    liveQueuePeekLatest p.live = accepted.getLast? := by
  rw [liveQueuePeekLatest_ring, Buffer.latest?_eq provides.ring]
  obtain ⟨older, split⟩ := provides.recent
  cases contents : p.live.ring.contents using List.reverseRecOn with
  | nil =>
      have none : p.live.queueCount.toNat = 0 := by
        have length := Buffer.contents_length p.live.ring
        rw [contents] at length
        exact length.symm
      rw [(provides.waiting (UInt32.toNat_inj.mp none)).1]
  | append_singleton front state _ =>
      rw [← split, contents, ← List.append_assoc, List.getLast?_concat, List.getLast?_concat]

omit [FloatClass F] in
theorem unset (provides : Provides p accepted) (nothing : accepted.getLast? = none) :
    p.live.hasState = false := by
  have empty : p.live.ring.contents = [] :=
    List.suffix_nil.mp (List.getLast?_eq_none_iff.mp nothing ▸ provides.recent)
  have count : p.live.queueCount.toNat = 0 := by
    rw [← List.length_eq_zero_iff, Buffer.contents_length] at empty
    exact empty
  exact (provides.waiting (UInt32.toNat_inj.mp count)).2

omit [FloatClass F] in
/-- A capture finds the last of the accepted states. -/
theorem capture_eq (provides : Provides p accepted) :
    (liveProviderCapture true p.live).1 = accepted.getLast? := by
  simp only [liveProviderCapture, provides.installed, provides.latest]
  cases last : accepted.getLast? with
  | none => simp [provides.unset last]
  | some state =>
      have valid := provides.flagged state (List.mem_of_getLast? last)
      simp [← valid]

omit [FloatClass F] in
theorem capture (provides : Provides p accepted) (hasOut : Bool) :
    Provides { p with live := (liveProviderCapture hasOut p.live).2 } accepted := by
  cases hasOut with
  | false => exact provides
  | true =>
      cases last : accepted.getLast? with
      | none =>
          have unset := provides.unset last
          have nothing : (liveProviderCapture true p.live).2 = p.live := by
            simp [liveProviderCapture, provides.latest, last, unset]
          rw [nothing]
          exact provides
      | some state =>
          have shown : (liveProviderCapture true p.live).2 = { p.live with
              lastState := { state with valid := true }
              hasState := true
              captureCount := p.live.captureCount + 1 } := by
            simp [liveProviderCapture, provides.installed, provides.latest, last]
          rw [shown]
          refine provides.of_same rfl rfl rfl rfl rfl fun none => ?_
          rw [(provides.waiting none).1] at last
          cases last

omit [FloatClass F] in
theorem accept (provides : Provides p accepted) {sample : CommonLibF4PlayerLiveSample F}
    (valid : sample.state.valid = true) (adapter : CommonLibF4PlayerLiveAdapterStats F) :
    Provides (p.accept sample adapter) (accepted ++ [sample.state]) := by
  have ring : (p.accept sample adapter).live.ring = p.live.ring.push sample.state :=
    liveQueuePush_ring provides.ring sample.state
  refine ⟨?_, ?_, ?_, ?_, ?_, fun none => ?_⟩
  · exact (liveQueuePush_installed sample.state).trans provides.installed
  · exact ring ▸ provides.ring.push sample.state
  · exact ring ▸ Buffer.push_suffix provides.ring provides.recent sample.state
  · have counted : (liveQueuePush sample.state p.live).droppedSampleCount +
        (liveQueuePush sample.state p.live).queueCount =
          p.live.droppedSampleCount + p.live.queueCount + 1 := liveQueuePush_counted sample.state
    rw [provides.counted] at counted
    exact counted
  · intro state member
    rcases List.mem_append.mp member with earlier | now
    · exact provides.flagged state earlier
    · exact List.mem_singleton.mp now ▸ valid
  · have length := Buffer.contents_length (p.accept sample adapter).live.ring
    rw [ring, Buffer.push_contents provides.ring, List.length_append, ← ring] at length
    have count := congrArg UInt32.toNat none
    exact absurd (length.trans count) (Nat.succ_ne_zero _)

theorem submit (provides : Provides p accepted) (args : Option (CommonLibF4PlayerHookArgs F)) :
    Provides (lpoLiveProviderSubmit args p).2
      (accepted ++ (acceptedState p (.submit args)).toList) := by
  cases args with
  | none =>
      have ignored : lpoLiveProviderSubmit none p = (false, p) := by
        simp [lpoLiveProviderSubmit]
      simpa [acceptedState, ignored] using provides
  | some args =>
      obtain ⟨normalized, normalizedIs⟩ : ∃ n, n = clf4PlaNormalize (some args) true p.adapter :=
        ⟨_, rfl⟩
      obtain ⟨sample, adapter⟩ := normalized
      cases sample with
      | none =>
          have rejected : lpoLiveProviderSubmit (some args) p =
              (false, { live := p.live.noteAdapter adapter, adapter }) := by
            simp [lpoLiveProviderSubmit, provides.installed, ← normalizedIs]
          have same : Provides ⟨p.live.noteAdapter adapter, adapter⟩ accepted :=
            provides.of_same rfl rfl rfl rfl rfl fun _ => rfl
          simpa [acceptedState, rejected] using same
      | some sample =>
          have taken : lpoLiveProviderSubmit (some args) p = (true, p.accept sample adapter) := by
            simp [lpoLiveProviderSubmit, provides.installed, ← normalizedIs]
          have valid := clf4PlaNormalize_valid normalizedIs.symm
          simpa [acceptedState, taken, ← normalizedIs] using provides.accept valid adapter

end Provides

/-- The provider that is installed, behind any submissions and captures. -/
theorem run_provides [CFloat F] (fallbackPlayerId : PlayerId) (events : List (ProviderEvent F)) :
    Provides (run providerStep (lpoLiveProviderInstall fallbackPlayerId) events)
      (acceptedStates (lpoLiveProviderInstall fallbackPlayerId) events) := by
  induction events using List.reverseRecOn with
  | nil =>
      refine ⟨rfl, ⟨Nat.zero_le _, rfl⟩, List.nil_suffix, rfl, List.forall_mem_nil _, fun _ => ?_⟩
      exact ⟨rfl, rfl⟩
  | append_singleton events e ih =>
      rw [run_snoc, acceptedStates, emitted_append, emitted, emitted, List.append_nil]
      cases e with
      | submit args => exact ih.submit args
      | capture hasOut =>
          rw [acceptedState, Option.toList_none, List.append_nil]
          exact ih.capture hasOut

/-- The ring of eight, whatever is submitted and whenever it is captured. -/
theorem liveProvider_ring [CFloat F] (fallbackPlayerId : PlayerId)
    (events : List (ProviderEvent F)) :
    let p : LiveProvider F := run providerStep (lpoLiveProviderInstall fallbackPlayerId) events
    let accepted := acceptedStates (lpoLiveProviderInstall fallbackPlayerId) events
    p.live.queueCount ≤ 8 ∧
      (p.live.queueHead + p.live.queueCount) % 8 = p.live.queueTail ∧
      p.live.droppedSampleCount + p.live.queueCount = p.live.submitCount ∧
      ((List.range p.live.queueCount.toNat).map fun i =>
          p.live.queue[(p.live.queueHead.toNat + i) % 8]?) =
        (accepted.drop (accepted.length - p.live.queueCount.toNat)).map some ∧
      ∀ hasOut state, (liveProviderCapture hasOut p.live).1 = some state →
        accepted.getLast? = some state := by
  intro p accepted
  have provides : Provides p accepted := run_provides fallbackPlayerId events
  have room : p.live.queueCount.toNat ≤ 8 := provides.ring.room
  have closed : (p.live.queueHead.toNat + p.live.queueCount.toNat) % 8 = p.live.queueTail.toNat :=
    provides.ring.closed
  refine ⟨UInt32.le_iff_toNat_le.mpr room, ?_, provides.counted, ?_, ?_⟩
  · rw [← UInt32.toNat_inj, ← closed, UInt32.toNat_mod, UInt32.toNat_add]
    simp only [UInt32.reduceToNat]
    omega
  · have contents := List.suffix_iff_eq_drop.mp provides.recent
    rw [Buffer.contents_length] at contents
    have slots : ((List.range p.live.queueCount.toNat).map fun i =>
        p.live.queue[(p.live.queueHead.toNat + i) % 8]?) = p.live.ring.contents.map some := by
      rw [Buffer.contents, List.map_map]
      refine List.map_congr_left fun i _ => ?_
      exact Vector.getElem?_eq_getElem (Nat.mod_lt _ (by decide))
    rw [slots, contents]
    rfl
  · intro hasOut state captured
    cases hasOut with
    | false => cases captured
    | true => exact provides.capture_eq ▸ captured

end Runs

end F4MP.Client
