import F4MP.Library.Rational
import F4MP.Library.Transition
import F4MP.Service.State

/-!
# The movement sync bridge

`movement_sync_bridge.c`: which of the captured states of the local player become messages. A failed
capture changes nothing, so the runs are those of successful ones.
-/

namespace F4MP.Client
open SoftFloat CFloat Protocol Service Transition

variable {F : Type}

/-! ## Captures -/

structure MovementSyncBridgeConfig (F : Type) where
  positionEpsilon : F
  rotationEpsilon : F
  sendVelocity : Bool
  forceResendTicks : UInt32
  minSendIntervalTicks : UInt32

/-- The fields of a capture that the bridge reads. -/
structure LocalPlayerObservedState (F : Type) where
  playerId : PlayerId
  position : Vec3f F
  rotation : Rot3f F
  velocity : Vec3f F
  stance : UInt8
  animState : UInt16
  equippedFormId : UInt32

/-- The static state of `movement_sync_bridge.c`; `last` is `g_last` if `g_have_last`. -/
structure MovementSyncBridge (F : Type) where
  cfg : MovementSyncBridgeConfig F
  last : Option (LocalPlayerObservedState F) := none
  quietTicks : UInt32 := 0
  stateSequence : UInt32 := 0
  observedTick : UInt32 := 0
  lastEmitTick : UInt32 := 0

section Bridge
variable [CFloat F]

def fabsf (x : F) : F := if lt x (lit 0 1) then sub (lit 0 1) x else x

def sqrf (v : F) : F := mul v v

def posDistSq (a b : Vec3f F) : F :=
  add (add (sqrf (sub a.x b.x)) (sqrf (sub a.y b.y))) (sqrf (sub a.z b.z))

def msbInit (cfg : Option (MovementSyncBridgeConfig F)) : MovementSyncBridge F where
  cfg := cfg.getD ⟨lit 2 100, lit 1 1, true, 20, 2⟩

def MovementSyncBridgeConfig.changed (cfg : MovementSyncBridgeConfig F)
    (last cur : LocalPlayerObservedState F) : Bool :=
  let posChanged :=
    lt (mul cfg.positionEpsilon cfg.positionEpsilon) (posDistSq cur.position last.position)
  let rotChanged :=
    lt cfg.rotationEpsilon (fabsf (sub cur.rotation.yaw last.rotation.yaw)) ||
      lt cfg.rotationEpsilon (fabsf (sub cur.rotation.pitch last.rotation.pitch)) ||
      lt cfg.rotationEpsilon (fabsf (sub cur.rotation.roll last.rotation.roll))
  let stanceChanged := cur.stance != last.stance || cur.animState != last.animState
  let equipChanged := cur.equippedFormId != last.equippedFormId
  posChanged || rotChanged || stanceChanged || equipChanged

/-- The message of a capture, and the bridge behind it. -/
def MovementSyncBridge.emit (cur : LocalPlayerObservedState F) (b : MovementSyncBridge F) :
    Option (MsgPlayerState F) × MovementSyncBridge F :=
  let stateSequence := b.stateSequence + 1
  (some {
      playerId := cur.playerId
      reserved := 0
      position := cur.position
      rotation := cur.rotation
      velocity := if b.cfg.sendVelocity then cur.velocity else zeroVec
      stance := cur.stance
      reserved2 := {}
      animState := cur.animState
      reserved3 := 0
      equippedFormId := cur.equippedFormId
      stateSequence
      observedTick := b.observedTick },
    { b with
      stateSequence, last := some cur, quietTicks := 0, lastEmitTick := b.observedTick })

/-- The last emission is less than the minimum interval ago. -/
def MovementSyncBridge.limited (b : MovementSyncBridge F) : Bool :=
  decide (0 < b.cfg.minSendIntervalTicks) && b.lastEmitTick != 0 &&
    decide (b.observedTick - b.lastEmitTick < b.cfg.minSendIntervalTicks)

/-- `msb_build_player_state_if_changed`, behind `lpo_capture`. -/
def msbBuildPlayerStateIfChanged (cur : LocalPlayerObservedState F) (b : MovementSyncBridge F) :
    Option (MsgPlayerState F) × MovementSyncBridge F :=
  let b := { b with observedTick := b.observedTick + 1 }
  match b.last with
  | none => b.emit cur
  | some last =>
      let changed := b.cfg.changed last cur
      if changed && b.limited then (none, b)
      else if !changed then
        if b.cfg.forceResendTicks = 0 then (none, b)
        else
          let b := { b with quietTicks := b.quietTicks + 1 }
          if b.quietTicks < b.cfg.forceResendTicks then (none, b) else b.emit cur
      else b.emit cur

def msbStep (b : MovementSyncBridge F) (cur : LocalPlayerObservedState F) : MovementSyncBridge F :=
  (msbBuildPlayerStateIfChanged cur b).2

def msbReport (b : MovementSyncBridge F) (cur : LocalPlayerObservedState F) :
    Option (MsgPlayerState F) :=
  (msbBuildPlayerStateIfChanged cur b).1

/-! ## One capture -/

/-- What a capture that becomes a message leaves. -/
structure Emitted (b after : MovementSyncBridge F) (cur : LocalPlayerObservedState F)
    (msg : MsgPlayerState F) : Prop where
  cfg : after.cfg = b.cfg
  last : after.last = some cur
  quiet : after.quietTicks = 0
  sequence : after.stateSequence = b.stateSequence + 1
  tick : after.observedTick = b.observedTick + 1
  emitTick : after.lastEmitTick = after.observedTick
  msgSequence : msg.stateSequence = after.stateSequence
  msgTick : msg.observedTick = after.observedTick

variable {b : MovementSyncBridge F} {cur last : LocalPlayerObservedState F}
  {msg : MsgPlayerState F}

theorem msbReport_some (reported : msbReport b cur = some msg) :
    Emitted b (msbStep b cur) cur msg := by
  have emits : ∀ quietTicks, ∀ result : Option (MsgPlayerState F) × MovementSyncBridge F,
      result = { b with observedTick := b.observedTick + 1, quietTicks }.emit cur →
        result.1 = some msg → Emitted b result.2 cur msg := by
    rintro quietTicks _ rfl is
    obtain rfl := Option.some.inj is
    exact ⟨rfl, rfl, rfl, rfl, rfl, rfl, rfl, rfl⟩
  rw [msbReport] at reported
  rw [msbStep]
  unfold msbBuildPlayerStateIfChanged at reported ⊢
  dsimp only at reported ⊢
  split at reported
  · exact emits _ _ rfl reported
  · split at reported
    · cases reported
    · rename_i free
      rw [if_neg free]
      split at reported
      · rename_i same
        rw [if_pos same]
        split at reported
        · cases reported
        · rename_i forced
          rw [if_neg forced]
          split at reported
          · cases reported
          · rename_i due
            rw [if_neg due]
            exact emits _ _ rfl reported
      · rename_i moved
        rw [if_neg moved]
        exact emits _ _ rfl reported

/-- The bridge at the next capture. -/
def MovementSyncBridge.tick (b : MovementSyncBridge F) : MovementSyncBridge F :=
  { b with observedTick := b.observedTick + 1 }

/-- What becomes of a capture behind an emission. -/
inductive Outcome (b : MovementSyncBridge F) (last cur : LocalPlayerObservedState F) : Prop where
  | limited (moved : b.cfg.changed last cur = true) (early : b.tick.limited = true)
      (nothing : msbReport b cur = none) (after : msbStep b cur = b.tick)
  | still (same : b.cfg.changed last cur = false) (unforced : b.cfg.forceResendTicks = 0)
      (nothing : msbReport b cur = none) (after : msbStep b cur = b.tick)
  | quiet (same : b.cfg.changed last cur = false)
      (waits : b.quietTicks + 1 < b.cfg.forceResendTicks) (nothing : msbReport b cur = none)
      (after : msbStep b cur = { b.tick with quietTicks := b.quietTicks + 1 })
  | refreshed (same : b.cfg.changed last cur = false) (forced : b.cfg.forceResendTicks ≠ 0)
      (due : b.cfg.forceResendTicks ≤ b.quietTicks + 1) (something : (msbReport b cur).isSome)
  | changed (moved : b.cfg.changed last cur = true) (free : b.tick.limited = false)
      (something : (msbReport b cur).isSome)

theorem msbBuild_outcome (known : b.last = some last) (cur : LocalPlayerObservedState F) :
    Outcome b last cur := by
  obtain ⟨cfg, _, quietTicks, stateSequence, observedTick, lastEmitTick⟩ := b
  obtain rfl : _ = some last := known
  obtain ⟨result, isResult⟩ : ∃ result, msbBuildPlayerStateIfChanged cur
    ⟨cfg, some last, quietTicks, stateSequence, observedTick, lastEmitTick⟩ = result := ⟨_, rfl⟩
  have report : msbReport _ cur = result.1 := congrArg Prod.fst isResult
  have step : msbStep _ cur = result.2 := congrArg Prod.snd isResult
  unfold msbBuildPlayerStateIfChanged at isResult
  dsimp only at isResult
  split at isResult
  · rename_i limited
    obtain ⟨moved, early⟩ := Bool.and_eq_true_iff.mp limited
    subst isResult
    exact .limited moved early report step
  · rename_i free
    split at isResult
    · rename_i same
      have same : cfg.changed last cur = false := (Bool.not_eq_true' _).mp same
      split at isResult
      · rename_i unforced
        subst isResult
        exact .still same unforced report step
      · rename_i forced
        split at isResult
        · rename_i waits
          subst isResult
          exact .quiet same waits report step
        · rename_i due
          subst isResult
          exact .refreshed same forced (UInt32.not_lt.mp due) (report ▸ rfl)
    · rename_i moved
      have moved : cfg.changed last cur = true := by simpa using moved
      rw [moved, Bool.true_and, Bool.not_eq_true] at free
      subst isResult
      exact .changed moved free (report ▸ rfl)

theorem msbReport_first (fresh : b.last = none) (cur : LocalPlayerObservedState F) :
    (msbReport b cur).isSome := by
  unfold msbReport msbBuildPlayerStateIfChanged
  simp only [fresh]
  rfl

/-! ## Captures between two messages -/

/-- The captures that are not taken for changed ones. -/
def unchanged (cfg : MovementSyncBridgeConfig F) (last : LocalPlayerObservedState F)
    (captures : List (LocalPlayerObservedState F)) : List (LocalPlayerObservedState F) :=
  captures.filter fun cur => !cfg.changed last cur

/-- No capture becomes a message. -/
def Silent (b : MovementSyncBridge F) (captures : List (LocalPlayerObservedState F)) : Prop :=
  emitted msbStep msbReport b captures = []

/-- The bridge after captures without a message, behind the emission that left `b`. -/
structure Waited (b : MovementSyncBridge F) (last : LocalPlayerObservedState F)
    (captures : List (LocalPlayerObservedState F)) (after : MovementSyncBridge F) : Prop where
  cfg : after.cfg = b.cfg
  known : after.last = some last
  sequence : after.stateSequence = b.stateSequence
  emitTick : after.lastEmitTick = b.lastEmitTick
  tick : after.observedTick = b.observedTick + UInt32.ofNat captures.length
  quiet : b.cfg.forceResendTicks ≠ 0 →
    after.quietTicks.toNat = (unchanged b.cfg last captures).length ∧
      (unchanged b.cfg last captures).length < b.cfg.forceResendTicks.toNat

theorem silent_snoc {captures : List (LocalPlayerObservedState F)} :
    Silent b (captures ++ [cur]) ↔
      Silent b captures ∧ msbReport (run msbStep b captures) cur = none := by
  simp only [Silent, emitted_append, emitted, List.append_nil, List.append_eq_nil_iff,
    Option.toList_eq_nil_iff]

theorem run_waited (known : b.last = some last) (fresh : b.quietTicks = 0)
    {captures : List (LocalPlayerObservedState F)} (silent : Silent b captures) :
    Waited b last captures (run msbStep b captures) := by
  induction captures using List.reverseRecOn with
  | nil =>
      refine ⟨rfl, known, rfl, rfl, (UInt32.add_zero _).symm, fun forced => ?_⟩
      refine ⟨congrArg UInt32.toNat fresh, ?_⟩
      exact UInt32.lt_iff_toNat_lt.mp (UInt32.pos_iff_ne_zero.mpr forced)
  | append_singleton captures cur ih =>
      obtain ⟨before, nothing⟩ := silent_snoc.mp silent
      obtain ⟨cfg, last', sequence, emitTick, tick, quiet⟩ := ih before
      rw [run_snoc]
      generalize run msbStep b captures = now at cfg last' sequence emitTick tick quiet nothing
      have tick' : now.tick.observedTick =
          b.observedTick + UInt32.ofNat (captures ++ [cur]).length := by
        rw [MovementSyncBridge.tick, tick, List.length_append, List.length_singleton,
          UInt32.ofNat_add, UInt32.add_assoc]
        rfl
      have split : unchanged b.cfg last (captures ++ [cur]) =
          unchanged b.cfg last captures ++ if b.cfg.changed last cur then [] else [cur] := by
        rw [unchanged, List.filter_append, ← unchanged, List.filter_singleton]
        cases b.cfg.changed last cur <;> rfl
      cases msbBuild_outcome last' cur with
      | limited moved _ _ after =>
          rw [cfg] at moved
          rw [after]
          refine ⟨cfg, last', sequence, emitTick, tick', fun forced => ?_⟩
          rw [split, moved, if_pos rfl, List.append_nil]
          exact quiet forced
      | still same unforced _ after =>
          rw [after]
          refine ⟨cfg, last', sequence, emitTick, tick', fun forced => ?_⟩
          exact absurd (cfg ▸ unforced) forced
      | quiet same waits _ after =>
          rw [cfg] at same waits
          rw [after]
          refine ⟨cfg, last', sequence, emitTick, tick', fun forced => ?_⟩
          obtain ⟨counted, small⟩ := quiet forced
          have bound := b.cfg.forceResendTicks.toNat_lt
          have next : (now.quietTicks + 1).toNat = now.quietTicks.toNat + 1 := by
            rw [UInt32.toNat_add, Nat.mod_eq_of_lt]
            · rfl
            · rw [show (1 : UInt32).toNat = 1 from rfl]
              omega
          have waits := UInt32.lt_iff_toNat_lt.mp waits
          rw [next] at waits
          rw [split, same, if_neg Bool.false_ne_true, List.length_append, List.length_singleton,
            ← counted]
          exact ⟨next, waits⟩
      | refreshed _ _ _ something =>
          rw [nothing] at something
          cases something
      | changed _ _ something =>
          rw [nothing] at something
          cases something

/-! ## Runs -/

/-- The messages of a run. -/
def messages (cfg : Option (MovementSyncBridgeConfig F))
    (captures : List (LocalPlayerObservedState F)) : List (MsgPlayerState F) :=
  emitted msbStep msbReport (msbInit cfg) captures

/-- The bridge after a run. -/
def bridgeAfter (cfg : Option (MovementSyncBridgeConfig F))
    (captures : List (LocalPlayerObservedState F)) : MovementSyncBridge F :=
  run msbStep (msbInit cfg) captures

/-- A capture behind which the bridge has sent a message. -/
def Sent (cfg : Option (MovementSyncBridgeConfig F)) (before : List (LocalPlayerObservedState F))
    (first : LocalPlayerObservedState F) : Prop :=
  (msbReport (bridgeAfter cfg before) first).isSome

theorem msbReport_none (nothing : msbReport b cur = none) :
    (msbStep b cur).cfg = b.cfg ∧ (msbStep b cur).last = b.last ∧
      (msbStep b cur).stateSequence = b.stateSequence ∧
      (msbStep b cur).observedTick = b.observedTick + 1 := by
  cases known : b.last with
  | none =>
      have something := msbReport_first known cur
      rw [nothing] at something
      cases something
  | some last =>
      cases msbBuild_outcome known cur with
      | limited _ _ _ after | still _ _ _ after | quiet _ _ _ after =>
          rw [after]
          exact ⟨rfl, known, rfl, rfl⟩
      | refreshed _ _ _ something | changed _ _ something =>
          rw [nothing] at something
          cases something

variable {cfg : Option (MovementSyncBridgeConfig F)}
  {captures : List (LocalPlayerObservedState F)}

theorem messages_snoc : messages cfg (captures ++ [cur]) =
    messages cfg captures ++ (msbReport (bridgeAfter cfg captures) cur).toList := by
  rw [messages, emitted_append]
  simp only [emitted, List.append_nil]
  rfl

theorem bridgeAfter_snoc :
    bridgeAfter cfg (captures ++ [cur]) = msbStep (bridgeAfter cfg captures) cur := run_snoc

theorem bridgeAfter_counts (cfg : Option (MovementSyncBridgeConfig F))
    (captures : List (LocalPlayerObservedState F)) :
    (bridgeAfter cfg captures).cfg = (msbInit cfg).cfg ∧
      (bridgeAfter cfg captures).stateSequence = UInt32.ofNat (messages cfg captures).length ∧
      (bridgeAfter cfg captures).observedTick = UInt32.ofNat captures.length := by
  induction captures using List.reverseRecOn with
  | nil => exact ⟨rfl, rfl, rfl⟩
  | append_singleton captures cur ih =>
      obtain ⟨same, sequence, tick⟩ := ih
      rw [messages_snoc, bridgeAfter_snoc, List.length_append, List.length_append,
        List.length_singleton, UInt32.ofNat_add, UInt32.ofNat_add, ← sequence, ← tick]
      cases reported : msbReport (bridgeAfter cfg captures) cur with
      | none =>
          obtain ⟨same', -, sequence', tick'⟩ := msbReport_none reported
          exact ⟨same'.trans same, sequence'.trans (UInt32.add_zero _).symm, tick'⟩
      | some msg =>
          have emitted := msbReport_some reported
          exact ⟨emitted.cfg.trans same, emitted.sequence, emitted.tick⟩

theorem messages_numbered (few : captures.length < 2 ^ 32) :
    (messages cfg captures).map (·.stateSequence.toNat) =
        List.range' 1 (messages cfg captures).length ∧
      (messages cfg captures).Pairwise (fun a b => a.observedTick < b.observedTick) ∧
      (messages cfg captures).length ≤ captures.length ∧
      ∀ msg ∈ messages cfg captures, msg.observedTick.toNat ≤ captures.length := by
  induction captures using List.reverseRecOn with
  | nil => exact ⟨rfl, .nil, Nat.le_refl _, fun _ listed => by cases listed⟩
  | append_singleton captures cur ih =>
      rw [List.length_append, List.length_singleton] at few
      obtain ⟨numbers, ordered, fewer, ticks⟩ := ih (Nat.lt_of_succ_lt few)
      obtain ⟨_, sequence, tick⟩ := bridgeAfter_counts cfg captures
      rw [messages_snoc, List.length_append, List.length_append, List.length_singleton]
      cases reported : msbReport (bridgeAfter cfg captures) cur with
      | none =>
          rw [Option.toList_none, List.append_nil, List.length_nil, Nat.add_zero]
          exact ⟨numbers, ordered, Nat.le_succ_of_le fewer,
            fun msg listed => Nat.le_succ_of_le (ticks msg listed)⟩
      | some msg =>
          have emitted := msbReport_some reported
          have number : msg.stateSequence.toNat = (messages cfg captures).length + 1 := by
            rw [emitted.msgSequence, emitted.sequence, sequence, ← UInt32.ofNat_one,
              ← UInt32.ofNat_add, UInt32.toNat_ofNat', Nat.mod_eq_of_lt (by omega)]
          have clock : msg.observedTick.toNat = captures.length + 1 := by
            rw [emitted.msgTick, emitted.tick, tick, ← UInt32.ofNat_one, ← UInt32.ofNat_add,
              UInt32.toNat_ofNat', Nat.mod_eq_of_lt few]
          rw [Option.toList_some, List.length_singleton]
          refine ⟨?_, ?_, Nat.succ_le_succ fewer, fun later listed => ?_⟩
          · rw [List.map_append, numbers, List.map_singleton, number, List.range'_1_concat,
              Nat.add_comm 1]
          · refine List.pairwise_append.mpr ⟨ordered, List.pairwise_singleton _ _, ?_⟩
            intro earlier before later now
            obtain rfl := List.mem_singleton.mp now
            have bound := ticks earlier before
            exact UInt32.lt_iff_toNat_lt.mpr (by omega)
          · rcases List.mem_append.mp listed with before | now
            · exact Nat.le_succ_of_le (ticks later before)
            · obtain rfl := List.mem_singleton.mp now
              exact clock.le

/-- The bridge at a message, and after captures behind it that are not sent. -/
theorem sent_waited {before silent : List (LocalPlayerObservedState F)}
    {first : LocalPlayerObservedState F} (sent : Sent cfg before first)
    (quiet : Silent (bridgeAfter cfg (before ++ [first])) silent) :
    (bridgeAfter cfg (before ++ [first])).lastEmitTick =
        (bridgeAfter cfg (before ++ [first])).observedTick ∧
      Waited (bridgeAfter cfg (before ++ [first])) first silent
        (run msbStep (bridgeAfter cfg (before ++ [first])) silent) := by
  obtain ⟨msg, reported⟩ := Option.isSome_iff_exists.mp sent
  have emitted := msbReport_some reported
  rw [← bridgeAfter_snoc] at emitted
  exact ⟨emitted.emitTick, run_waited emitted.last emitted.quiet quiet⟩

end Bridge

end F4MP.Client
