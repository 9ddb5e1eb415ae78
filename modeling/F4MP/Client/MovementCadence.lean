import F4MP.Client.MovementSync

/-!
# When the movement bridge reports

Over exact rationals the bridge never lets a player drift from the last report; its forced reports do
not wait for the minimum interval.
-/

namespace F4MP.Client
open SoftFloat CFloat Protocol Service Transition

/-! ## Ticks -/

section Ticks
variable {F : Type} [CFloat F] {b : MovementSyncBridge F} {last : LocalPlayerObservedState F}

theorem passed_ticks {silent : List (LocalPlayerObservedState F)} {now : MovementSyncBridge F}
    (emitTick : b.lastEmitTick = b.observedTick) (waited : Waited b last silent now) :
    now.tick.observedTick - now.lastEmitTick = UInt32.ofNat (silent.length + 1) := by
  rw [MovementSyncBridge.tick, waited.tick, waited.emitTick, emitTick, UInt32.ofNat_add,
    UInt32.add_assoc, UInt32.add_comm, UInt32.add_sub_cancel]
  rfl

end Ticks

/-! ## Drift -/

section Drift
variable {cfg : MovementSyncBridgeConfig ℚ} {last cur : LocalPlayerObservedState ℚ}

/-- The player is where they were last, up to the tolerances. -/
structure Within (cfg : MovementSyncBridgeConfig ℚ) (last cur : LocalPlayerObservedState ℚ) :
    Prop where
  position : √(((cur.position.x - last.position.x) ^ 2 + (cur.position.y - last.position.y) ^ 2 +
    (cur.position.z - last.position.z) ^ 2 : ℚ) : ℝ) ≤ cfg.positionEpsilon
  yaw : |cur.rotation.yaw - last.rotation.yaw| ≤ cfg.rotationEpsilon
  pitch : |cur.rotation.pitch - last.rotation.pitch| ≤ cfg.rotationEpsilon
  roll : |cur.rotation.roll - last.rotation.roll| ≤ cfg.rotationEpsilon
  stance : cur.stance = last.stance
  animState : cur.animState = last.animState
  equippedFormId : cur.equippedFormId = last.equippedFormId

structure NonNegative (cfg : MovementSyncBridgeConfig ℚ) : Prop where
  position : 0 ≤ cfg.positionEpsilon
  rotation : 0 ≤ cfg.rotationEpsilon

theorem fabsf_rat (x : ℚ) : fabsf x = |x| := by
  simp only [fabsf, rat_lt, rat_lit, rat_sub, Int.cast_zero, zero_div, zero_sub,
    decide_eq_true_eq]
  split
  · exact (abs_of_neg ‹_›).symm
  · exact (abs_of_nonneg (not_lt.mp ‹_›)).symm

theorem posDistSq_rat (a b : Vec3f ℚ) :
    posDistSq a b = (a.x - b.x) ^ 2 + (a.y - b.y) ^ 2 + (a.z - b.z) ^ 2 := by
  simp only [posDistSq, sqrf, rat_add, rat_mul, rat_sub]
  ring

theorem changed_eq_false_iff (nonNegative : NonNegative cfg) :
    cfg.changed last cur = false ↔ Within cfg last cur := by
  have near : posDistSq cur.position last.position ≤ cfg.positionEpsilon * cfg.positionEpsilon ↔
      √(((cur.position.x - last.position.x) ^ 2 + (cur.position.y - last.position.y) ^ 2 +
        (cur.position.z - last.position.z) ^ 2 : ℚ) : ℝ) ≤ cfg.positionEpsilon := by
    rw [Real.sqrt_le_left (Rat.cast_nonneg.mpr nonNegative.position), posDistSq_rat, ← sq,
      ← Rat.cast_pow, Rat.cast_le]
  simp only [MovementSyncBridgeConfig.changed, Bool.or_eq_false_iff, rat_lt, rat_sub, rat_mul,
    fabsf_rat, decide_eq_false_iff_not, not_lt, bne_eq_false_iff_eq, near]
  constructor
  · rintro ⟨⟨⟨position, ⟨yaw, pitch⟩, roll⟩, stance, animState⟩, equippedFormId⟩
    exact ⟨position, yaw, pitch, roll, stance, animState, equippedFormId⟩
  · rintro ⟨position, yaw, pitch, roll, stance, animState, equippedFormId⟩
    exact ⟨⟨⟨position, ⟨yaw, pitch⟩, roll⟩, stance, animState⟩, equippedFormId⟩

/-- What holds of the reports of a run. -/
structure Reported (cfg : Option (MovementSyncBridgeConfig ℚ))
    (captures : List (LocalPlayerObservedState ℚ)) : Prop where
  near : ∀ before first silent cur after, captures = before ++ first :: (silent ++ cur :: after) →
    Sent cfg before first → Silent (bridgeAfter cfg (before ++ [first])) (silent ++ [cur]) →
      Within (msbInit cfg).cfg first cur ∨
        silent.length + 1 < (msbInit cfg).cfg.minSendIntervalTicks.toNat
  refreshed : (msbInit cfg).cfg.forceResendTicks ≠ 0 →
    ∀ before first silent after, captures = before ++ first :: (silent ++ after) →
      Sent cfg before first → Silent (bridgeAfter cfg (before ++ [first])) silent →
        (unchanged (msbInit cfg).cfg first silent).length ≤
          (msbInit cfg).cfg.forceResendTicks.toNat - 1
  sequence : (messages cfg captures).map (·.stateSequence.toNat) =
    List.range' 1 (messages cfg captures).length
  tick : (messages cfg captures).Pairwise fun a b => a.observedTick < b.observedTick

/-- The bridge never lets the player drift from the last report for longer than the minimum interval,
reports a player at rest again and again, and numbers its reports. -/
theorem bridge_reported (cfg : Option (MovementSyncBridgeConfig ℚ))
    (nonNegative : NonNegative (msbInit cfg).cfg) (captures : List (LocalPlayerObservedState ℚ))
    (few : captures.length < 2 ^ 32) : Reported cfg captures := by
  obtain ⟨sequence, tick, _, _⟩ := @messages_numbered _ _ cfg captures few
  refine ⟨fun before first silent cur after split sent quiet => ?_,
    fun forced before first silent after _ sent quiet => ?_, sequence, tick⟩
  · obtain ⟨quiet, nothing⟩ := silent_snoc.mp quiet
    obtain ⟨emitTick, waited⟩ := sent_waited sent quiet
    have sameCfg := waited.cfg.trans (bridgeAfter_counts cfg (before ++ [first])).1
    have length := congrArg List.length split
    simp only [List.length_append, List.length_cons] at length
    generalize run msbStep (bridgeAfter cfg (before ++ [first])) silent = now at *
    cases msbBuild_outcome waited.known cur with
    | limited _ early =>
        have soon : now.tick.observedTick - now.lastEmitTick <
            now.cfg.minSendIntervalTicks := by
          simp only [MovementSyncBridge.limited, Bool.and_eq_true, decide_eq_true_eq] at early
          exact early.2
        rw [passed_ticks emitTick waited, sameCfg, UInt32.lt_iff_toNat_lt, UInt32.toNat_ofNat',
          Nat.mod_eq_of_lt (by omega)] at soon
        exact .inr soon
    | still same | quiet same =>
        rw [sameCfg] at same
        exact .inl ((changed_eq_false_iff nonNegative).mp same)
    | refreshed _ _ _ something | changed _ _ something =>
        rw [nothing] at something
        cases something
  · obtain ⟨_, waited⟩ := sent_waited sent quiet
    have sameCfg := (bridgeAfter_counts cfg (before ++ [first])).1
    have few := (waited.quiet (sameCfg ▸ forced)).2
    rw [sameCfg] at few
    exact Nat.le_sub_one_of_lt few

theorem bridge_reported_two : Reported (some ⟨1 / 50, 1, true, 20, 2⟩)
    [⟨1, ⟨0, 0, 0⟩, ⟨0, 0, 0⟩, ⟨0, 0, 0⟩, 0, 0, 0⟩, ⟨1, ⟨1 / 100, 0, 0⟩, ⟨0, 0, 0⟩, ⟨0, 0, 0⟩, 0, 0, 0⟩] :=
  bridge_reported _ ⟨by norm_num [msbInit], by norm_num [msbInit]⟩ _ (by decide)

end Drift

/-! ## The minimum interval -/

section Interval
variable {F : Type} [CFloat F] {b : MovementSyncBridge F} {last cur : LocalPlayerObservedState F}
  {cfg : Option (MovementSyncBridgeConfig F)} {captures : List (LocalPlayerObservedState F)}

/-- Consecutive reports are the minimum interval apart. -/
def Spaced (cfg : Option (MovementSyncBridgeConfig F))
    (captures : List (LocalPlayerObservedState F)) : Prop :=
  ∀ before first silent second after, captures = before ++ first :: (silent ++ second :: after) →
    Sent cfg before first → Silent (bridgeAfter cfg (before ++ [first])) silent →
      Sent cfg (before ++ first :: silent) second →
        (msbInit cfg).cfg.minSendIntervalTicks.toNat ≤ silent.length + 1

/-- Less than the minimum interval after a report, either a refresh is due, or the player has changed and
the tick of that report is 0. -/
def Early (b : MovementSyncBridge F) (cur : LocalPlayerObservedState F) : Prop :=
  ∃ last, b.last = some last ∧
    b.tick.observedTick - b.lastEmitTick < b.cfg.minSendIntervalTicks ∧
      (b.cfg.changed last cur = true ∧ b.lastEmitTick = 0 ∨
        b.cfg.changed last cur = false ∧ b.cfg.forceResendTicks ≠ 0 ∧
          b.cfg.forceResendTicks ≤ b.quietTicks + 1)

omit [CFloat F] in
theorem limited_false (free : b.limited = false)
    (soon : b.observedTick - b.lastEmitTick < b.cfg.minSendIntervalTicks) : b.lastEmitTick = 0 := by
  have some_ : 0 < b.cfg.minSendIntervalTicks := UInt32.lt_of_le_of_lt UInt32.zero_le soon
  by_contra other
  simp [MovementSyncBridge.limited, some_, other, soon] at free

theorem bridgeAfter_append (cfg : Option (MovementSyncBridgeConfig F))
    (before silent : List (LocalPlayerObservedState F)) (first : LocalPlayerObservedState F) :
    bridgeAfter cfg (before ++ first :: silent) =
      run msbStep (bridgeAfter cfg (before ++ [first])) silent := by
  rw [bridgeAfter, bridgeAfter, ← run_append, List.append_assoc]
  rfl

theorem spaced_of_not_early
    (never : Along msbStep (fun b cur => ¬Early b cur) (msbInit cfg) captures) :
    Spaced cfg captures := by
  rintro before first silent second after rfl sent quiet sent'
  have notEarly := along_iff.mp never (before ++ first :: silent) second after (by simp)
  obtain ⟨emitTick, waited⟩ := sent_waited sent quiet
  have passed := passed_ticks emitTick waited
  have sameCfg := waited.cfg.trans (bridgeAfter_counts cfg (before ++ [first])).1
  rw [Sent, bridgeAfter_append] at sent'
  rw [← bridgeAfter, bridgeAfter_append] at notEarly
  generalize run msbStep (bridgeAfter cfg (before ++ [first])) silent = now at *
  by_contra close
  have soon : now.tick.observedTick - now.lastEmitTick < now.cfg.minSendIntervalTicks := by
    rw [passed, sameCfg, UInt32.lt_iff_toNat_lt, UInt32.toNat_ofNat']
    exact lt_of_le_of_lt (Nat.mod_le _ _) (Nat.not_le.mp close)
  cases msbBuild_outcome waited.known second with
  | limited _ _ nothing | still _ _ nothing | quiet _ _ nothing =>
      rw [nothing] at sent'
      cases sent'
  | refreshed same forced due => exact notEarly ⟨first, waited.known, soon, .inr ⟨same, forced, due⟩⟩
  | changed moved free =>
      have zero : now.lastEmitTick = 0 := @limited_false _ now.tick free soon
      exact notEarly ⟨first, waited.known, soon, .inl ⟨moved, zero⟩⟩

theorem unchanged_replicate {config : MovementSyncBridgeConfig F}
    (same : config.changed last cur = false) (k : Nat) :
    (unchanged config last (List.replicate k cur)).length = k := by
  rw [unchanged, List.filter_eq_self.mpr, List.length_replicate]
  intro a listed
  rw [List.eq_of_mem_replicate listed, same]
  rfl

/-- A player that does not change is not reported before the refresh is due. -/
theorem replicate_silent (known : b.last = some last) (fresh : b.quietTicks = 0)
    (same : b.cfg.changed last cur = false) (forced : b.cfg.forceResendTicks ≠ 0) {k : Nat}
    (waits : k < b.cfg.forceResendTicks.toNat) : Silent b (List.replicate k cur) := by
  induction k with
  | zero => rfl
  | succ k ih =>
      have before := ih (Nat.lt_of_succ_lt waits)
      have waited := run_waited known fresh before
      refine List.replicate_succ' ▸ silent_snoc.mpr ⟨before, ?_⟩
      have counted := (waited.quiet forced).1
      rw [unchanged_replicate same] at counted
      have bound := b.cfg.forceResendTicks.toNat_lt
      cases msbBuild_outcome waited.known cur with
      | limited _ _ nothing | still _ _ nothing | quiet _ _ nothing => exact nothing
      | refreshed _ _ due =>
          rw [waited.cfg, UInt32.le_iff_toNat_le, UInt32.toNat_add, counted] at due
          rw [show (1 : UInt32).toNat = 1 from rfl] at due
          omega
      | changed moved =>
          rw [waited.cfg, same] at moved
          cases moved

/-- A player that does not change is reported when the refresh is due. -/
theorem replicate_refreshed (known : b.last = some last) (fresh : b.quietTicks = 0)
    (same : b.cfg.changed last cur = false) (forced : b.cfg.forceResendTicks ≠ 0) {k : Nat}
    (due : k + 1 = b.cfg.forceResendTicks.toNat) :
    (msbReport (run msbStep b (List.replicate k cur)) cur).isSome := by
  have silent := replicate_silent known fresh same forced (k := k) (by omega)
  have waited := run_waited known fresh silent
  have counted := (waited.quiet forced).1
  rw [unchanged_replicate same] at counted
  have bound := b.cfg.forceResendTicks.toNat_lt
  cases msbBuild_outcome waited.known cur with
  | limited moved =>
      rw [waited.cfg, same] at moved
      cases moved
  | still _ unforced => exact absurd (waited.cfg ▸ unforced) forced
  | quiet _ waits =>
      rw [waited.cfg, UInt32.lt_iff_toNat_lt, UInt32.toNat_add, counted] at waits
      rw [show (1 : UInt32).toNat = 1 from rfl] at waits
      omega
  | refreshed _ _ _ something | changed _ _ something => exact something

theorem last_sent (known : (bridgeAfter cfg captures).last = some last) :
    ∃ before silent, captures = before ++ last :: silent ∧ Sent cfg before last ∧
      Silent (bridgeAfter cfg (before ++ [last])) silent := by
  induction captures using List.reverseRecOn with
  | nil => cases known
  | append_singleton captures cur ih =>
      rw [bridgeAfter_snoc] at known
      cases reported : msbReport (bridgeAfter cfg captures) cur with
      | some msg =>
          have emitted := msbReport_some reported
          obtain rfl := Option.some.inj (emitted.last.symm.trans known)
          exact ⟨captures, [], rfl, Option.isSome_iff_exists.mpr ⟨msg, reported⟩, rfl⟩
      | none =>
          obtain ⟨before, silent, rfl, sent, quiet⟩ := ih ((msbReport_none reported).2.1 ▸ known)
          refine ⟨before, silent ++ [cur], by simp, sent, silent_snoc.mpr ⟨quiet, ?_⟩⟩
          rwa [← bridgeAfter_append]

theorem early_reported (early : Early b cur) : (msbReport b cur).isSome := by
  obtain ⟨last, known, soon, ⟨moved, zero⟩ | ⟨same, forced, due⟩⟩ := early
  · cases msbBuild_outcome known cur with
    | limited _ early =>
        have zero : b.tick.lastEmitTick = 0 := zero
        simp [MovementSyncBridge.limited, zero] at early
    | still same | quiet same | refreshed same =>
        rw [moved] at same
        cases same
    | changed _ _ something => exact something
  · cases msbBuild_outcome known cur with
    | limited moved | changed moved =>
        rw [same] at moved
        cases moved
    | still _ unforced => exact absurd unforced forced
    | quiet _ waits => exact absurd due (UInt32.not_le.mpr waits)
    | refreshed _ _ _ something => exact something

/-- What an early capture says of the run before it. -/
theorem early_split (few : captures.length < 2 ^ 32) (early : Early (bridgeAfter cfg captures) cur) :
    ∃ before last silent, captures = before ++ last :: silent ∧ Sent cfg before last ∧
      Silent (bridgeAfter cfg (before ++ [last])) silent ∧
      silent.length + 1 < (msbInit cfg).cfg.minSendIntervalTicks.toNat ∧
      (msbInit cfg).cfg.changed last cur = false ∧ (msbInit cfg).cfg.forceResendTicks ≠ 0 ∧
      (msbInit cfg).cfg.forceResendTicks.toNat ≤ silent.length + 1 := by
  obtain ⟨last, known, soon, reason⟩ := early
  obtain ⟨before, silent, rfl, sent, quiet⟩ := last_sent known
  have length : before.length + (silent.length + 1) < 2 ^ 32 := by
    simpa only [List.length_append, List.length_cons] using few
  obtain ⟨emitTick, waited⟩ := sent_waited sent quiet
  obtain ⟨sameCfg, -, tick⟩ := bridgeAfter_counts cfg (before ++ [last])
  rw [bridgeAfter_append] at soon reason
  have passed := passed_ticks emitTick waited
  rw [MovementSyncBridge.tick] at passed soon
  rw [passed, waited.cfg, sameCfg, UInt32.lt_iff_toNat_lt, UInt32.toNat_ofNat',
    Nat.mod_eq_of_lt (by omega)] at soon
  rcases reason with ⟨-, zero⟩ | ⟨same, forced, due⟩
  · have nonzero := congrArg UInt32.toNat (waited.emitTick.symm.trans zero)
    rw [emitTick, tick, UInt32.toNat_ofNat', List.length_append, List.length_singleton,
      Nat.mod_eq_of_lt (by omega)] at nonzero
    cases nonzero
  · rw [waited.cfg, sameCfg] at same forced due
    refine ⟨before, last, silent, rfl, sent, quiet, soon, same, forced, ?_⟩
    obtain ⟨counted, small⟩ := waited.quiet (sameCfg.symm ▸ forced)
    have fewer := List.length_filter_le
      (fun cur => !(bridgeAfter cfg (before ++ [last])).cfg.changed last cur) silent
    rw [← unchanged] at fewer
    rw [UInt32.le_iff_toNat_le, UInt32.toNat_add, counted] at due
    exact (due.trans (Nat.mod_le _ _)).trans (Nat.succ_le_succ fewer)

theorem not_early_of_spaced (few : captures.length < 2 ^ 32) (spaced : Spaced cfg captures) :
    Along msbStep (fun b cur => ¬Early b cur) (msbInit cfg) captures := by
  refine along_iff.mpr ?_
  rintro front cur after rfl early
  rw [List.length_append] at few
  have reported := early_reported early
  obtain ⟨before, last, silent, rfl, sent, quiet, close, -⟩ := early_split (by omega) early
  have apart := spaced before last silent cur after (by simp) sent quiet reported
  exact absurd close (Nat.not_lt.mpr apart)

/-- The bridge keeps the minimum interval as long as no capture is early; it always does so exactly
if refreshes are off, or rarer than the interval. -/
theorem bridge_spaced_iff (cfg : Option (MovementSyncBridgeConfig F)) :
    (∀ captures, Along msbStep (fun b cur => ¬Early b cur) (msbInit cfg) captures →
      Spaced cfg captures) ∧
    (∀ captures, captures.length < 2 ^ 32 → (Spaced cfg captures ↔
      Along msbStep (fun b cur => ¬Early b cur) (msbInit cfg) captures)) ∧
    ((∀ captures, captures.length < 2 ^ 32 → Spaced cfg captures) ↔
      (msbInit cfg).cfg.forceResendTicks = 0 ∨
        (msbInit cfg).cfg.minSendIntervalTicks ≤ (msbInit cfg).cfg.forceResendTicks ∨
        ∀ last cur, (msbInit cfg).cfg.changed last cur = true) := by
  refine ⟨fun _ => spaced_of_not_early, fun captures few =>
    ⟨not_early_of_spaced few, spaced_of_not_early⟩, fun always => ?_, fun safe captures few => ?_⟩
  · by_contra unsafe_
    rw [not_or, not_or] at unsafe_
    obtain ⟨forced, rare, still⟩ := unsafe_
    push Not at still
    obtain ⟨last, cur, same⟩ := still
    have same : (msbInit cfg).cfg.changed last cur = false := (Bool.not_eq_true _).mp same
    have rare := UInt32.lt_iff_toNat_lt.mp (UInt32.not_le.mp rare)
    have bound := (msbInit cfg).cfg.minSendIntervalTicks.toNat_lt
    obtain ⟨k, due⟩ := Nat.exists_eq_succ_of_ne_zero
      (fun zero => forced (UInt32.toNat.inj zero) :
        (msbInit cfg).cfg.forceResendTicks.toNat ≠ 0)
    have first : Sent cfg [] last := msbReport_first rfl last
    obtain ⟨msg, reported⟩ := Option.isSome_iff_exists.mp first
    have emitted := msbReport_some reported
    have sameCfg := emitted.cfg
    have sent : Sent cfg ([] ++ last :: List.replicate k cur) cur :=
      replicate_refreshed (b := bridgeAfter cfg [last]) emitted.last emitted.quiet
        (sameCfg.symm ▸ same) (sameCfg.symm ▸ forced) (sameCfg.symm ▸ due.symm)
    have apart := always (last :: (List.replicate k cur ++ [cur])) (by simp; omega) [] last
      (List.replicate k cur) cur [] (by simp) first
      (replicate_silent emitted.last emitted.quiet (sameCfg.symm ▸ same) (sameCfg.symm ▸ forced)
        (sameCfg.symm ▸ due.symm ▸ Nat.lt_succ_self k)) sent
    rw [List.length_replicate] at apart
    omega
  · refine spaced_of_not_early (along_iff.mpr ?_)
    rintro front cur after rfl early
    rw [List.length_append] at few
    obtain ⟨before, last, silent, -, -, -, close, same, forced, due⟩ :=
      early_split (by omega) early
    rcases safe with unforced | rare | moved
    · exact forced unforced
    · have rare := UInt32.le_iff_toNat_le.mp rare
      omega
    · rw [moved] at same
      cases same

/-- Reports of a player at rest, one tick apart where two were asked for. -/
theorem not_spaced : ¬Spaced (F := Binary32)
    (some ⟨lit 2 100, lit 1 1, true, 1, 2⟩)
    (List.replicate 2 ⟨1, ⟨lit 0 1, lit 0 1, lit 0 1⟩, ⟨lit 0 1, lit 0 1, lit 0 1⟩,
      ⟨lit 0 1, lit 0 1, lit 0 1⟩, 0, 0, 0⟩) := by
  intro spaced
  have apart := spaced [] _ [] _ [] rfl (by unfold Sent; decide +kernel) rfl
    (by unfold Sent; decide +kernel)
  exact absurd apart (by decide +kernel)

end Interval

end F4MP.Client
