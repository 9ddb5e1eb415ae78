import F4MP.Library.Maximum
import F4MP.Library.Rational
import F4MP.Service.Aim

/-!
# The victim of a shot

In real numbers a valid shot damages the live hostile in its cone with the best score, and the first of
several.
-/

namespace F4MP.Service
open SoftFloat CFloat Protocol

section Victim
variable {s : SessionState ℝ} {msg : MsgFireIntent ℝ} {origin dir : Vec3f ℝ}

theorem considerTarget_better (origin dir : Vec3f ℝ) :
    considerTarget origin dir = Maximum.better (targetScore origin dir) := by
  funext best slot
  rw [considerTarget_eq, Maximum.better]
  cases targetScore origin dir slot.1 with
  | none => rfl
  | some score =>
      cases best with
      | none => rfl
      | some best => simp only [real_lt, decide_eq_true_eq]

theorem bestTarget_found (normalized : cgNormalize msg.direction = some dir) :
    Maximum.Found (targetScore msg.origin dir) s.actors.slots (bestTarget s msg) := by
  rw [bestTarget, normalized, Option.getD_some, considerTarget_better]
  exact Maximum.scan_found _ _

theorem targetScore_high {a : ActorRuntimeState ℝ} {score : ℝ}
    (scored : targetScore origin dir a = some score) : -1000 < score := by
  obtain ⟨_, inRange, ahead, rfl⟩ := cgTargetWithinCone_some (targetScore_live scored).2
  simp only [avDefaultCombatGeometry, real_lt, real_lit, real_sub, real_div, decide_eq_false_iff_not,
    not_lt] at inRange ahead ⊢
  generalize sqrt (cgLengthSq (vecSub a.replicatedState.position origin)) = dist at inRange ahead ⊢
  generalize cgDot dir _ = dot at ahead ⊢
  norm_num at inRange ahead ⊢
  linarith

/-- What `ac_handle_fire_intent` makes of a shot. -/
inductive Shot (s : SessionState ℝ) (msg : MsgFireIntent ℝ) : Option (FireOutcome ℝ) → Prop where
  | refused (invalid : validateFireIntent s msg = false) : Shot s msg none
  | missed (valid : validateFireIntent s msg = true) (dir : Vec3f ℝ)
      (normalized : cgNormalize msg.direction = some dir)
      (nobody : ∀ a ∈ s.actors.slots, targetScore msg.origin dir a = none) :
      Shot s msg (some (.miss s))
  | hit (valid : validateFireIntent s msg = true) (dir : Vec3f ℝ)
      (normalized : cgNormalize msg.direction = some dir) (i : Nat) (score : ℝ)
      (first : Maximum.First (targetScore msg.origin dir) s.actors.slots i score)
      (victim : ActorRuntimeState ℝ) (at_ : s.actors.slots[i]? = some victim) :
      Shot s msg (some {
        session := { s with actors := s.actors.modify i ActorRuntimeState.hit }
        damage := hitDamage msg.playerId victim
        death := if le victim.hit.replicatedState.healthNorm (lit 0 1) then
            some (hitDeath msg.playerId victim) else none })

/-- A valid shot damages the first of the best targets, whatever its score, and misses only if there is
none; it changes no other actor. -/
theorem acHandleFireIntent_victim (s : SessionState ℝ) (msg : MsgFireIntent ℝ) :
    Shot s msg (acHandleFireIntent s msg) ∧
      (∀ best ∈ bestTarget s msg, validateFireIntent s msg = true →
        le best.2 (lit (-1000) 1) = false) ∧
      ∀ outcome ∈ acHandleFireIntent s msg, ∃ i : Nat, ∀ j : Nat, j ≠ i →
        outcome.session.actors.slots[j]? = s.actors.slots[j]? := by
  cases valid : validateFireIntent s msg with
  | false =>
      have refused : acHandleFireIntent s msg = none := by
        rw [acHandleFireIntent, valid]
        rfl
      rw [refused]
      exact ⟨.refused valid, fun _ _ h => (Bool.false_ne_true h).elim, fun _ h => by cases h⟩
  | true =>
      obtain ⟨dir, normalized, _⟩ := validateFireIntent_probed valid
      have found := bestTarget_found (s := s) normalized
      cases chosen : bestTarget s msg with
      | none =>
          rw [chosen] at found
          have missed : acHandleFireIntent s msg = some (.miss s) := by
            rw [acHandleFireIntent, valid, chosen]
            rfl
          rw [missed]
          refine ⟨.missed valid dir normalized found, fun _ h => (Option.not_mem_none _ h).elim,
            fun outcome is => ⟨0, fun j _ => ?_⟩⟩
          obtain rfl := Option.some.inj is
          rfl
      | some best =>
          obtain ⟨i, score⟩ := best
          rw [chosen] at found
          obtain ⟨victim, at_, scored⟩ := Maximum.First.scored found
          have high : le score (lit (-1000) 1) = false := by
            simpa using targetScore_high scored
          have hit : acHandleFireIntent s msg = some {
              session := { s with actors := s.actors.modify i ActorRuntimeState.hit }
              damage := hitDamage msg.playerId victim
              death := if le victim.hit.replicatedState.healthNorm (lit 0 1) then
                  some (hitDeath msg.playerId victim) else none } := by
            simp only [acHandleFireIntent, valid, chosen, at_, high]
            rfl
          rw [hit]
          refine ⟨.hit valid dir normalized i score found victim at_, fun best is _ => ?_,
            fun outcome is => ⟨i, fun j other => ?_⟩⟩
          · obtain rfl := Option.some.inj is
            exact high
          · obtain rfl := Option.some.inj is
            rw [Slots.Table.slots_modify, List.getElem?_modify]
            simp only [if_neg (Ne.symm other), Option.map_eq_map, Option.map_id']

end Victim

end F4MP.Service
