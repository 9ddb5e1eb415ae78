import F4MP.Library.Transition
import F4MP.Service.Policy

/-!
# The order of relayed states

The relay filter over a whole stream: its two memories bound every counted message that it let
through.
-/

namespace F4MP.Service
open Protocol Transition

variable {F : Type} {stats : PlayerStateRelayStats} {msg : MsgPlayerState F}

/-! ## One message -/

theorem psrEvaluate_accept (accepted : (psrEvaluate stats msg).1 = .accept) :
    ¬ (msg.stateSequence ≠ 0 ∧ stats.lastSequence ≠ 0 ∧ msg.stateSequence < stats.lastSequence) ∧
      ¬ (msg.stateSequence ≠ 0 ∧ msg.stateSequence = stats.lastSequence ∧ msg.observedTick ≠ 0 ∧
        stats.lastObservedTick ≠ 0 ∧ msg.observedTick ≤ stats.lastObservedTick) ∧
      ¬ (msg.observedTick ≠ 0 ∧ stats.lastObservedTick ≠ 0 ∧
        msg.observedTick < stats.lastObservedTick) ∧
      (psrEvaluate stats msg).2 = { stats with
        acceptedCount := stats.acceptedCount + 1
        lastSequence := if msg.stateSequence ≠ 0 then msg.stateSequence else stats.lastSequence
        lastObservedTick := if msg.observedTick ≠ 0 then msg.observedTick
          else stats.lastObservedTick } := by
  unfold psrEvaluate at accepted ⊢
  split
  · rename_i older
    rw [if_pos older] at accepted
    cases accepted
  · rename_i fresh
    rw [if_neg fresh] at accepted
    split
    · rename_i again
      rw [if_pos again] at accepted
      cases accepted
    · rename_i later
      rw [if_neg later] at accepted
      split
      · rename_i backward
        rw [if_pos backward] at accepted
        cases accepted
      · rename_i forward
        exact ⟨fresh, later, forward, rfl⟩

theorem psrEvaluate_accepted (accepted : (psrEvaluate stats msg).1 = .accept) :
    (msg.stateSequence ≠ 0 → stats.lastSequence ≤ msg.stateSequence) ∧
      (msg.observedTick ≠ 0 → stats.lastObservedTick ≤ msg.observedTick) ∧
      (msg.stateSequence ≠ 0 → msg.observedTick ≠ 0 → stats.lastObservedTick ≠ 0 →
        msg.stateSequence = stats.lastSequence → stats.lastObservedTick < msg.observedTick) := by
  obtain ⟨ahead, moved, later, _⟩ := psrEvaluate_accept accepted
  refine ⟨fun numbered => ?_, fun ticked => ?_, fun numbered ticked known same => ?_⟩
  · by_contra behind
    have older := UInt32.not_le.mp behind
    exact ahead ⟨numbered, fun zero => UInt32.not_lt_zero (zero ▸ older), older⟩
  · by_contra behind
    have older := UInt32.not_le.mp behind
    exact later ⟨ticked, fun zero => UInt32.not_lt_zero (zero ▸ older), older⟩
  · by_contra stuck
    exact moved ⟨numbered, same, ticked, known, UInt32.not_lt.mp stuck⟩

theorem psrEvaluate_refused (refused : (psrEvaluate stats msg).1 ≠ .accept) :
    (psrEvaluate stats msg).2 = { stats with rejectedStaleCount := stats.rejectedStaleCount + 1 } ∨
      (psrEvaluate stats msg).2 =
        { stats with rejectedRegressiveTickCount := stats.rejectedRegressiveTickCount + 1 } := by
  unfold psrEvaluate at refused ⊢
  split
  · exact .inl rfl
  · rename_i ahead
    rw [if_neg ahead] at refused
    split
    · exact .inl rfl
    · rename_i moved
      rw [if_neg moved] at refused
      split
      · exact .inr rfl
      · rename_i later
        rw [if_neg later] at refused
        exact absurd rfl refused

/-- Every message is counted once. -/
def PlayerStateRelayStats.counted (stats : PlayerStateRelayStats) : UInt32 :=
  stats.acceptedCount + stats.rejectedStaleCount + stats.rejectedRegressiveTickCount

theorem psrEvaluate_counts (stats : PlayerStateRelayStats) (msg : MsgPlayerState F) :
    (psrEvaluate stats msg).2.counted = stats.counted + 1 := by
  by_cases accepted : (psrEvaluate stats msg).1 = .accept
  · rw [(psrEvaluate_accept accepted).2.2.2]
    simp only [PlayerStateRelayStats.counted]
    ac_rfl
  · rcases psrEvaluate_refused accepted with counted | counted <;>
      rw [counted] <;> simp only [PlayerStateRelayStats.counted] <;> ac_rfl

/-! ## A stream -/

def psrInit : PlayerStateRelayStats := {}

def psrStep (stats : PlayerStateRelayStats) (msg : MsgPlayerState F) : PlayerStateRelayStats :=
  (psrEvaluate stats msg).2

def psrAccepts (stats : PlayerStateRelayStats) (msg : MsgPlayerState F) :
    Option (MsgPlayerState F) :=
  if (psrEvaluate stats msg).1 = .accept then some msg else none

/-- The messages of a stream that are accepted. -/
def acceptedStates (msgs : List (MsgPlayerState F)) : List (MsgPlayerState F) :=
  emitted psrStep psrAccepts psrInit msgs

/-- A message with a sequence and a tick. -/
def numbered (msg : MsgPlayerState F) : Bool := msg.stateSequence != 0 && msg.observedTick != 0

/-- `later` is ahead of `earlier` in one number, and behind it in none. -/
structure ComesAfter (earlier later : MsgPlayerState F) : Prop where
  sequence : earlier.stateSequence ≤ later.stateSequence
  tick : earlier.observedTick ≤ later.observedTick
  moved : ¬(earlier.stateSequence = later.stateSequence ∧ earlier.observedTick = later.observedTick)

/-- The memories of a filter are not behind any numbered message that it has accepted. -/
def Covers (stats : PlayerStateRelayStats) (accepted : List (MsgPlayerState F)) : Prop :=
  ∀ msg ∈ accepted, numbered msg = true →
    msg.stateSequence ≤ stats.lastSequence ∧ msg.observedTick ≤ stats.lastObservedTick

theorem numbered_iff : numbered msg = true ↔ msg.stateSequence ≠ 0 ∧ msg.observedTick ≠ 0 := by
  rw [numbered, Bool.and_eq_true, bne_iff_ne, bne_iff_ne]

/-- The memories only grow, and an accepted message does not stay ahead of them. -/
theorem Covers.accept {accepted : List (MsgPlayerState F)} (covers : Covers stats accepted)
    (admitted : (psrEvaluate stats msg).1 = .accept) :
    Covers (psrStep stats msg) (accepted ++ [msg]) := by
  obtain ⟨sequence, tick, _⟩ := psrEvaluate_accepted admitted
  have after := (psrEvaluate_accept admitted).2.2.2
  have lastSequence : stats.lastSequence ≤ (psrStep stats msg).lastSequence := by
    rw [psrStep, after]
    dsimp only
    split
    · exact sequence ‹_›
    · exact UInt32.le_refl _
  have lastTick : stats.lastObservedTick ≤ (psrStep stats msg).lastObservedTick := by
    rw [psrStep, after]
    dsimp only
    split
    · exact tick ‹_›
    · exact UInt32.le_refl _
  intro earlier listed counts
  rcases List.mem_append.mp listed with before | now
  · obtain ⟨covered, covered'⟩ := covers earlier before counts
    exact ⟨UInt32.le_trans covered lastSequence, UInt32.le_trans covered' lastTick⟩
  · obtain rfl := List.mem_singleton.mp now
    obtain ⟨some_, some'⟩ := numbered_iff.mp counts
    rw [psrStep, after]
    dsimp only
    rw [if_pos some_, if_pos some']
    exact ⟨UInt32.le_refl _, UInt32.le_refl _⟩

/-- What is accepted comes after all that was. -/
theorem Covers.comesAfter {accepted : List (MsgPlayerState F)} (covers : Covers stats accepted)
    (admitted : (psrEvaluate stats msg).1 = .accept) (counts : numbered msg = true)
    {earlier : MsgPlayerState F} (listed : earlier ∈ accepted) (counted : numbered earlier = true) :
    ComesAfter earlier msg := by
  obtain ⟨sequence, tick, moved⟩ := psrEvaluate_accepted admitted
  obtain ⟨some_, some'⟩ := numbered_iff.mp counts
  obtain ⟨_, ticked⟩ := numbered_iff.mp counted
  obtain ⟨covered, covered'⟩ := covers earlier listed counted
  refine ⟨UInt32.le_trans covered (sequence some_), UInt32.le_trans covered' (tick some'), ?_⟩
  rintro ⟨sameSequence, sameTick⟩
  have known : stats.lastObservedTick ≠ 0 := by
    intro zero
    rw [zero] at covered'
    exact ticked (UInt32.le_zero_iff.mp covered')
  have repeats : msg.stateSequence = stats.lastSequence :=
    UInt32.le_antisymm (sameSequence ▸ covered) (sequence some_)
  have ahead := moved some_ some' known repeats
  rw [← sameTick] at ahead
  exact UInt32.not_lt.mpr covered' ahead

theorem acceptedStates_snoc (msgs : List (MsgPlayerState F)) (msg : MsgPlayerState F) :
    acceptedStates (msgs ++ [msg]) =
      acceptedStates msgs ++ (psrAccepts (run psrStep psrInit msgs) msg).toList := by
  rw [acceptedStates, emitted_append]
  simp only [emitted, List.append_nil]
  rfl

theorem run_covers (msgs : List (MsgPlayerState F)) :
    Covers (run psrStep psrInit msgs) (acceptedStates msgs) := by
  induction msgs using List.reverseRecOn with
  | nil => exact fun _ listed => by cases listed
  | append_singleton msgs msg ih =>
      rw [acceptedStates_snoc, run_snoc, psrAccepts]
      split
      · rename_i admitted
        exact ih.accept admitted
      · rename_i refused
        rw [Option.toList_none, List.append_nil, psrStep]
        rcases psrEvaluate_refused refused with same | same <;> rw [same] <;> exact ih

/-- The numbered messages that the filter accepts are in strict order, and every message is counted in
one of the three counters. -/
theorem acceptedStates_ordered (msgs : List (MsgPlayerState F)) :
    ((acceptedStates msgs).filter numbered).Pairwise ComesAfter ∧
      (run psrStep psrInit msgs).counted = UInt32.ofNat msgs.length := by
  induction msgs using List.reverseRecOn with
  | nil => exact ⟨.nil, rfl⟩
  | append_singleton msgs msg ih =>
      obtain ⟨ordered, counted⟩ := ih
      constructor
      · rw [acceptedStates_snoc, List.filter_append, List.pairwise_append]
        refine ⟨ordered, ?_, fun earlier before later now => ?_⟩
        · rw [psrAccepts]
          split
          · exact (List.pairwise_singleton _ msg).sublist List.filter_sublist
          · exact .nil
        · obtain ⟨before, counts⟩ := List.mem_filter.mp before
          obtain ⟨now, counts'⟩ := List.mem_filter.mp now
          rw [psrAccepts] at now
          split at now
          · rename_i admitted
            obtain rfl := List.mem_singleton.mp now
            exact (run_covers msgs).comesAfter admitted counts' before counts
          · cases now
      · rw [run_snoc, psrStep, psrEvaluate_counts, counted, List.length_append,
          List.length_singleton, UInt32.ofNat_add]
        rfl

end F4MP.Service
