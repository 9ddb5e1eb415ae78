import F4MP.Service.Quest

/-!
# Quest progress

Between two accepted updates the mirror only moves on, and a rejected one leaves it alone.
-/

namespace F4MP.Service
open SoftFloat Protocol Transition

variable {F : Type}

/-! ## One update -/

section Update
variable {quest early late : SessionQuestState} {id : ObjectiveId} {state : UInt8}
  {s : ServiceState F} {e : ServiceEvent F}

/-- A quest that is named has been mirrored, and its objectives are in one of the three states. -/
structure SessionQuestState.Sound (quest : SessionQuestState) : Prop where
  loaded : quest.questId ≠ 0 → quest.loaded = true
  cap : quest.objectiveCount.toNat ≤ maxQuestObjectives
  valid : ∀ i : Fin maxQuestObjectives, i.val < quest.objectiveCount.toNat →
    objectiveStateValid (quest.objectives i).state = true

/-- A quest once named is not exchanged for another one, and its stage does not go back. -/
def SessionQuestState.FollowedBy (early late : SessionQuestState) : Prop :=
  early.questId ≠ 0 → late.questId = early.questId ∧ early.stage ≤ late.stage

/-- The quest lists the objective at one place, and there in this state. -/
def SessionQuestState.ListsOnce (quest : SessionQuestState) (id : ObjectiveId) (state : UInt8) :
    Prop :=
  ∃ i : Fin maxQuestObjectives, (quest.objectives i).state = state ∧
    ∀ j : Fin maxQuestObjectives, j.val < quest.objectiveCount.toNat ∧
      (quest.objectives j).objectiveId = id ↔ j = i

/-- Of the same quest, an objective that both list once is as it was, or no longer active. -/
def SessionQuestState.ProgressesTo (early late : SessionQuestState) : Prop :=
  late.questId = early.questId → ∀ id oldState newState,
    early.ListsOnce id oldState → late.ListsOnce id newState →
      newState = oldState ∨ oldState = QuestObjectiveState.active ∧ FinishedState newState

theorem SessionQuestState.ListsOnce.lists (once : quest.ListsOnce id state) :
    quest.Lists id state := by
  obtain ⟨i, here, only⟩ := once
  obtain ⟨inCount, same⟩ := (only i).mpr rfl
  exact ⟨i, inCount, same, here⟩

theorem SessionQuestState.ListsOnce.unique {other : UInt8} (once : quest.ListsOnce id state)
    (lists : quest.Lists id other) : other = state := by
  obtain ⟨i, here, only⟩ := once
  obtain ⟨j, inCount, same, there⟩ := lists
  obtain rfl := (only j).mp ⟨inCount, same⟩
  exact there.symm.trans here

theorem SessionQuestState.ListsOnce.findObjective (once : quest.ListsOnce id state) :
    ∃ o ∈ findObjective quest id, o.state = state := by
  cases found : Service.findObjective quest id with
  | none => exact absurd once.lists (findObjective_none found)
  | some o => exact ⟨o, rfl, once.unique (findObjective_lists found)⟩

theorem SessionQuestState.Sound.lists_valid (sound : quest.Sound) (lists : quest.Lists id state) :
    objectiveStateValid state = true := by
  obtain ⟨i, inCount, _, rfl⟩ := lists
  exact sound.valid i inCount

theorem objectiveTransitionValid_iff {oldState newState : UInt8} :
    objectiveTransitionValid oldState newState = true ↔
      newState = oldState ∨ oldState = QuestObjectiveState.active ∧ FinishedState newState := by
  simp only [objectiveTransitionValid, FinishedState, Bool.or_eq_true, Bool.and_eq_true,
    beq_iff_eq]
  exact or_congr_left eq_comm

theorem SessionQuestState.FollowedBy.refl (quest : SessionQuestState) : quest.FollowedBy quest :=
  fun _ => ⟨rfl, UInt16.le_refl _⟩

theorem SessionQuestState.FollowedBy.trans {middle : SessionQuestState}
    (first : early.FollowedBy middle) (second : middle.FollowedBy late) : early.FollowedBy late := by
  intro named
  obtain ⟨sameFirst, upFirst⟩ := first named
  obtain ⟨sameSecond, upSecond⟩ := second (sameFirst ▸ named)
  exact ⟨sameSecond.trans sameFirst, UInt16.le_trans upFirst upSecond⟩

variable [CFloat F] [WireFloat F]

theorem mirroredQuest_sound (mirrored : quest ∈ mirroredQuest s e) (counted : e.Counted) :
    quest.Sound := by
  obtain ⟨questId, stage, tracked, objs, texts, count, rfl, accepted, rfl, _, mirrors⟩ :=
    mirroredQuest_some mirrored counted
  obtain ⟨_, _, _, _, unobjected⟩ := (qmpValidateUpdate_accepted_iff _ _ _).mp accepted
  refine ⟨fun _ => rfl, mirrors.count.trans_le mirrors.cap, fun i inCount => ?_⟩
  obtain ⟨record, member, _, same⟩ := mirrors.lists_iff.mp ⟨i, inCount, rfl, rfl⟩
  rw [← same]
  exact ((qmpObjectiveReason_none_iff _ _ _).mp (unobjected record member)).1

theorem mirroredQuest_follows (sound : s.session.quest.Sound) (mirrored : quest ∈ mirroredQuest s e)
    (counted : e.Counted) : s.session.quest.FollowedBy quest := by
  obtain ⟨questId, stage, tracked, objs, texts, count, rfl, accepted, rfl, _, _⟩ :=
    mirroredQuest_some mirrored counted
  obtain ⟨_, _, another, upToDate, _⟩ := (qmpValidateUpdate_accepted_iff _ _ _).mp accepted
  intro named
  have loaded := sound.loaded named
  have same := (another loaded).resolve_left named
  exact ⟨same.symm, upToDate loaded same⟩

theorem mirroredQuest_progresses (loaded : s.session.quest.loaded = true)
    (mirrored : quest ∈ mirroredQuest s e) (counted : e.Counted) :
    s.session.quest.ProgressesTo quest := by
  obtain ⟨questId, stage, tracked, objs, texts, count, rfl, accepted, rfl, _, mirrors⟩ :=
    mirroredQuest_some mirrored counted
  obtain ⟨_, _, _, _, unobjected⟩ := (qmpValidateUpdate_accepted_iff _ _ _).mp accepted
  intro same id oldState newState before after
  obtain ⟨record, member, rfl, rfl⟩ := mirrors.lists_iff.mp after.lists
  obtain ⟨o, found, rfl⟩ := before.findObjective
  have compared := ((qmpObjectiveReason_none_iff _ _ _).mp (unobjected record member)).2
  exact objectiveTransitionValid_iff.mp (compared loaded same.symm o found)

theorem mirroredQuest_loaded (mirrored : quest ∈ mirroredQuest s e) (counted : e.Counted) :
    quest.loaded = true := by
  obtain ⟨_, _, _, _, _, _, _, _, rfl, _, _⟩ := mirroredQuest_some mirrored counted
  rfl

end Update

/-! ## Runs -/

section Runs
variable [CFloat F] [WireFloat F] [LawfulWireFloat F] {s : ServiceState F} {e : ServiceEvent F}
  {events : List (ServiceEvent F)} {quest : SessionQuestState}

theorem serviceStep_questSound (sound : s.session.quest.Sound) (counted : e.Counted) :
    (serviceStep s e).session.quest.Sound ∧
      s.session.quest.FollowedBy (serviceStep s e).session.quest := by
  rw [serviceStep_quest s counted]
  cases mirrored : mirroredQuest s e with
  | none => exact ⟨sound, .refl _⟩
  | some quest =>
      exact ⟨mirroredQuest_sound mirrored counted, mirroredQuest_follows sound mirrored counted⟩

theorem run_questSound (sound : s.session.quest.Sound) (counted : ∀ e ∈ events, e.Counted) :
    (run serviceStep s events).session.quest.Sound ∧
      s.session.quest.FollowedBy (run serviceStep s events).session.quest := by
  induction events generalizing s with
  | nil => exact ⟨sound, .refl _⟩
  | cons e rest ih =>
      obtain ⟨eCounted, restCounted⟩ := List.forall_mem_cons.mp counted
      obtain ⟨soundAfter, first⟩ := serviceStep_questSound sound eCounted
      obtain ⟨soundBehind, later⟩ := ih soundAfter restCounted
      exact ⟨soundBehind, first.trans later⟩

omit [LawfulWireFloat F] in
theorem mirroredQuests_loaded (counted : ∀ e ∈ events, e.Counted) :
    ∀ quest ∈ mirroredQuests s events, quest.loaded = true := by
  induction events using List.reverseRecOn with
  | nil => exact fun quest none => absurd none List.not_mem_nil
  | append_singleton before e ih =>
      obtain ⟨beforeCounted, eCounted⟩ := List.forall_mem_append.mp counted
      intro quest reached
      rw [mirroredQuests_snoc] at reached
      rcases List.mem_append.mp reached with earlier | last
      · exact ih beforeCounted quest earlier
      · exact mirroredQuest_loaded (Option.mem_toList.mp last) (eCounted e (List.mem_singleton_self e))

theorem mirroredQuests_progress (s : ServiceState F) (counted : ∀ e ∈ events, e.Counted) :
    (mirroredQuests s events).IsChain SessionQuestState.ProgressesTo := by
  induction events using List.reverseRecOn with
  | nil => exact .nil
  | append_singleton before e ih =>
      obtain ⟨beforeCounted, eCounted⟩ := List.forall_mem_append.mp counted
      have eCounted := eCounted e (List.mem_singleton_self e)
      rw [mirroredQuests_snoc, List.isChain_append]
      refine ⟨ih beforeCounted, ?_, ?_⟩
      · cases mirroredQuest (run serviceStep s before) e with
        | none => exact .nil
        | some quest => exact .singleton quest
      · intro early last late first
        have current := run_quest s beforeCounted
        rw [List.getLastD_eq_getLast?, Option.mem_def.mp last, Option.getD_some] at current
        have mirrored : late ∈ mirroredQuest (run serviceStep s before) e :=
          Option.mem_toList.mp (List.mem_of_mem_head? first)
        rw [← current]
        refine mirroredQuest_progresses ?_ mirrored eCounted
        rw [current]
        exact mirroredQuests_loaded beforeCounted early (List.mem_of_mem_getLast? last)

omit [CFloat F] [WireFloat F] [LawfulWireFloat F] in
theorem hemQuestUpdate_unchanged {questId : QuestId} {stage : UInt16} {tracked count : UInt8}
    {objs : List MsgQuestObjectiveRecord} {texts : TextPointers}
    (refused : (hemQuestUpdate questId stage tracked objs texts count s).1 = false) :
    (hemQuestUpdate questId stage tracked objs texts count s).2 = s := by
  by_cases accepted :
    (qmpValidateUpdate s.session ⟨questId, stage, tracked, count⟩ objs).accepted = true
  · rw [(hemQuestUpdate_accepted texts accepted).1] at refused
    cases refused
  · rw [hemQuestUpdate_rejected accepted]

/-- In every run from a fresh service the mirrored quest once named is the same and does not go back
in its stages, its objectives are valid, the objectives listed once by two accepted updates in a row
progress, and an update that is refused changes nothing. -/
theorem run_questProgress (sessionId : SessionId) (rules : UInt32) (tickRate : UInt16)
    (whitelist : List UInt32) (events : List (ServiceEvent F))
    (counted : ∀ e ∈ events, e.Counted) :
    let fresh : ServiceState F := freshService sessionId rules tickRate whitelist
    (∀ before after, before ++ after = events →
        (run serviceStep fresh before).session.quest.FollowedBy
          (run serviceStep fresh events).session.quest) ∧
      ((run serviceStep fresh events).session.quest.objectiveCount.toNat ≤ maxQuestObjectives ∧
        ∀ i : Fin maxQuestObjectives,
          i.val < (run serviceStep fresh events).session.quest.objectiveCount.toNat →
            objectiveStateValid ((run serviceStep fresh events).session.quest.objectives i).state =
              true) ∧
      (mirroredQuests fresh events).IsChain SessionQuestState.ProgressesTo ∧
      ∀ questId stage tracked objs texts count,
        let updated := hemQuestUpdate questId stage tracked objs texts count
          (run serviceStep fresh events)
        updated.1 = false → updated.2 = run serviceStep fresh events := by
  intro fresh
  have start : fresh.session.quest.Sound :=
    ⟨fun named => absurd rfl named, Nat.zero_le _, fun _ inCount => absurd inCount (Nat.not_lt_zero _)⟩
  have sound := (run_questSound start counted).1
  refine ⟨?_, ⟨sound.cap, sound.valid⟩, mirroredQuests_progress fresh counted, ?_⟩
  · rintro before after rfl
    obtain ⟨beforeCounted, afterCounted⟩ := List.forall_mem_append.mp counted
    rw [run_append]
    exact (run_questSound (run_questSound start beforeCounted).1 afterCounted).2
  · intro questId stage tracked objs texts count updated refused
    exact hemQuestUpdate_unchanged refused

end Runs

theorem run_questProgress_one :
    let events := [updateQuest [⟨9, QuestObjectiveState.active, {}⟩],
      updateQuest [⟨9, QuestObjectiveState.failed, {}⟩],
      updateQuest [⟨9, QuestObjectiveState.active, {}⟩]]
    (∀ e ∈ events, e.Counted) ∧
      (run serviceStep questService events).session.quest.ListsOnce 9
        QuestObjectiveState.failed ∧
      (mirroredQuests questService events).IsChain SessionQuestState.ProgressesTo := by
  intro events
  have counted : ∀ e ∈ events, e.Counted := by
    simp [events, updateQuest_counted]
  have progress := run_questProgress 1 SessionRules.questMirrorEnabled 20 [] events counted
  exact ⟨counted, ⟨0, by decide +kernel, by decide +kernel⟩, progress.2.2.1⟩

end F4MP.Service
