import F4MP.Service.Selection

/-!
# Finished objectives

Each quest update is compared with the mirror that the one before it left, which keeps the last list
only.
-/

namespace F4MP.Service
open SoftFloat Protocol Transition

variable {F : Type}

/-! ## The mirror -/

section Mirror
variable {questId : QuestId} {stage : UInt16} {tracked count : UInt8} {texts : TextPointers}
  {objs records : List MsgQuestObjectiveRecord} {quest : SessionQuestState} {id : ObjectiveId}

/-- The mirrored quest lists the objective in this state. -/
def SessionQuestState.Lists (quest : SessionQuestState) (id : ObjectiveId) (state : UInt8) : Prop :=
  ∃ i : Fin maxQuestObjectives, i.val < quest.objectiveCount.toNat ∧
    (quest.objectives i).objectiveId = id ∧ (quest.objectives i).state = state

instance (quest : SessionQuestState) (id : ObjectiveId) (state : UInt8) :
    Decidable (quest.Lists id state) := inferInstanceAs (Decidable (∃ _, _))

/-- COMPLETED or FAILED -/
def FinishedState (state : UInt8) : Prop :=
  state = QuestObjectiveState.completed ∨ state = QuestObjectiveState.failed

instance (state : UInt8) : Decidable (FinishedState state) := inferInstanceAs (Decidable (_ ∨ _))

def SessionQuestState.ListsFinished (quest : SessionQuestState) (id : ObjectiveId) : Prop :=
  ∃ state, quest.Lists id state ∧ FinishedState state

/-- The quest has the objectives of the records, in their order. -/
structure SessionQuestState.Mirrors (quest : SessionQuestState)
    (records : List MsgQuestObjectiveRecord) : Prop where
  count : quest.objectiveCount.toNat = records.length
  cap : records.length ≤ maxQuestObjectives
  id : ∀ i : Fin maxQuestObjectives, ∀ inCount : i.val < records.length,
    (quest.objectives i).objectiveId = records[i.val].objectiveId
  state : ∀ i : Fin maxQuestObjectives, ∀ inCount : i.val < records.length,
    (quest.objectives i).state = records[i.val].state

theorem findObjective_lists {o : SessionQuestObjectiveState}
    (found : findObjective quest id = some o) : quest.Lists id o.state := by
  obtain ⟨i, here, rfl⟩ := Option.map_eq_some_iff.mp found
  have holds := List.find?_some here
  simp only [Bool.and_eq_true, decide_eq_true_eq, beq_iff_eq] at holds
  exact ⟨i, holds.1, holds.2, rfl⟩

theorem findObjective_none {state : UInt8} (absent : findObjective quest id = none) :
    ¬ quest.Lists id state := by
  rintro ⟨i, inCount, same, -⟩
  have none := List.find?_eq_none.mp (Option.map_eq_none_iff.mp absent) i (List.mem_finRange i)
  simp only [Bool.and_eq_true, decide_eq_true_eq, beq_iff_eq, not_and] at none
  exact none inCount same

theorem SessionQuestState.Mirrors.lists_iff (mirrors : quest.Mirrors records) {state : UInt8} :
    quest.Lists id state ↔ ∃ record ∈ records, record.objectiveId = id ∧ record.state = state := by
  constructor
  · rintro ⟨i, inCount, sameId, sameState⟩
    rw [mirrors.count] at inCount
    refine ⟨records[i.val], List.getElem_mem inCount, ?_, ?_⟩
    · exact (mirrors.id i inCount).symm.trans sameId
    · exact (mirrors.state i inCount).symm.trans sameState
  · rintro ⟨record, member, sameId, sameState⟩
    obtain ⟨i, inCount, rfl⟩ := List.mem_iff_getElem.mp member
    let i' : Fin maxQuestObjectives := ⟨i, inCount.trans_le mirrors.cap⟩
    refine ⟨i', mirrors.count ▸ inCount, ?_, ?_⟩
    · exact (mirrors.id i' inCount).trans sameId
    · exact (mirrors.state i' inCount).trans sameState

theorem SessionQuestState.Mirrors.first (mirrors : quest.Mirrors records) (id : ObjectiveId) :
    (findObjective quest id).map (·.state) =
      (records.find? (·.objectiveId == id)).map (·.state) := by
  have matches_iff : ∀ i : Fin maxQuestObjectives, (i.val < quest.objectiveCount.toNat &&
      (quest.objectives i).objectiveId == id) = true ↔
        ∃ inCount : i.val < records.length, records[i.val].objectiveId = id := by
    intro i
    simp only [mirrors.count, Bool.and_eq_true, decide_eq_true_eq, beq_iff_eq]
    constructor
    · rintro ⟨inCount, same⟩
      exact ⟨inCount, (mirrors.id i inCount).symm.trans same⟩
    · rintro ⟨inCount, same⟩
      exact ⟨inCount, (mirrors.id i inCount).trans same⟩
  cases first : records.find? (·.objectiveId == id) with
  | none =>
      have absent : findObjective quest id = none := by
        refine Option.map_eq_none_iff.mpr (List.find?_eq_none.mpr fun i _ found => ?_)
        obtain ⟨inCount, same⟩ := (matches_iff i).mp found
        exact List.find?_eq_none.mp first _ (List.getElem_mem inCount) (beq_iff_eq.mpr same)
      rw [absent]
      rfl
  | some record =>
      obtain ⟨same, i, inCount, rfl, before⟩ := List.find?_eq_some_iff_getElem.mp first
      let i' : Fin maxQuestObjectives := ⟨i, inCount.trans_le mirrors.cap⟩
      have found : findObjective quest id = some (quest.objectives i') := by
        refine congrArg (Option.map _) (List.find?_eq_some_iff_getElem.mpr ⟨?_, i, ?_, ?_, ?_⟩)
        · exact (matches_iff i').mpr ⟨inCount, beq_iff_eq.mp same⟩
        · rw [List.length_finRange]
          exact i'.isLt
        · exact List.getElem_finRange _
        · intro j earlier
          rw [List.getElem_finRange, Bool.not_eq_eq_eq_not, Bool.not_true, Bool.eq_false_iff]
          intro found
          obtain ⟨_, same⟩ := (matches_iff _).mp found
          have same : (records[j].objectiveId == id) = true := beq_iff_eq.mpr same
          have other := before j earlier
          rw [same] at other
          cases other
      rw [found]
      exact congrArg some (mirrors.state i' inCount)

/-- What `hem_quest_update` writes over the quest. -/
def questMirror (questId : QuestId) (stage : UInt16) (tracked : UInt8)
    (objs : List MsgQuestObjectiveRecord) (texts : TextPointers) (objectiveCount : UInt8) :
    SessionQuestState where
  loaded := true
  questId
  stage
  tracked
  objectiveCount := min objectiveCount 16
  objectives := fun i =>
    if i.val < (min objectiveCount 16).toNat then
      let record := objs.getD i.val {}
      ⟨record.objectiveId, record.state, strncpyField 256 (textAt texts i.val)⟩
    else {}

theorem questMirror_mirrors (cap : count.toNat ≤ maxQuestObjectives)
    (counted : count.toNat ≤ objs.length) :
    (questMirror questId stage tracked objs texts count).Mirrors (objs.take count.toNat) := by
  have length : (objs.take count.toNat).length = count.toNat := List.length_take_of_le counted
  have same : min count 16 = count :=
    UInt8.le_antisymm Std.min_le_left (Std.le_min_iff.mpr ⟨UInt8.le_refl _, cap⟩)
  have record : ∀ i (inCount : i < count.toNat), objs.getD i {} = objs[i] := by
    intro i inCount
    exact List.getD_eq_getElem _ _ (inCount.trans_le counted)
  refine ⟨?_, length.le.trans cap, ?_, ?_⟩
  · simp only [questMirror, same, length]
  · intro i inCount
    rw [length] at inCount
    simp only [questMirror, same, if_pos inCount, record i.val inCount, List.getElem_take]
  · intro i inCount
    rw [length] at inCount
    simp only [questMirror, same, if_pos inCount, record i.val inCount, List.getElem_take]

end Mirror

/-! ## The policy -/

section Update
variable {questId : QuestId} {stage : UInt16} {tracked count : UInt8} {texts : TextPointers}
  {objs : List MsgQuestObjectiveRecord} {id : ObjectiveId}

theorem objectiveStateValid_iff {state : UInt8} : objectiveStateValid state = true ↔
    state = QuestObjectiveState.active ∨ FinishedState state := by
  simp only [objectiveStateValid, FinishedState, Bool.or_eq_true, beq_iff_eq, or_assoc]

theorem objectiveTransitionValid_finished {oldState newState : UInt8}
    (finished : FinishedState oldState) :
    objectiveTransitionValid oldState newState = true ↔ newState = oldState := by
  have notActive : oldState ≠ QuestObjectiveState.active := by
    rintro rfl
    revert finished
    decide
  simp only [objectiveTransitionValid, Bool.or_eq_true, Bool.and_eq_true, beq_iff_eq, notActive,
    false_and, or_false]
  exact eq_comm

theorem qmpObjectiveReason_none_iff (s : SessionState F) (h : MsgQuestUpdateHeader)
    (obj : MsgQuestObjectiveRecord) : qmpObjectiveReason s h obj = none ↔
      objectiveStateValid obj.state = true ∧
        (s.quest.loaded = true → s.quest.questId = h.questId →
          ∀ old ∈ findObjective s.quest obj.objectiveId,
            objectiveTransitionValid old.state obj.state = true) := by
  unfold qmpObjectiveReason
  by_cases valid : objectiveStateValid obj.state = true
  · by_cases compared : (s.quest.loaded && s.quest.questId == h.questId) = true
    · have both := compared
      rw [Bool.and_eq_true, beq_iff_eq] at both
      cases found : findObjective s.quest obj.objectiveId <;> simp [valid, both]
    · have apart := compared
      simp only [Bool.and_eq_true, beq_iff_eq, not_and] at apart
      simp only [valid, compared, Bool.not_true, Bool.false_eq_true, if_false, true_and, true_iff]
      intro loaded same
      exact absurd same (apart loaded)
  · simp [valid]

theorem qmpValidateUpdate_accepted_iff (s : SessionState F) (h : MsgQuestUpdateHeader)
    (objs : List MsgQuestObjectiveRecord) : (qmpValidateUpdate s h objs).accepted = true ↔
      s.rules &&& SessionRules.questMirrorEnabled ≠ 0 ∧
        h.objectiveCount.toNat ≤ maxQuestObjectives ∧
        (s.quest.loaded = true → s.quest.questId = 0 ∨ s.quest.questId = h.questId) ∧
        (s.quest.loaded = true → s.quest.questId = h.questId → s.quest.stage ≤ h.stage) ∧
        ∀ obj ∈ objs.take h.objectiveCount.toNat, qmpObjectiveReason s h obj = none := by
  have another : (s.quest.loaded && s.quest.questId != 0 && s.quest.questId != h.questId) = true ↔
      ¬ (s.quest.loaded = true → s.quest.questId = 0 ∨ s.quest.questId = h.questId) := by
    simp [and_assoc]
  have behind : (s.quest.loaded && s.quest.questId == h.questId && h.stage < s.quest.stage) = true ↔
      ¬ (s.quest.loaded = true → s.quest.questId = h.questId → s.quest.stage ≤ h.stage) := by
    simp [and_assoc]
  unfold qmpValidateUpdate
  simp only [another, behind, ← not_le]
  by_cases enabled : s.rules &&& SessionRules.questMirrorEnabled = 0
  · simp [enabled]
  by_cases cap : h.objectiveCount.toNat ≤ maxQuestObjectives
  · cases first : (objs.take h.objectiveCount.toNat).findSome? (qmpObjectiveReason s h) with
    | none =>
        have unobjected := List.findSome?_eq_none_iff.mp first
        simp only [enabled, cap, if_false, not_true, ne_eq, not_false_iff, true_and]
        split
        · rename_i another
          simp [another]
        split
        · rename_i behind
          simp [behind]
        · rename_i same upToDate
          exact iff_of_true rfl ⟨not_not.mp same, not_not.mp upToDate, unobjected⟩
    | some reason =>
        have objected : ¬ ∀ obj ∈ objs.take h.objectiveCount.toNat,
            qmpObjectiveReason s h obj = none := by
          intro none
          rw [List.findSome?_eq_none_iff.mpr none] at first
          cases first
        refine iff_of_false ?_ fun all => objected all.2.2.2.2
        simp only [enabled, cap, if_false, not_true]
        split
        · exact Bool.false_ne_true
        split <;> exact Bool.false_ne_true
  · simp [enabled, cap]

theorem hemQuestUpdate_accepted (texts : TextPointers) {s : ServiceState F}
    (accepted : (qmpValidateUpdate s.session ⟨questId, stage, tracked, count⟩ objs).accepted) :
    (hemQuestUpdate questId stage tracked objs texts count s).1 = true ∧
      (hemQuestUpdate questId stage tracked objs texts count s).2.session =
        { s.session with quest := questMirror questId stage tracked objs texts count } := by
  simp only [hemQuestUpdate, accepted, if_true]
  exact ⟨trivial, rfl⟩

theorem hemQuestUpdate_rejected {s : ServiceState F}
    (rejected : ¬ (qmpValidateUpdate s.session ⟨questId, stage, tracked, count⟩ objs).accepted) :
    hemQuestUpdate questId stage tracked objs texts count s = (false, s) := by
  simp only [hemQuestUpdate, rejected]
  rfl

end Update

/-! ## Runs -/

section Runs
variable [CFloat F] [WireFloat F] {s : ServiceState F} {e : ServiceEvent F}
  {events : List (ServiceEvent F)} {quest : SessionQuestState} {id : ObjectiveId}

/-- The quest that an accepted update mirrors. -/
def mirroredQuest (s : ServiceState F) : ServiceEvent F → Option SessionQuestState
  | .host (.questUpdate questId stage tracked objs texts count) =>
      let updated := hemQuestUpdate questId stage tracked objs texts count s
      if updated.1 then some updated.2.session.quest else none
  | _ => none

def mirroredQuests (s : ServiceState F) (events : List (ServiceEvent F)) : List SessionQuestState :=
  emitted serviceStep mirroredQuest s events

/-- The array of a quest update has the records that are counted. -/
def ServiceEvent.Counted : ServiceEvent F → Prop
  | .host (.questUpdate _ _ _ objs _ count) => count.toNat ≤ objs.length
  | _ => True

/-- What one mirrored quest lists as finished, no later one lists as active. -/
def StaysFinished (s : ServiceState F) (events : List (ServiceEvent F)) : Prop :=
  (mirroredQuests s events).Pairwise fun earlier later =>
    ∀ id, earlier.ListsFinished id → ¬ later.Lists id QuestObjectiveState.active

/-- An accepted update is of a quest with an id, and of the objectives that are finished in the mirror
or in the update itself it lists each, and as finished before anything else. -/
def KeepsFinished (s : ServiceState F) : ServiceEvent F → Prop
  | .host (.questUpdate questId stage tracked objs _ count) =>
      let records := objs.take count.toNat
      (qmpValidateUpdate s.session ⟨questId, stage, tracked, count⟩ objs).accepted = true →
        ∀ id, (s.session.quest.ListsFinished id ∨
            ∃ record ∈ records, record.objectiveId = id ∧ FinishedState record.state) →
          questId ≠ 0 ∧ ∃ record ∈ records.find? (·.objectiveId == id), FinishedState record.state
  | _ => True

omit [CFloat F] [WireFloat F] in
theorem mirroredQuest_accepted {questId : QuestId} {stage : UInt16} {tracked count : UInt8}
    {objs : List MsgQuestObjectiveRecord} (texts : TextPointers)
    (accepted :
      (qmpValidateUpdate s.session ⟨questId, stage, tracked, count⟩ objs).accepted = true) :
    mirroredQuest s (.host (.questUpdate questId stage tracked objs texts count)) =
      some (questMirror questId stage tracked objs texts count) := by
  obtain ⟨done, after⟩ := hemQuestUpdate_accepted texts accepted
  simp only [mirroredQuest, done, if_true, after]

theorem mirroredQuest_some (mirrored : quest ∈ mirroredQuest s e) (counted : e.Counted) :
    ∃ questId stage tracked objs texts count,
      e = .host (.questUpdate questId stage tracked objs texts count) ∧
        (qmpValidateUpdate s.session ⟨questId, stage, tracked, count⟩ objs).accepted = true ∧
          quest = questMirror questId stage tracked objs texts count ∧
            (serviceStep s e).session = { s.session with quest } ∧
              quest.Mirrors (objs.take count.toNat) := by
  match e, mirrored with
  | .host (.questUpdate questId stage tracked objs texts count), mirrored =>
      refine ⟨questId, stage, tracked, objs, texts, count, rfl, ?_⟩
      by_cases accepted :
        (qmpValidateUpdate s.session ⟨questId, stage, tracked, count⟩ objs).accepted = true
      · have after := (hemQuestUpdate_accepted texts accepted).2
        rw [mirroredQuest_accepted texts accepted, Option.mem_some_iff] at mirrored
        have cap := ((qmpValidateUpdate_accepted_iff _ _ _).mp accepted).2.1
        subst mirrored
        exact ⟨accepted, rfl, after, questMirror_mirrors cap counted⟩
      · rw [mirroredQuest, hemQuestUpdate_rejected accepted] at mirrored
        cases mirrored

/-- What the policy compares later updates with: a quest that cannot be replaced by another one, and a
first entry of the objective that is finished. -/
def SessionQuestState.Keeps (quest : SessionQuestState) (id : ObjectiveId) : Prop :=
  quest.loaded = true ∧ quest.questId ≠ 0 ∧ ∃ o ∈ findObjective quest id, FinishedState o.state

theorem SessionQuestState.Mirrors.keeps_iff {records : List MsgQuestObjectiveRecord}
    (mirrors : quest.Mirrors records) : quest.Keeps id ↔ quest.loaded = true ∧ quest.questId ≠ 0 ∧
      ∃ record ∈ records.find? (·.objectiveId == id), FinishedState record.state := by
  have same := mirrors.first id
  refine and_congr_right fun _ => and_congr_right fun _ => ?_
  cases found : findObjective quest id <;> cases listed : records.find? (·.objectiveId == id) <;>
    simp_all

theorem SessionQuestState.Mirrors.listsFinished_iff {records : List MsgQuestObjectiveRecord}
    (mirrors : quest.Mirrors records) : quest.ListsFinished id ↔
      ∃ record ∈ records, record.objectiveId = id ∧ FinishedState record.state := by
  simp only [SessionQuestState.ListsFinished, mirrors.lists_iff]
  constructor
  · rintro ⟨state, ⟨record, member, same, rfl⟩, finished⟩
    exact ⟨record, member, same, finished⟩
  · rintro ⟨record, member, same, finished⟩
    exact ⟨record.state, ⟨record, member, same, rfl⟩, finished⟩

theorem SessionQuestState.Keeps.listsFinished (keeps : quest.Keeps id) : quest.ListsFinished id := by
  obtain ⟨_, _, o, found, finished⟩ := keeps
  exact ⟨o.state, findObjective_lists found, finished⟩

theorem mirroredQuest_notActive (keeps : s.session.quest.Keeps id) (counted : e.Counted) :
    ∀ quest ∈ mirroredQuest s e, ¬ quest.Lists id QuestObjectiveState.active := by
  intro quest mirrored lists
  obtain ⟨questId, stage, tracked, objs, texts, count, rfl, accepted, rfl, _, mirrors⟩ :=
    mirroredQuest_some mirrored counted
  obtain ⟨loaded, named, o, found, finished⟩ := keeps
  obtain ⟨_, _, another, _, unobjected⟩ := (qmpValidateUpdate_accepted_iff _ _ _).mp accepted
  obtain ⟨record, member, rfl, active⟩ := mirrors.lists_iff.mp lists
  have sameQuest := (another loaded).resolve_left named
  have allowed := ((qmpObjectiveReason_none_iff _ _ _).mp (unobjected record member)).2 loaded
    sameQuest o found
  have sameState := (objectiveTransitionValid_finished finished).mp allowed
  rw [← sameState, active] at finished
  revert finished
  decide

/-- What a step that meets the condition mirrors keeps every objective that is finished in it or before
it. -/
theorem mirroredQuest_keeps (condition : KeepsFinished s e) (counted : e.Counted)
    (mirrored : quest ∈ mirroredQuest s e)
    (finished : s.session.quest.ListsFinished id ∨ quest.ListsFinished id) : quest.Keeps id := by
  obtain ⟨questId, stage, tracked, objs, texts, count, rfl, accepted, rfl, _, mirrors⟩ :=
    mirroredQuest_some mirrored counted
  rw [mirrors.listsFinished_iff] at finished
  obtain ⟨named, first⟩ := condition accepted id finished
  exact mirrors.keeps_iff.mpr ⟨rfl, named, first⟩

omit [CFloat F] [WireFloat F] in
theorem hostStep_quest {event : HostEvent} (rejected : mirroredQuest s (.host event) = none) :
    (hostStep s event).session.quest = s.session.quest := by
  cases event with
  | questUpdate questId stage tracked objs texts count =>
      by_cases accepted :
        (qmpValidateUpdate s.session ⟨questId, stage, tracked, count⟩ objs).accepted = true
      · simp only [mirroredQuest, (hemQuestUpdate_accepted texts accepted).1] at rejected
        cases rejected
      · rw [hostStep, hemQuestUpdate_rejected accepted]
  | guestDialogueSelect playerId select =>
      simp only [hostStep, hemApplyGuestDialogueSelect]
      split
      · rfl
      · rename_i applied
        obtain ⟨dialogue, rfl⟩ := dppApplySelection_frame applied
        rfl
  | _ => rfl

variable [LawfulWireFloat F]

/-- The quest changes by accepted updates only. -/
theorem serviceStep_quest (s : ServiceState F) {e : ServiceEvent F} (counted : e.Counted) :
    (serviceStep s e).session.quest = (mirroredQuest s e).getD s.session.quest := by
  cases mirrored : mirroredQuest s e with
  | some quest =>
      obtain ⟨_, _, _, _, _, _, rfl, _, _, after, _⟩ := mirroredQuest_some mirrored counted
      rw [after]
      rfl
  | none =>
      cases e with
      | host event => exact hostStep_quest mirrored
      | envelope store env => exact (tlHandleEnvelope_keepsDialogue store env s).quest
      | tick => rw [serviceStep, tlTick_posts, tickSession_frame]; rfl
      | popDialogueSelect =>
          obtain ⟨_, _, _, frame⟩ := popDialogueSelect_frame s
          rw [frame]
          rfl
      | spawnHostile baseFormId position =>
          obtain ⟨_, frame⟩ := spawnHostile_frame s baseFormId position
          rw [frame]
          rfl
      | allocSettlement settlementId center radius budget =>
          obtain ⟨_, frame⟩ := allocSettlement_frame s settlementId center radius budget
          rw [frame]
          rfl
      | _ => rfl

theorem serviceStep_keeps (keeps : s.session.quest.Keeps id) (condition : KeepsFinished s e)
    (counted : e.Counted) : (serviceStep s e).session.quest.Keeps id := by
  rw [serviceStep_quest s counted]
  cases mirrored : mirroredQuest s e with
  | none => exact keeps
  | some quest =>
      exact mirroredQuest_keeps condition counted mirrored (.inl keeps.listsFinished)

theorem mirroredQuests_notActive (keeps : s.session.quest.Keeps id)
    (condition : Along serviceStep KeepsFinished s events)
    (counted : ∀ e ∈ events, e.Counted) {next : ServiceEvent F} (nextCounted : next.Counted) :
    ∀ quest ∈ mirroredQuests s (events ++ [next]), ¬ quest.Lists id QuestObjectiveState.active := by
  induction events generalizing s with
  | nil =>
      intro quest mirrored
      refine mirroredQuest_notActive keeps nextCounted quest ?_
      simpa [mirroredQuests, emitted] using mirrored
  | cons e rest ih =>
      intro quest mirrored
      obtain ⟨first, later⟩ := condition
      obtain ⟨eCounted, restCounted⟩ := List.forall_mem_cons.mp counted
      rcases List.mem_append.mp mirrored with now | behind
      · exact mirroredQuest_notActive keeps eCounted quest (Option.mem_toList.mp now)
      · exact ih (serviceStep_keeps keeps first eCounted) later restCounted quest behind

theorem staysFinished_of_keeps (condition : Along serviceStep KeepsFinished s events)
    (counted : ∀ e ∈ events, e.Counted) {next : ServiceEvent F} (nextCounted : next.Counted) :
    StaysFinished s (events ++ [next]) := by
  induction events generalizing s with
  | nil =>
      cases mirrored : mirroredQuest s next <;>
        simp [StaysFinished, mirroredQuests, emitted, mirrored]
  | cons e rest ih =>
      obtain ⟨first, later⟩ := condition
      obtain ⟨eCounted, restCounted⟩ := List.forall_mem_cons.mp counted
      have behind := ih later restCounted
      cases mirrored : mirroredQuest s e with
      | none =>
          simp only [StaysFinished, mirroredQuests, List.cons_append, emitted, mirrored]
          exact behind
      | some quest =>
          simp only [StaysFinished, mirroredQuests, List.cons_append, emitted, mirrored]
          refine List.pairwise_cons.mpr ⟨fun after reached id finished => ?_, behind⟩
          have keeps := mirroredQuest_keeps first eCounted mirrored (.inr finished)
          refine mirroredQuests_notActive ?_ later restCounted nextCounted after reached
          rw [serviceStep_quest s eCounted, mirrored]
          exact keeps

omit [LawfulWireFloat F] in
theorem mirroredQuests_snoc (s : ServiceState F) (e : ServiceEvent F) :
    mirroredQuests s (events ++ [e]) =
      mirroredQuests s events ++ (mirroredQuest (run serviceStep s events) e).toList := by
  rw [mirroredQuests, emitted_append]
  simp only [emitted, List.append_nil]
  rfl

theorem run_quest (s : ServiceState F) (counted : ∀ e ∈ events, e.Counted) :
    (run serviceStep s events).session.quest =
      (mirroredQuests s events).getLastD s.session.quest := by
  induction events using List.reverseRecOn with
  | nil => rfl
  | append_singleton before e ih =>
      obtain ⟨beforeCounted, eCounted⟩ := List.forall_mem_append.mp counted
      rw [run_snoc, serviceStep_quest _ (eCounted e (List.mem_singleton_self e)),
        mirroredQuests_snoc, ih beforeCounted]
      cases mirroredQuest (run serviceStep s before) e with
      | none => simp
      | some quest => simp

/-- The update that takes up the quest again, at its stage, and lists the objective as active. -/
def reviving (quest : SessionQuestState) (id : ObjectiveId) : ServiceEvent F :=
  .host (.questUpdate (if quest.questId = 0 then 1 else quest.questId) quest.stage quest.tracked
    [⟨id, QuestObjectiveState.active, {}⟩] none 1)

omit [CFloat F] [WireFloat F] [LawfulWireFloat F] in
theorem reviving_counted (quest : SessionQuestState) (id : ObjectiveId) :
    (reviving quest id : ServiceEvent F).Counted := show (1 : UInt8).toNat ≤ 1 by decide

omit [CFloat F] [WireFloat F] [LawfulWireFloat F] in
theorem reviving_accepted (enabled : s.session.rules &&& SessionRules.questMirrorEnabled ≠ 0)
    (unkept : ¬ s.session.quest.Keeps id) (loaded : s.session.quest.loaded = true)
    (valid : ∀ state, s.session.quest.Lists id state → objectiveStateValid state = true) :
    ∃ quest ∈ mirroredQuest s (reviving s.session.quest id),
      quest.Lists id QuestObjectiveState.active := by
  have one_le : (1 : UInt8).toNat ≤ maxQuestObjectives := by decide
  have accepted : (qmpValidateUpdate s.session
      ⟨if s.session.quest.questId = 0 then 1 else s.session.quest.questId, s.session.quest.stage,
        s.session.quest.tracked, 1⟩ [⟨id, QuestObjectiveState.active, {}⟩]).accepted = true := by
    refine (qmpValidateUpdate_accepted_iff _ _ _).mpr ⟨enabled, ?_, ?_, ?_, ?_⟩
    · exact one_le
    · intro _
      by_cases unnamed : s.session.quest.questId = 0
      · exact .inl unnamed
      · exact .inr (if_neg unnamed).symm
    · exact fun _ _ => UInt16.le_refl _
    · intro record member
      obtain rfl : record = _ := List.mem_singleton.mp member
      refine (qmpObjectiveReason_none_iff _ _ _).mpr ⟨rfl, fun _ sameQuest old found => ?_⟩
      have named : s.session.quest.questId ≠ 0 := by
        intro unnamed
        rw [unnamed] at sameQuest
        cases sameQuest
      have state := objectiveStateValid_iff.mp (valid old.state (findObjective_lists found))
      have active := state.resolve_right fun finished =>
        unkept ⟨loaded, named, old, found, finished⟩
      rw [active]
      rfl
  obtain ⟨done, after⟩ := hemQuestUpdate_accepted none accepted
  refine ⟨_, by simp only [mirroredQuest, reviving, done, if_true]; rfl, ?_⟩
  rw [after]
  refine (questMirror_mirrors one_le ?_).lists_iff.mpr ⟨_, List.mem_singleton_self _, rfl, rfl⟩
  exact reviving_counted s.session.quest id (F := F)

omit [LawfulWireFloat F] in
theorem StaysFinished.last {next : ServiceEvent F} (stays : StaysFinished s (events ++ [next])) :
    ∀ earlier ∈ mirroredQuests s events, ∀ later ∈ mirroredQuest (run serviceStep s events) next,
      ∀ id, earlier.ListsFinished id → ¬ later.Lists id QuestObjectiveState.active := by
  rw [StaysFinished, mirroredQuests_snoc] at stays
  intro earlier mirrored later reached
  exact (List.pairwise_append.mp stays).2.2 earlier mirrored later (Option.mem_toList.mpr reached)

omit [LawfulWireFloat F] in
/-- Behind an accepted update that keeps an objective neither finished nor at all another one can list
it as active. -/
theorem reviving_of_unkept {questId : QuestId} {stage : UInt16} {tracked count : UInt8}
    {objs : List MsgQuestObjectiveRecord} (texts : TextPointers)
    (accepted :
      (qmpValidateUpdate s.session ⟨questId, stage, tracked, count⟩ objs).accepted = true)
    (counted : count.toNat ≤ objs.length)
    (unkept : ¬ (questId ≠ 0 ∧ ∃ record ∈ (objs.take count.toNat).find? (·.objectiveId == id),
      FinishedState record.state)) :
    let after := serviceStep s (.host (.questUpdate questId stage tracked objs texts count))
    ∃ later ∈ mirroredQuest after (reviving after.session.quest id),
      later.Lists id QuestObjectiveState.active := by
  intro now
  obtain ⟨enabled, cap, _, _, unobjected⟩ := (qmpValidateUpdate_accepted_iff _ _ _).mp accepted
  have session : now.session =
      { s.session with quest := questMirror questId stage tracked objs texts count } :=
    (hemQuestUpdate_accepted texts accepted).2
  have quest : now.session.quest = questMirror questId stage tracked objs texts count :=
    congrArg SessionState.quest session
  have mirrors : (questMirror questId stage tracked objs texts count).Mirrors
      (objs.take count.toNat) := questMirror_mirrors cap counted
  refine reviving_accepted ?_ ?_ ?_ ?_
  · rw [session]
    exact enabled
  · rw [quest, mirrors.keeps_iff]
    exact fun keeps => unkept keeps.2
  · rw [quest]
    rfl
  · intro state lists
    rw [quest] at lists
    obtain ⟨record, member, _, rfl⟩ := mirrors.lists_iff.mp lists
    exact ((qmpObjectiveReason_none_iff _ _ _).mp (unobjected record member)).1

theorem keepsFinished_of_staysFinished (fresh : ∀ id, ¬ s.session.quest.ListsFinished id)
    (eventsCounted : ∀ e ∈ events, e.Counted) (counted : e.Counted)
    (stays : ∀ next : ServiceEvent F, next.Counted → StaysFinished s (events ++ [e] ++ [next])) :
    KeepsFinished (run serviceStep s events) e := by
  cases e with
  | host event =>
      cases event with
      | questUpdate questId stage tracked objs texts count =>
          intro accepted id finished
          by_contra unkept
          obtain ⟨later, revived, active⟩ := reviving_of_unkept texts accepted counted unkept
          rw [show serviceStep (run serviceStep s events) _ = _ from run_snoc.symm] at revived
          have mirrored := mirroredQuest_accepted texts accepted
          have cap := ((qmpValidateUpdate_accepted_iff _ _ _).mp accepted).2.1
          obtain ⟨earlier, reached, wasFinished⟩ : ∃ earlier ∈ mirroredQuests s
              (events ++ [.host (.questUpdate questId stage tracked objs texts count)]),
                earlier.ListsFinished id := by
            rw [mirroredQuests_snoc]
            rcases finished with kept | listed
            · have last : (run serviceStep s events).session.quest ∈
                  s.session.quest :: mirroredQuests s events := by
                rw [run_quest s eventsCounted]
                exact List.getLastD_mem_cons
              rw [List.mem_cons] at last
              rcases last with unchanged | reached
              · rw [unchanged] at kept
                exact absurd kept (fresh id)
              · exact ⟨_, List.mem_append_left _ reached, kept⟩
            · refine ⟨_, List.mem_append_right _ (Option.mem_toList.mpr mirrored), ?_⟩
              exact (questMirror_mirrors cap counted).listsFinished_iff.mpr listed
          exact (stays _ (reviving_counted _ id)).last earlier reached later revived id wasFinished
            active
      | _ => trivial
  | _ => trivial

/-- In a service's run no objective is revived, however it goes on by one more step at any moment,
exactly when every update keeps the finished ones. -/
theorem run_staysFinished_iff (sessionId : SessionId) (rules : UInt32) (tickRate : UInt16)
    (whitelist : List UInt32) (events : List (ServiceEvent F))
    (counted : ∀ e ∈ events, e.Counted) :
    let fresh : ServiceState F := freshService sessionId rules tickRate whitelist
    (∀ before, before <+: events → ∀ next : ServiceEvent F, next.Counted →
        StaysFinished fresh (before ++ [next])) ↔
      Along serviceStep KeepsFinished fresh events := by
  intro fresh
  have nothing : ∀ id, ¬ fresh.session.quest.ListsFinished id := by
    rintro id ⟨_, ⟨i, inCount, _⟩, _⟩
    exact absurd inCount (Nat.not_lt_zero _)
  constructor
  · intro stays
    refine along_iff.mpr ?_
    rintro before e after rfl
    obtain ⟨beforeCounted, behind⟩ := List.forall_mem_append.mp counted
    refine keepsFinished_of_staysFinished nothing beforeCounted
      (behind e List.mem_cons_self) fun next nextCounted => ?_
    exact stays _ ⟨after, by simp⟩ next nextCounted
  · rintro condition before ⟨rest, rfl⟩ next nextCounted
    exact staysFinished_of_keeps (along_append.mp condition).1
      (List.forall_mem_append.mp counted).1 nextCounted

end Runs

/-! ## An objective that is left out -/

def questService : ServiceState Binary32 := freshService 1 SessionRules.questMirrorEnabled 20 []

def updateQuest (objs : List MsgQuestObjectiveRecord) : ServiceEvent Binary32 :=
  .host (.questUpdate 101 10 1 objs none (UInt8.ofNat objs.length))

theorem updateQuest_counted (objs : List MsgQuestObjectiveRecord) : (updateQuest objs).Counted :=
  Nat.mod_le objs.length 256

theorem run_staysFinished_iff_one :
    let events := [updateQuest [⟨9, QuestObjectiveState.active, {}⟩],
      updateQuest [⟨9, QuestObjectiveState.completed, {}⟩]]
    (∀ e ∈ events, e.Counted) ∧
      ((∀ before, before <+: events → ∀ next : ServiceEvent Binary32, next.Counted →
          StaysFinished questService (before ++ [next])) ↔
        Along serviceStep KeepsFinished questService events) := by
  intro events
  have counted : ∀ e ∈ events, e.Counted := by
    simp [events, updateQuest_counted]
  exact ⟨counted, run_staysFinished_iff 1 SessionRules.questMirrorEnabled 20 [] events counted⟩

/-- An objective is completed, left out of the next update, and active again in the one behind it. -/
theorem run_staysFinished_omitted :
    let events := [updateQuest [⟨9, QuestObjectiveState.completed, {}⟩], updateQuest [],
      updateQuest [⟨9, QuestObjectiveState.active, {}⟩]]
    (∀ e ∈ events, e.Counted) ∧ ¬ StaysFinished questService events := by
  intro events
  refine ⟨by simp [events, updateQuest_counted], fun stays => ?_⟩
  have completed : mirroredQuest questService (updateQuest [⟨9, QuestObjectiveState.completed, {}⟩]) =
      some (questMirror 101 10 1 [⟨9, QuestObjectiveState.completed, {}⟩] none 1) :=
    mirroredQuest_accepted none (by decide +kernel)
  have active : mirroredQuest (run serviceStep questService
      [updateQuest [⟨9, QuestObjectiveState.completed, {}⟩], updateQuest []])
        (updateQuest [⟨9, QuestObjectiveState.active, {}⟩]) =
      some (questMirror 101 10 1 [⟨9, QuestObjectiveState.active, {}⟩] none 1) :=
    mirroredQuest_accepted none (by decide +kernel)
  have reached : questMirror 101 10 1 [⟨9, QuestObjectiveState.completed, {}⟩] none 1 ∈
      mirroredQuests questService
        [updateQuest [⟨9, QuestObjectiveState.completed, {}⟩], updateQuest []] := by
    simp [mirroredQuests, emitted, completed]
  have stays : StaysFinished questService
      ([updateQuest [⟨9, QuestObjectiveState.completed, {}⟩], updateQuest []] ++
        [updateQuest [⟨9, QuestObjectiveState.active, {}⟩]]) := stays
  exact stays.last _ reached _ active 9 ⟨QuestObjectiveState.completed, by decide, .inl rfl⟩
    (by decide)

end F4MP.Service
