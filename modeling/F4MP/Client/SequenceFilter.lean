import F4MP.Library.Transition
import F4MP.Client.PlayerProxy

/-!
# The order of applied states

The client's filter over a whole stream of states of one player. Its memory is the record of that
player, and a state with sequence 0 erases it.
-/

namespace F4MP.Client
open SoftFloat CFloat Protocol Service Transition

variable {F U : Type} [CFloat F]

/-! ## One state -/

/-- The backend updates every player who has a record, as `proxy_runtime.c` does. -/
def RemoteProxyBackend.Serves (backend : RemoteProxyBackend F U) : Prop :=
  ∀ spec remote, (Slots.lookup spec.playerId remote.players.slots).isSome →
    (backend.updatePlayer spec remote).1 = true ∧
      (backend.updatePlayer spec remote).2.players = (proxyUpdatePlayer spec remote.players).2

theorem defaultBackend_serves : (defaultBackend : RemoteProxyBackend F Unit).Serves :=
  fun _ _ present => ⟨Slots.lookup_isSome_iff.mpr present, rfl⟩

abbrev RemoteState (F U : Type) := RemoteProxyManager F × RemotePlayers F U

def rpmStep (backend : RemoteProxyBackend F U) (s : RemoteState F U) (msg : MsgPlayerState F) :
    RemoteState F U :=
  (rpmApplyRemotePlayerState backend msg s.1 s.2).2

/-- The sequence of a state that is applied: the call succeeds, and counts no stale update. -/
def appliedSequence (backend : RemoteProxyBackend F U) (s : RemoteState F U)
    (msg : MsgPlayerState F) : Option UInt32 :=
  let applied := rpmApplyRemotePlayerState backend msg s.1 s.2
  if applied.1 = true ∧ applied.2.1.rejectedStaleUpdates = s.1.rejectedStaleUpdates ∧
    msg.stateSequence ≠ 0 then some msg.stateSequence else none

/-- The record of a player. -/
def recordOf (s : RemoteState F U) (p : PlayerId) : Option (ProxyPlayerRecord F) :=
  Slots.lookup p s.2.players.slots

variable {backend : RemoteProxyBackend F U} {s : RemoteState F U} {msg : MsgPlayerState F}
  {p : PlayerId} {record : ProxyPlayerRecord F}

omit [CFloat F] in
theorem staleFor_le (older : staleFor record msg = true) :
    msg.stateSequence ≤ record.lastStateSequence ∧
      (msg.stateSequence = 0 → record.lastStateSequence = 0) := by
  simp only [staleFor, Bool.or_eq_true, Bool.and_eq_true, bne_iff_ne, beq_iff_eq,
    decide_eq_true_eq] at older
  rcases older with ⟨⟨numbered, -⟩, behind⟩ | ⟨⟨⟨same, -⟩, -⟩, -⟩
  · exact ⟨UInt32.le_of_lt behind, fun none => absurd none numbered⟩
  · exact ⟨same ▸ UInt32.le_refl _, fun none => same ▸ none⟩

omit [CFloat F] in
theorem le_of_newer (newer : staleFor record msg = false) (numbered : msg.stateSequence ≠ 0) :
    record.lastStateSequence ≤ msg.stateSequence := by
  refine UInt32.not_lt.mp fun behind => ?_
  have known : record.lastStateSequence ≠ 0 := fun zero => UInt32.not_lt_zero (zero ▸ behind)
  simp [staleFor, numbered, known, behind] at newer

omit [CFloat F] in
theorem newer_of_lt (ahead : record.lastStateSequence < msg.stateSequence) :
    staleFor record msg = false := by
  refine (Bool.not_eq_true _).mp fun older => ?_
  exact UInt32.not_le.mpr ahead (staleFor_le older).1

/-- What the filter makes of a state of a player with a record. -/
inductive Reception (backend : RemoteProxyBackend F U) (s : RemoteState F U)
    (record : ProxyPlayerRecord F) (msg : MsgPlayerState F) : Prop where
  | stale (older : staleFor record msg = true) (nothing : appliedSequence backend s msg = none)
      (kept : recordOf (rpmStep backend s msg) msg.playerId = some record)
  | applied (newer : staleFor record msg = false)
      (something : appliedSequence backend s msg =
        if msg.stateSequence = 0 then none else some msg.stateSequence)
      (after : ∃ record', recordOf (rpmStep backend s msg) msg.playerId = some record' ∧
        record'.lastStateSequence = msg.stateSequence)

theorem rpmPassUpdate_serves (serves : backend.Serves) (policy : RemoteProxyUpdatePolicy F)
    {remote : RemotePlayers F U} (shown : Slots.lookup msg.playerId remote.players.slots = some record) :
    (rpmPassUpdate backend policy msg remote).1 = true ∧ ∃ record',
      Slots.lookup msg.playerId (rpmPassUpdate backend policy msg remote).2.players.slots =
          some record' ∧
        record'.lastStateSequence = msg.stateSequence := by
  obtain ⟨position, rotation, noted, same, eq⟩ := rpmPassUpdate_eq backend policy msg remote
  obtain ⟨done, players⟩ := serves { updateSpecOf msg with position, rotation } noted
    (by rw [same]; exact Option.isSome_iff_exists.mpr ⟨record, shown⟩)
  rw [eq]
  generalize backend.updatePlayer _ noted = updated at done players
  obtain ⟨_, remote'⟩ := updated
  obtain rfl : _ = true := done
  refine ⟨rfl, ?_⟩
  rw [rpmStamped, Slots.Table.slots_modifyFirst, Slots.lookup_update (by exact fun _ held => held),
    if_pos rfl, show remote'.players = _ from players, proxyUpdatePlayer,
    Slots.Table.slots_modifyFirst, Slots.lookup_update (by exact fun _ held => held), same]
  rw [updateSpecOf, if_pos rfl, shown]
  exact ⟨_, rfl, rfl⟩

theorem rpmApply_receives (serves : backend.Serves) (somebody : msg.playerId ≠ 0)
    (foreign : msg.playerId ≠ s.1.localPlayerId) (shown : recordOf s msg.playerId = some record) :
    Reception backend s record msg := by
  have other : ¬(msg.playerId = 0 ∨ msg.playerId = s.1.localPlayerId) :=
    not_or.mpr ⟨somebody, foreign⟩
  rw [recordOf] at shown
  cases older : staleFor record msg with
  | true =>
      have eq : rpmApplyRemotePlayerState backend msg s.1 s.2 =
          (true, { s.1 with rejectedStaleUpdates := s.1.rejectedStaleUpdates + 1 }, s.2) := by
        simp [rpmApplyRemotePlayerState, other, shown, older]
      refine .stale older ?_ ?_
      · rw [appliedSequence, eq]
        refine if_neg fun applies => ?_
        obtain ⟨_, counted, _⟩ := applies
        simp at counted
      · rw [rpmStep, eq]
        exact shown
  | false =>
      have eq : rpmApplyRemotePlayerState backend msg s.1 s.2 =
          ((rpmPassUpdate backend s.1.policy msg s.2).1, s.1,
            (rpmPassUpdate backend s.1.policy msg s.2).2) := by
        simp [rpmApplyRemotePlayerState, other, shown, older]
      obtain ⟨done, record', shown', sequence⟩ := rpmPassUpdate_serves serves s.1.policy shown
      refine .applied older ?_ ⟨record', ?_, sequence⟩
      · rw [appliedSequence, eq]
        simp only [done, true_and, ite_not]
      · rw [rpmStep, eq]
        exact shown'

theorem rpmStep_localPlayerId (backend : RemoteProxyBackend F U) (s : RemoteState F U)
    (msg : MsgPlayerState F) : (rpmStep backend s msg).1.localPlayerId = s.1.localPlayerId := by
  simp only [rpmStep, rpmApplyRemotePlayerState]
  repeat' split
  all_goals rfl

/-! ## A stream -/

/-- The sequences of the states of a stream that are applied, but for the zeros. -/
def appliedSequences (backend : RemoteProxyBackend F U) (s : RemoteState F U)
    (msgs : List (MsgPlayerState F)) : List UInt32 :=
  emitted (rpmStep backend) (appliedSequence backend) s msgs

/-- The state `e` gets past the record, at the start of the stream or behind an erasure. -/
def Passes (record : ProxyPlayerRecord F) (front : List (MsgPlayerState F)) (e : MsgPlayerState F) :
    Prop :=
  staleFor record e = false ∨ ∃ zero ∈ front, zero.stateSequence = 0

/-- Directly behind an erasure comes a sequence below one from before it. -/
def Relapses (record : ProxyPlayerRecord F) (msgs : List (MsgPlayerState F)) : Prop :=
  ∃ front e middle zero low after, msgs = front ++ e :: (middle ++ zero :: low :: after) ∧
    Passes record front e ∧ zero.stateSequence = 0 ∧ low.stateSequence ≠ 0 ∧
      low.stateSequence < e.stateSequence

/-- The last state of a stream is an erasure. -/
def Erased (msgs : List (MsgPlayerState F)) : Prop :=
  ∃ before zero, msgs = before ++ [zero] ∧ zero.stateSequence = 0

/-- What the record keeps of the stream, in a run from `s`. -/
structure Remembers (backend : RemoteProxyBackend F U) (s : RemoteState F U)
    (record : ProxyPlayerRecord F) (msgs : List (MsgPlayerState F)) (now : ProxyPlayerRecord F) :
    Prop where
  /-- A memory is that of the first record, or of a state that was applied. -/
  source : now = record ∧ (∀ zero ∈ msgs, zero.stateSequence ≠ 0) ∨
    now.lastStateSequence = 0 ∧
      (record.lastStateSequence = 0 ∨ ∃ zero ∈ msgs, zero.stateSequence = 0) ∨
    now.lastStateSequence ∈ appliedSequences backend s msgs
  erased : Erased msgs → now.lastStateSequence = 0
  /-- What gets past the first record is applied, or below what is. -/
  covered : ∀ front e middle, msgs = front ++ e :: middle → e.stateSequence ≠ 0 →
    Passes record front e → ∃ top ∈ appliedSequences backend s msgs, e.stateSequence ≤ top
  /-- What is applied got past the first record. -/
  passed : ∀ sequence ∈ appliedSequences backend s msgs, sequence ≠ 0 ∧ ∃ front e middle,
    msgs = front ++ e :: middle ∧ e.stateSequence = sequence ∧ Passes record front e

section Stream
variable {msgs : List (MsgPlayerState F)}

theorem appliedSequences_snoc : appliedSequences backend s (msgs ++ [msg]) =
    appliedSequences backend s msgs ++
      (appliedSequence backend (run (rpmStep backend) s msgs) msg).toList := by
  rw [appliedSequences, emitted_append]
  simp only [emitted, List.append_nil]
  rfl

theorem run_localPlayerId :
    (run (rpmStep backend) s msgs).1.localPlayerId = s.1.localPlayerId := by
  have kept (t : RemoteProxyManager F × RemotePlayers F U) (msg : MsgPlayerState F)
      (same : t.1.localPlayerId = s.1.localPlayerId) (_ : True) :
      (rpmStep backend t msg).1.localPlayerId = s.1.localPlayerId :=
    (rpmStep_localPlayerId backend t msg).trans same
  exact run_invariant (P := fun _ _ => True) kept rfl (along_always fun _ _ => trivial)

omit [CFloat F] in
theorem split_snoc {before front middle : List (MsgPlayerState F)} {last e : MsgPlayerState F}
    (split : before ++ [last] = front ++ e :: middle) :
    front = before ∧ e = last ∧ middle = [] ∨
      ∃ middle', middle = middle' ++ [last] ∧ before = front ++ e :: middle' := by
  induction middle using List.reverseRecOn with
  | nil =>
      obtain ⟨rfl, same⟩ := List.append_inj' split rfl
      exact .inl ⟨rfl, (List.singleton_inj.mp same).symm, rfl⟩
  | append_singleton middle' last' _ =>
      rw [← List.cons_append, ← List.append_assoc] at split
      obtain ⟨rfl, same⟩ := List.append_inj' split rfl
      obtain rfl := List.singleton_inj.mp same
      exact .inr ⟨middle', rfl, rfl⟩

variable {now : ProxyPlayerRecord F}

theorem remembers_nil (record : ProxyPlayerRecord F) : Remembers backend s record [] record where
  source := .inl ⟨rfl, fun _ listed => by cases listed⟩
  erased := by
    rintro ⟨before, zero, split, -⟩
    simp at split
  covered front e middle split := by simp at split
  passed _ listed := by cases listed

theorem Remembers.stale (remembers : Remembers backend s record msgs now)
    (older : staleFor now msg = true)
    (nothing : appliedSequence backend (run (rpmStep backend) s msgs) msg = none) :
    Remembers backend s record (msgs ++ [msg]) now := by
  have same : appliedSequences backend s (msgs ++ [msg]) = appliedSequences backend s msgs := by
    rw [appliedSequences_snoc, nothing, Option.toList_none, List.append_nil]
  obtain ⟨behind, unnumbered⟩ := staleFor_le older
  constructor
  · rw [same]
    rcases remembers.source with ⟨first, numbered⟩ | ⟨zero, origin⟩ | applied
    · by_cases none : msg.stateSequence = 0
      · exact .inr (.inl ⟨unnumbered none, .inr ⟨msg, by simp, none⟩⟩)
      · refine .inl ⟨first, fun state listed => ?_⟩
        rcases List.mem_append.mp listed with before | last
        · exact numbered state before
        · exact List.mem_singleton.mp last ▸ none
    · refine .inr (.inl ⟨zero, origin.imp_right ?_⟩)
      rintro ⟨state, listed, none⟩
      exact ⟨state, List.mem_append_left _ listed, none⟩
    · exact .inr (.inr applied)
  · rintro ⟨before, zero, split, none⟩
    obtain ⟨-, last⟩ := List.append_inj' split rfl
    exact unnumbered (List.singleton_inj.mp last ▸ none)
  · rw [same]
    intro front e middle split numbered passes
    rcases split_snoc split with ⟨rfl, rfl, -⟩ | ⟨middle', -, earlier⟩
    · rcases remembers.source with ⟨rfl, numbers⟩ | ⟨zero, -⟩ | applied
      · rcases passes with newer | ⟨zero, listed, none⟩
        · rw [older] at newer
          cases newer
        · exact absurd none (numbers zero listed)
      · exact absurd (UInt32.le_zero_iff.mp (zero ▸ behind)) numbered
      · exact ⟨_, applied, behind⟩
    · exact remembers.covered front e middle' earlier numbered passes
  · rw [same]
    intro sequence listed
    obtain ⟨numbered, front, e, middle, split, isSequence, passes⟩ :=
      remembers.passed sequence listed
    exact ⟨numbered, front, e, middle ++ [msg], by rw [split]; simp, isSequence, passes⟩

theorem Remembers.applied {now' : ProxyPlayerRecord F}
    (remembers : Remembers backend s record msgs now) (newer : staleFor now msg = false)
    (something : appliedSequence backend (run (rpmStep backend) s msgs) msg =
      if msg.stateSequence = 0 then none else some msg.stateSequence)
    (memory : now'.lastStateSequence = msg.stateSequence) :
    Remembers backend s record (msgs ++ [msg]) now' := by
  have sequences : appliedSequences backend s (msgs ++ [msg]) = appliedSequences backend s msgs ++
      if msg.stateSequence = 0 then [] else [msg.stateSequence] := by
    rw [appliedSequences_snoc, something]
    split <;> rfl
  constructor
  · by_cases none : msg.stateSequence = 0
    · exact .inr (.inl ⟨memory.trans none, .inr ⟨msg, by simp, none⟩⟩)
    · refine .inr (.inr ?_)
      rw [sequences, if_neg none, memory]
      exact List.mem_append_right _ (List.mem_singleton_self _)
  · rintro ⟨before, zero, split, none⟩
    obtain ⟨-, last⟩ := List.append_inj' split rfl
    exact memory.trans (List.singleton_inj.mp last ▸ none)
  · rw [sequences]
    intro front e middle split numbered passes
    rcases split_snoc split with ⟨-, rfl, -⟩ | ⟨middle', -, earlier⟩
    · exact ⟨_, by simp [numbered], UInt32.le_refl _⟩
    · obtain ⟨top, listed, above⟩ := remembers.covered front e middle' earlier numbered passes
      exact ⟨top, List.mem_append_left _ listed, above⟩
  · intro sequence listed
    have still : (sequence ∈ appliedSequences backend s msgs) → sequence ≠ 0 ∧
        ∃ front e middle, msgs ++ [msg] = front ++ e :: middle ∧ e.stateSequence = sequence ∧
          Passes record front e := by
      intro before
      obtain ⟨numbered, front, e, middle, split, isSequence, passes⟩ :=
        remembers.passed sequence before
      exact ⟨numbered, front, e, middle ++ [msg], by rw [split]; simp, isSequence, passes⟩
    rw [sequences] at listed
    rcases List.mem_append.mp listed with before | last
    · exact still before
    · by_cases none : msg.stateSequence = 0
      · rw [if_pos none] at last
        cases last
      · rw [if_neg none, List.mem_singleton] at last
        subst last
        have first : Passes record msgs msg → msg.stateSequence ≠ 0 ∧
            ∃ front e middle, msgs ++ [msg] = front ++ e :: middle ∧
              e.stateSequence = msg.stateSequence ∧ Passes record front e :=
          fun passes => ⟨none, msgs, msg, [], rfl, rfl, passes⟩
        rcases remembers.source with ⟨rfl, -⟩ | ⟨-, unknown | erased⟩ | earlier
        · exact first (.inl newer)
        · exact first (.inl (newer_of_lt (unknown ▸ UInt32.pos_iff_ne_zero.mpr none)))
        · exact first (.inr erased)
        · by_cases same : msg.stateSequence = now.lastStateSequence
          · exact still (same ▸ earlier)
          · obtain ⟨numbered, front, e, middle, split, isSequence, passes⟩ :=
              remembers.passed _ earlier
            have ahead := UInt32.lt_of_le_of_ne (le_of_newer newer none) (Ne.symm same)
            refine first (passes.imp (fun passed => newer_of_lt ?_) ?_)
            · have above := le_of_newer passed (isSequence ▸ numbered)
              exact UInt32.lt_of_le_of_lt (isSequence ▸ above) ahead
            · rintro ⟨zero, listed, erases⟩
              exact ⟨zero, split ▸ List.mem_append_left _ listed, erases⟩

/-- Over a stream of states of a player who has a record, that is what the record remembers. -/
theorem run_remembers (serves : backend.Serves) (somebody : p ≠ 0)
    (foreign : p ≠ s.1.localPlayerId) (shown : recordOf s p = some record)
    (about : ∀ msg ∈ msgs, msg.playerId = p) :
    ∃ now, recordOf (run (rpmStep backend) s msgs) p = some now ∧
      Remembers backend s record msgs now := by
  induction msgs using List.reverseRecOn with
  | nil => exact ⟨record, shown, remembers_nil record⟩
  | append_singleton msgs msg ih =>
      obtain ⟨now, shown', remembers⟩ := ih fun state listed =>
        about state (List.mem_append_left _ listed)
      obtain rfl := about msg (by simp)
      rw [run_snoc]
      have foreign' : msg.playerId ≠ (run (rpmStep backend) s msgs).1.localPlayerId := by
        rwa [run_localPlayerId]
      cases rpmApply_receives serves somebody foreign' shown' with
      | stale older nothing kept => exact ⟨now, kept, remembers.stale older nothing⟩
      | applied newer something after =>
          obtain ⟨now', shown'', memory⟩ := after
          exact ⟨now', shown'', remembers.applied newer something memory⟩

section Order
variable (serves : backend.Serves) (somebody : p ≠ 0) (foreign : p ≠ s.1.localPlayerId)
  (shown : recordOf s p = some record) (about : ∀ msg ∈ msgs, msg.playerId = p)
include serves somebody foreign shown about

/-- Without a relapse what is applied is in order, and bounded by a memory that is not erased. -/
theorem ordered_of_not_relapses (steady : ¬Relapses record msgs) :
    (appliedSequences backend s msgs).Pairwise (· ≤ ·) ∧
      ∀ now, recordOf (run (rpmStep backend) s msgs) p = some now →
        ∀ sequence ∈ appliedSequences backend s msgs,
          sequence ≤ now.lastStateSequence ∨ Erased msgs := by
  induction msgs using List.reverseRecOn with
  | nil => exact ⟨.nil, fun _ _ _ listed => by cases listed⟩
  | append_singleton msgs msg ih =>
      have about' : ∀ state ∈ msgs, state.playerId = p := fun state listed =>
        about state (List.mem_append_left _ listed)
      have steady' : ¬Relapses record msgs := by
        rintro ⟨front, e, middle, zero, low, after, rfl, relapse⟩
        exact steady ⟨front, e, middle, zero, low, after ++ [msg], by simp, relapse⟩
      obtain ⟨ordered, bounded⟩ := ih about' steady'
      obtain ⟨now, shown', remembers⟩ := run_remembers serves somebody foreign shown about'
      replace bounded := bounded now shown'
      obtain rfl := about msg (by simp)
      have foreign' : msg.playerId ≠ (run (rpmStep backend) s msgs).1.localPlayerId := by
        rwa [run_localPlayerId]
      rw [run_snoc, appliedSequences_snoc]
      cases rpmApply_receives serves somebody foreign' shown' with
      | stale older nothing kept =>
          rw [nothing, Option.toList_none, List.append_nil]
          refine ⟨ordered, fun next known sequence listed => ?_⟩
          obtain rfl := Option.some.inj (kept.symm.trans known)
          refine (bounded sequence listed).imp_right fun erased => ⟨msgs, msg, rfl, ?_⟩
          exact UInt32.le_zero_iff.mp (remembers.erased erased ▸ (staleFor_le older).1)
      | applied newer something after =>
          obtain ⟨next, known, memory⟩ := after
          rw [something]
          by_cases none : msg.stateSequence = 0
          · rw [if_pos none, Option.toList_none, List.append_nil]
            exact ⟨ordered, fun _ _ _ _ => .inr ⟨msgs, msg, rfl, none⟩⟩
          · have above : ∀ sequence ∈ appliedSequences backend s msgs,
                sequence ≤ msg.stateSequence := by
              intro sequence listed
              rcases bounded sequence listed with below | ⟨before, zero, rfl, erases⟩
              · exact UInt32.le_trans below (le_of_newer newer none)
              · obtain ⟨numbered, front, e, middle, split, rfl, passes⟩ :=
                  remembers.passed sequence listed
                rcases split_snoc split with ⟨-, rfl, -⟩ | ⟨middle', rfl, rfl⟩
                · exact absurd erases numbered
                · refine UInt32.not_lt.mp fun lower => steady ?_
                  exact ⟨front, e, middle', zero, msg, [], by simp, passes, erases, none, lower⟩
            rw [if_neg none, Option.toList_some]
            refine ⟨List.pairwise_append.mpr ⟨ordered, List.pairwise_singleton _ _, ?_⟩, ?_⟩
            · intro sequence listed last isLast
              exact List.mem_singleton.mp isLast ▸ above sequence listed
            · intro next' known' sequence listed
              obtain rfl := Option.some.inj (known.symm.trans known')
              rw [memory]
              rcases List.mem_append.mp listed with before | last
              · exact .inl (above sequence before)
              · exact .inl (List.mem_singleton.mp last ▸ UInt32.le_refl _)

/-- A relapse is applied, below what was. -/
theorem not_ordered_of_relapses (relapses : Relapses record msgs) :
    ¬(appliedSequences backend s msgs).Pairwise (· ≤ ·) := by
  intro ordered
  obtain ⟨front, e, middle, zero, low, after, rfl, passes, erases, numbered, lower⟩ := relapses
  obtain ⟨before, isBefore⟩ : ∃ before, before = front ++ e :: (middle ++ [zero]) := ⟨_, rfl⟩
  have split : front ++ e :: (middle ++ zero :: low :: after) = before ++ low :: after := by
    rw [isBefore]
    simp
  rw [split] at about ordered
  have about' : ∀ state ∈ before, state.playerId = p := fun state listed =>
    about state (List.mem_append_left _ listed)
  obtain ⟨now, shown', remembers⟩ := run_remembers serves somebody foreign shown about'
  have unknown := remembers.erased ⟨front ++ e :: middle, zero, by rw [isBefore]; simp, erases⟩
  obtain rfl := about low (by simp)
  have foreign' : low.playerId ≠ (run (rpmStep backend) s before).1.localPlayerId := by
    rwa [run_localPlayerId]
  have something : appliedSequence backend (run (rpmStep backend) s before) low =
      some low.stateSequence := by
    cases rpmApply_receives serves somebody foreign' shown' with
    | stale older => exact absurd (UInt32.le_zero_iff.mp (unknown ▸ (staleFor_le older).1)) numbered
    | applied _ something => rw [something, if_neg numbered]
  have named : e.stateSequence ≠ 0 := fun zero => UInt32.not_lt_zero (zero ▸ lower)
  obtain ⟨top, listed, above⟩ := remembers.covered front e _ isBefore named passes
  rw [appliedSequences, emitted_append, List.pairwise_append] at ordered
  have below := ordered.2.2 top listed low.stateSequence (by simp [emitted, something])
  exact UInt32.not_lt.mpr (UInt32.le_trans above below) lower

/-- The states of a player that are applied are in order exactly if none comes, directly behind an
erasure, with a sequence below one that got past the record before. -/
theorem appliedSequences_ordered_iff :
    (appliedSequences backend s msgs).Pairwise (· ≤ ·) ↔ ¬Relapses record msgs :=
  ⟨fun ordered relapses =>
      not_ordered_of_relapses serves somebody foreign shown about relapses ordered,
    fun steady => (ordered_of_not_relapses serves somebody foreign shown about steady).1⟩

end Order

end Stream

/-! ## A stream that relapses -/

/-- A state of player 2. -/
def numberedState (stateSequence : UInt32) : MsgPlayerState Binary32 :=
  ⟨2, 0, ⟨lit 0 1, lit 0 1, lit 0 1⟩, ⟨lit 0 1, lit 0 1, lit 0 1⟩, ⟨lit 0 1, lit 0 1, lit 0 1⟩, 0, {},
    0, 0, 0, stateSequence, 0⟩

/-- The manager of player 1 behind a first state of player 2. -/
def managerOfTwo : RemoteState Binary32 Unit :=
  rpmStep defaultBackend (rpmInit 1, ⟨.empty, ()⟩) (numberedState 4)

theorem appliedSequences_ordered_numbered :
    (appliedSequences defaultBackend managerOfTwo [numberedState 5, numberedState 6]).Pairwise
        (· ≤ ·) ↔
      ¬Relapses ((recordOf managerOfTwo 2).get (by decide +kernel))
        [numberedState 5, numberedState 6] :=
  appliedSequences_ordered_iff (p := 2) defaultBackend_serves (by decide) (by decide +kernel)
    (Option.some_get _).symm (by decide)

theorem appliedSequences_relapse : (recordOf managerOfTwo 2).isSome ∧
    ¬(appliedSequences defaultBackend managerOfTwo
      [numberedState 5, numberedState 0, numberedState 3]).Pairwise (· ≤ ·) := by
  decide +kernel

end F4MP.Client
