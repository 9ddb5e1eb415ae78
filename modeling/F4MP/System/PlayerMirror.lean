import F4MP.Service.Relay
import F4MP.Client.PlayerProxy
import F4MP.System.Mirror

/-!
# What a client shows of another player

What the service relays of a player passes two filters: `psr_evaluate` in the service and the one of
`rpm_apply_remote_player_state` in the client.
-/

namespace F4MP.System
open SoftFloat CFloat Protocol Service Client Transition MessageFlags

variable {F : Type} [CFloat F]

/-! ## The two filters -/

/-- The client takes the new state for the old one. -/
def Overlooked (old new : MsgPlayerState F) : Prop :=
  new.stateSequence = old.stateSequence ∧ new.observedTick = old.observedTick ∧ new.observedTick ≠ 0

instance (old new : MsgPlayerState F) : Decidable (Overlooked old new) :=
  inferInstanceAs (Decidable (_ ∧ _))

/-- Nothing of the new state that a record shows is new. -/
structure Repeats (old new : MsgPlayerState F) : Prop where
  velocity : old.velocity = new.velocity
  stance : old.stance = new.stance
  animState : old.animState = new.animState
  equippedFormId : old.equippedFormId = new.equippedFormId
  sequence : old.stateSequence = new.stateSequence
  tick : old.observedTick = new.observedTick

omit [CFloat F] in
theorem ProxyPlayerRecord.shows_iff_repeats {record : ProxyPlayerRecord F}
    {old new : MsgPlayerState F} (shows_ : record.Shows old) :
    record.Shows new ↔ Repeats old new := by
  obtain ⟨velocity, stance, animState, form, sequence, tick⟩ := shows_
  constructor
  · rintro ⟨velocity', stance', animState', form', sequence', tick'⟩
    exact ⟨velocity ▸ velocity', stance ▸ stance', animState ▸ animState', form ▸ form',
      sequence ▸ sequence', tick ▸ tick'⟩
  · rintro ⟨velocity', stance', animState', form', sequence', tick'⟩
    exact ⟨velocity.trans velocity', stance.trans stance', animState.trans animState',
      form.trans form', sequence.trans sequence', tick.trans tick'⟩

omit [CFloat F] in
/-- Of what the service relays, the client drops what it overlooks. -/
theorem staleFor_relayed {report : Report F} {current : PlayerRuntimeState F}
    {state : MsgPlayerState F} {record : ProxyPlayerRecord F} (counted : current.Counted)
    (relayed : report.relayed current = some state)
    (shows_ : record.Shows current.replicatedState) :
    staleFor record state = true ↔ Overlooked current.replicatedState state := by
  simp only [staleFor, shows_.sequence, shows_.tick, Bool.or_eq_true, Bool.and_eq_true, bne_iff_ne,
    beq_iff_eq, decide_eq_true_eq, Overlooked]
  cases report with
  | state msg =>
      rw [Report.relayed] at relayed
      split at relayed
      · rename_i accepted
        obtain rfl := Option.some.inj relayed
        obtain ⟨fresh, _, forward, _⟩ := psrEvaluate_accept accepted
        constructor
        · rintro (⟨⟨nonzero, known⟩, older⟩ | ⟨⟨⟨same, nonzero⟩, known⟩, notLater⟩)
          · have last := counted.sequence known
            exact absurd ⟨nonzero, last.trans_ne known, last ▸ older⟩ fresh
          · refine ⟨same, UInt32.le_antisymm notLater ?_, nonzero⟩
            have last := counted.tick known
            exact UInt32.not_lt.mp fun older => forward ⟨nonzero, last.trans_ne known, last ▸ older⟩
        · rintro ⟨same, sameTick, nonzero⟩
          exact .inr ⟨⟨⟨same, nonzero⟩, sameTick ▸ nonzero⟩, sameTick ▸ UInt32.le_refl _⟩
      · cases relayed
  | input msg =>
      obtain rfl := Option.some.inj relayed
      simp only [PlayerRuntimeState.input]
      constructor
      · rintro (⟨⟨_, _⟩, less⟩ | ⟨⟨⟨_, nonzero⟩, _⟩, _⟩)
        · exact absurd less (UInt32.lt_irrefl _)
        · exact ⟨trivial, trivial, nonzero⟩
      · rintro ⟨_, _, nonzero⟩
        exact .inr ⟨⟨⟨trivial, nonzero⟩, nonzero⟩, UInt32.le_refl _⟩

/-! ## A relayed state at the client -/

section Relayed
variable {kB : UInt32} {c : ClientState F Unit} {s : SessionState F} {flags : UInt16}
  {state : MsgPlayerState F}

/-- The client shows the state of the player. -/
def ShownAs (p : PlayerId) (state : MsgPlayerState F) (c : ClientState F Unit) : Prop :=
  ∃ record, playerShown c p = some record ∧ record.Shows state

/-- When a relayed state is shown: a new record is made for it, or it is not overlooked, or the record
shows the same already. -/
def Agrees (p : PlayerId) (old state : MsgPlayerState F) (c : ClientState F Unit) : Prop :=
  match playerShown c p with
  | none => state.playerId = p ∧ PlayerProxies.HasRoom c.remote.players
  | some _ => state.playerId = p ∧ ¬ Overlooked old state ∨ Repeats old state

/-- The client is not the player. -/
def Foreign (p : PlayerId) (c : ClientState F Unit) : Prop := p ≠ c.manager.localPlayerId

theorem Foreign.apply {p : PlayerId} (foreign : Foreign p c) (state : MsgPlayerState F) :
    Foreign p (applyMessage defaultBackend .playerState state c).2 := by
  rw [Foreign, applyMessage_localPlayerId]
  exact foreign

theorem ShownAs.again (nobody : state.playerId ≠ 0) (foreign : Foreign state.playerId c)
    (shown : ShownAs state.playerId state c) :
    ShownAs state.playerId state (applyMessage defaultBackend .playerState state c).2 := by
  obtain ⟨record, found, shows_⟩ := shown
  cases stale : staleFor record state with
  | true => exact ⟨record, (applyPlayerState_stale found stale).2, shows_⟩
  | false => exact (applyPlayerState_newer nobody foreign found stale).2

variable (connected : Connected kB s)
include connected

theorem shownAs_toConnected (nobody : state.playerId ≠ 0) (foreign : Foreign state.playerId c)
    {P : ClientState F Unit → Prop}
    (first : ∀ c, P c → Foreign state.playerId c →
      ShownAs state.playerId state (applyMessage defaultBackend .playerState state c).2)
    (start : P c) :
    ShownAs state.playerId state
      ((toConnected s .playerState flags state).foldl (applyPost defaultBackend kB) c) := by
  refine (applyPosts_toConnected (P := fun c => P c ∧ Foreign state.playerId c)
    (Q := fun c => ShownAs state.playerId state c ∧ Foreign state.playerId c) flags connected
    (fun c held => ⟨first c held.1 held.2, held.2.apply state⟩)
    (fun c held => ⟨held.1.again nobody held.2, held.2.apply state⟩) ⟨start, foreign⟩).1

omit connected in
theorem toConnected_keep (kB : UInt32) (s : SessionState F) (flags : UInt16)
    (state : MsgPlayerState F) {Q : ClientState F Unit → Prop}
    (keeps : ∀ c, Q c → Q (applyMessage defaultBackend .playerState state c).2) (start : Q c) :
    Q ((toConnected s .playerState flags state).foldl (applyPost defaultBackend kB) c) := by
  refine applyPosts_keep (fun p member => ?_) start
  obtain ⟨_, _, _, rfl⟩ := mem_toConnected member
  exact keeps

theorem shownAs_relayed_iff {p : PlayerId} {old : MsgPlayerState F} (nobody : p ≠ 0)
    (foreign : Foreign p c) (start : ∀ record, playerShown c p = some record → record.Shows old)
    (stale : ∀ record : ProxyPlayerRecord F, record.Shows old →
      (staleFor record state = true ↔ Overlooked old state)) :
    ShownAs p state ((toConnected s .playerState flags state).foldl (applyPost defaultBackend kB) c)
      ↔ Agrees p old state c := by
  by_cases named : state.playerId = p
  · subst named
    have always : ∀ {P : ClientState F Unit → Prop}, (∀ c, P c → Foreign state.playerId c →
        ShownAs state.playerId state (applyMessage defaultBackend .playerState state c).2) → P c →
        ShownAs state.playerId state
          ((toConnected s .playerState flags state).foldl (applyPost defaultBackend kB) c) :=
      fun first start => shownAs_toConnected connected nobody foreign first start
    cases shown : playerShown c state.playerId with
    | none =>
        simp only [Agrees, shown, true_and]
        by_cases room : PlayerProxies.HasRoom c.remote.players
        · refine iff_of_true (always (P := fun c => playerShown c state.playerId = none ∧
            PlayerProxies.HasRoom c.remote.players) ?_ ⟨shown, room⟩) room
          rintro c ⟨absent, free⟩ foreign
          rcases applyPlayerState_new nobody foreign absent with ⟨_, _, shown⟩ | ⟨full, _⟩
          · exact shown
          · exact absurd free full
        · refine iff_of_false ?_ room
          have full := toConnected_keep kB s flags state
            (Q := fun c => Foreign state.playerId c ∧ playerShown c state.playerId = none ∧
              ¬ PlayerProxies.HasRoom c.remote.players) ?_ ⟨foreign, shown, room⟩
          · rintro ⟨record, found, _⟩
            cases found.symm.trans full.2.1
          · rintro c ⟨foreign, absent, full⟩
            rcases applyPlayerState_new nobody foreign absent with ⟨free, _⟩ | ⟨_, _, same⟩
            · exact absurd free full
            · rw [playerShown, same]
              exact ⟨foreign.apply state, absent, full⟩
    | some record =>
        have shows_ := start record shown
        simp only [Agrees, shown, true_and]
        cases dropped : staleFor record state with
        | true =>
            have kept := toConnected_keep kB s flags state
              (Q := fun c => playerShown c state.playerId = some record)
              (fun c shown => (applyPlayerState_stale shown dropped).2) shown
            rw [or_iff_right (not_not.mpr ((stale record shows_).mp dropped)),
              ← ProxyPlayerRecord.shows_iff_repeats shows_]
            constructor
            · rintro ⟨after, found, showsNew⟩
              obtain rfl := Option.some.inj (kept.symm.trans found)
              exact showsNew
            · exact fun showsNew => ⟨record, kept, showsNew⟩
        | false =>
            refine iff_of_true (always (P := fun c => playerShown c state.playerId = some record)
              (fun c shown foreign => (applyPlayerState_newer nobody foreign shown dropped).2) shown)
              (.inl fun overlooked => ?_)
            rw [(stale record shows_).mpr overlooked] at dropped
            cases dropped
  · have kept := toConnected_keep kB s flags state
      (Q := fun after => playerShown after p = playerShown c p)
      (fun after same => (applyPlayerState_other (Ne.symm named)).trans same) rfl
    cases shown : playerShown c p with
    | none =>
        simp only [ShownAs, kept, shown, Agrees, named, false_and]
        refine iff_of_false ?_ id
        rintro ⟨_, found, _⟩
        cases found
    | some record =>
        simp only [ShownAs, kept, shown, Agrees, named, false_and, false_or]
        rw [← ProxyPlayerRecord.shows_iff_repeats (start record shown)]
        constructor
        · rintro ⟨_, found, showsNew⟩
          cases found
          exact showsNew
        · exact fun showsNew => ⟨record, rfl, showsNew⟩

end Relayed

/-! ## A player and a client that stay connected -/

section Run
variable [WireFloat F] {kA kB : UInt32} {p : PlayerId} {m : Mirror F Unit} {e : NetworkEvent}

/-- The envelope is from the player, holds a report, and is handled. -/
def Reports (kA : UInt32) (m : Mirror F Unit) : NetworkEvent → Prop
  | .envelope store env => env.connectionId = kA ∧ (reportOf? F env.bytes).isSome = true ∧
      (tlHandleEnvelope store env m.service).1 = true
  | .tick => False

instance : ∀ e, Decidable (Reports kA m e)
  | .envelope _ _ => inferInstanceAs (Decidable (_ ∧ _))
  | .tick => inferInstanceAs (Decidable False)

/-- After a broadcast the client shows what the service replicates of the player. -/
def RelayShown (kB : UInt32) (p : PlayerId) (m : Mirror F Unit) (e : NetworkEvent) : Prop :=
  let after := mirrorStep defaultBackend kB m e
  (∃ output ∈ (networkStep m.service e).ctx.outputs, output.connectionId = kB) →
    ∃ player, findPlayer after.service.session p = some player ∧
      ShownAs p player.replicatedState after.client

/-- What the report makes the service relay agrees with what the client shows. -/
def RelayAgrees (p : PlayerId) (m : Mirror F Unit) : NetworkEvent → Prop
  | .envelope _ env => ∀ report current state, reportOf? F env.bytes = some report →
      findPlayer m.service.session p = some current → report.relayed current = some state →
        Agrees p current.replicatedState state m.client
  | .tick => True

/-- The player is connected behind `kA`, and the client, behind `kB`, shows its state or nothing. -/
structure Paired (kA kB : UInt32) (p : PlayerId) (m : Mirror F Unit) : Prop where
  reachable : Reachable m.service
  cleared : m.service.ctx.outputs = []
  sender : ∃ player, tlFindPlayerByConnection m.service.session kA = some player ∧
    player.playerId = p ∧
    ∀ record, playerShown m.client p = some record → record.Shows player.replicatedState
  connected : Connected kB m.service.session
  foreign : Foreign p m.client

/-- A report that is handled, as what it writes and what the client applies. -/
structure Reported (kB : UInt32) (p : PlayerId) (m : Mirror F Unit) (e : NetworkEvent)
    (report : Report F) (player : PlayerRuntimeState F)
    (f : PlayerRuntimeState F → PlayerRuntimeState F) : Prop where
  found : findPlayer m.service.session p = some player
  keeps : ∀ q, (f q).seat = q.seat
  leaves : (f player).replicatedState = (report.relayed player).getD player.replicatedState
  session : (networkStep m.service e).session = updatePlayer m.service.session p f
  queue : (networkStep m.service e).ctx.outputs =
    queuedPosts m.service (report.posts m.service.session player)
  applied : mirrorStep defaultBackend kB m e = ⟨tlClearOutputs (networkStep m.service e),
    (report.posts m.service.session player).foldl (applyPost defaultBackend kB) m.client⟩
  agrees : RelayAgrees p m e ↔ ∀ state, report.relayed player = some state →
    Agrees p player.replicatedState state m.client

theorem Paired.player (paired : Paired kA kB p m) [LawfulWireFloat F] :
    ∃ player, tlFindPlayerByConnection m.service.session kA = some player ∧
      findPlayer m.service.session p = some player ∧ player.playerId = p ∧ p ≠ 0 ∧
      ∀ record, playerShown m.client p = some record → record.Shows player.replicatedState := by
  obtain ⟨player, byConnection, rfl, shows_⟩ := paired.sender
  obtain ⟨k, _, at_, connected⟩ := resolvedSlot_found byConnection
  have aligned := paired.reachable.aligned
  have placed : Placed m.service.session.seats := aligned.placed
  exact ⟨player, byConnection, placed.findPlayer_eq at_ connected, rfl,
    aligned.connected_ne_zero (List.mem_of_getElem? at_) connected, shows_⟩

variable [LawfulWireFloat F]

theorem Paired.reportedAs (paired : Paired kA kB p m) (reports : Reports kA m e) {report : Report F}
    (reported : ∀ store env, e = .envelope store env → reportOf? F env.bytes = some report) :
    ∃ player f, Reported kB p m e report player f := by
  obtain ⟨player, byConnection, foundHere, rfl, _, _⟩ := paired.player
  cases e with
  | tick => cases reports
  | envelope store env =>
      obtain ⟨rfl, opens, handled⟩ := reports
      have reported := reported store env rfl
      obtain ⟨sender, current, f, sequence, sends, rewrites, after⟩ :=
        tlHandleEnvelope_report reported handled
      obtain rfl := Option.some.inj (sends.symm.trans byConnection)
      obtain rfl := Option.some.inj (rewrites.found.symm.trans foundHere)
      have sendable := report.posts_sendable m.service.session current
      have queue : (networkStep m.service (.envelope store env)).ctx.outputs =
          m.service.ctx.outputs ++ queuedPosts m.service (report.posts m.service.session current) :=
        (congrArg (·.ctx.outputs) after).trans (post_outputs sendable)
      refine ⟨current, f, foundHere, rewrites.keeps, rewrites.leaves,
        (congrArg (·.session) after).trans (post_session _ _), ?_, ?_, ?_⟩
      · rw [queue, paired.cleared, List.nil_append]
      · rw [mirrorStep_queued defaultBackend kB paired.cleared sendable queue,
          List.take_of_length_le (report.posts_length _ _)]
      · constructor
        · exact fun agrees state relayed => agrees report current state reported foundHere relayed
        · intro agrees other now state found is relayed
          obtain rfl := Option.some.inj (reported.symm.trans found)
          obtain rfl := Option.some.inj (foundHere.symm.trans is)
          exact agrees state relayed

theorem Paired.reported (paired : Paired kA kB p m) (reports : Reports kA m e) :
    ∃ report player f, Reported kB p m e report player f := by
  cases e with
  | tick => cases reports
  | envelope store env =>
      obtain ⟨report, reported⟩ := Option.isSome_iff_exists.mp reports.2.1
      refine ⟨report, paired.reportedAs reports fun _ _ same => ?_⟩
      cases same
      exact reported

section Step
variable {report : Report F} {player : PlayerRuntimeState F}
  {f : PlayerRuntimeState F → PlayerRuntimeState F}

omit [LawfulWireFloat F] in
theorem Reported.foundAfter (reported : Reported kB p m e report player f) :
    findPlayer (mirrorStep defaultBackend kB m e).service.session p = some (f player) := by
  rw [reported.applied]
  change findPlayer (networkStep m.service e).session p = some (f player)
  rw [reported.session, findPlayer_updatePlayer m.service.session p reported.keeps, reported.found]
  rfl

theorem Reported.queued (reported : Reported kB p m e report player f)
    (paired : Paired kA kB p m) {state : MsgPlayerState F}
    (relayed : report.relayed player = some state) :
    ∃ output ∈ (networkStep m.service e).ctx.outputs, output.connectionId = kB := by
  obtain ⟨q, listed, connected⟩ := List.mem_map.mp paired.connected
  obtain ⟨slot, isConnected⟩ := List.mem_filter.mp listed
  have member : (⟨kB, .playerState, ch1World, state⟩ : Post F) ∈
      report.posts m.service.session player := by
    rw [Report.posts_eq, relayed, ← connected]
    exact mem_toConnected_of_connected slot isConnected _ _
  have room : (⟨kB, .playerState, ch1World, state⟩ : Post F) ∈
      (report.posts m.service.session player).take (maxOutputs - m.service.ctx.outputs.length) := by
    rwa [paired.cleared, List.length_nil, Nat.sub_zero,
      List.take_of_length_le (report.posts_length _ _)]
  obtain ⟨output, listed, addressed, _⟩ :=
    queuedPosts_of_take (report.posts_sendable m.service.session player) room
  exact ⟨output, reported.queue ▸ listed, addressed⟩

theorem Reported.shown (reported : Reported kB p m e report player f)
    (paired : Paired kA kB p m) {state : MsgPlayerState F}
    (relayed : report.relayed player = some state) :
    ShownAs p state (mirrorStep defaultBackend kB m e).client ↔
      Agrees p player.replicatedState state m.client := by
  obtain ⟨sender, _, foundHere, named, nobody, shows_⟩ := paired.player
  obtain rfl := Option.some.inj (reported.found.symm.trans foundHere)
  have counted := paired.reachable.allCounted player
    (List.mem_of_find?_eq_some reported.found)
  rw [reported.applied, Report.posts_eq, relayed]
  exact shownAs_relayed_iff paired.connected nobody paired.foreign shows_
    fun record shows_ => staleFor_relayed counted relayed shows_

/-- After one report the client shows what the service replicates exactly if it agrees. -/
theorem Paired.shown_iff (paired : Paired kA kB p m) (reports : Reports kA m e) :
    RelayShown kB p m e ↔ RelayAgrees p m e := by
  obtain ⟨report, player, f, reported⟩ := paired.reported reports
  rw [reported.agrees]
  cases relayed : report.relayed player with
  | none =>
      refine iff_of_true ?_ (fun state is => by cases is)
      rintro ⟨output, queued, _⟩
      rw [reported.queue, Report.posts_eq, relayed] at queued
      cases (List.mem_of_mem_take queued)
  | some state =>
      have leaves := reported.leaves
      rw [relayed, Option.getD_some] at leaves
      have shown := reported.shown paired relayed
      constructor
      · intro shows_ other is
        obtain rfl := Option.some.inj is
        obtain ⟨now, found, shownNow⟩ := shows_ (reported.queued paired relayed)
        obtain rfl := Option.some.inj (reported.foundAfter.symm.trans found)
        exact shown.mp (leaves ▸ shownNow)
      · intro agrees _
        exact ⟨f player, reported.foundAfter, leaves ▸ shown.mpr (agrees state rfl)⟩

/-- What agrees leaves the client with the replicated state, or nothing. -/
theorem Paired.step (paired : Paired kA kB p m) (reports : Reports kA m e)
    (agrees : RelayAgrees p m e) : Paired kA kB p (mirrorStep defaultBackend kB m e) := by
  obtain ⟨report, player, f, reported⟩ := paired.reported reports
  obtain ⟨sender, byConnection, foundHere, named, nobody, shows_⟩ := paired.player
  obtain rfl := Option.some.inj (reported.found.symm.trans foundHere)
  have reachable : Reachable (mirrorStep defaultBackend kB m e).service := by
    obtain ⟨event, step⟩ := transportStep_service m.service (.network e)
    have next := (paired.reachable.step event).step .clearOutputs
    rw [← step] at next
    exact next
  have seats : (mirrorStep defaultBackend kB m e).service.session.seats =
      m.service.session.seats :=
    (congrArg SessionState.seats reported.session).trans
      (seats_updatePlayer m.service.session p reported.keeps)
  refine ⟨reachable, rfl, ?_, ?_, ?_⟩
  · obtain ⟨now, byConnectionNow, same⟩ := tlFindPlayerByConnection_of_seats seats byConnection
    refine ⟨now, byConnectionNow, same.trans named, fun record shown => ?_⟩
    have foundNow : now = f player := by
      obtain ⟨k, _, at_, connected⟩ := resolvedSlot_found byConnectionNow
      have placed : Placed (mirrorStep defaultBackend kB m e).service.session.seats :=
        reachable.aligned.placed
      have found := placed.findPlayer_eq at_ connected
      rw [same, named] at found
      exact Option.some.inj (found.symm.trans reported.foundAfter)
    have leaves := reported.leaves
    subst foundNow
    cases relayed : report.relayed player with
    | none =>
        rw [relayed, Option.getD_none] at leaves
        rw [reported.applied, Report.posts_eq, relayed] at shown
        exact leaves ▸ shows_ record shown
    | some state =>
        rw [relayed, Option.getD_some] at leaves
        have shownAs := (reported.shown paired relayed).mpr (reported.agrees.mp agrees state relayed)
        obtain ⟨after, found, showsState⟩ := shownAs
        obtain rfl := Option.some.inj (found.symm.trans shown)
        exact leaves ▸ showsState
  · rw [Connected, connections_of_seats seats]
    exact paired.connected
  · rw [Foreign, reported.applied]
    have own : ((report.posts m.service.session player).foldl (applyPost defaultBackend kB)
        m.client).manager.localPlayerId = m.client.manager.localPlayerId :=
      applyPosts_keep (Q := fun c => c.manager.localPlayerId = m.client.manager.localPlayerId)
        (fun q _ c same => (applyMessage_localPlayerId _ _ _ c).trans same) rfl
    exact own.symm ▸ paired.foreign

end Step

/-- Of a player and a client that stay connected, the client shows after every broadcast what the service
replicates of the player exactly if all that is relayed agrees with what the client shows. -/
theorem relayShown_iff (paired : Paired kA kB p m) {events : List NetworkEvent}
    (reports : Along (mirrorStep defaultBackend kB) (Reports kA) m events) :
    Along (mirrorStep defaultBackend kB) (RelayShown kB p) m events ↔
      Along (mirrorStep defaultBackend kB) (RelayAgrees p) m events :=
  @along_congr _ _ _ _ _ _ _ _ (Paired kA kB p) (fun _ _ paired reports => paired.shown_iff reports)
    (fun _ _ paired reports agrees => paired.step reports agrees) paired reports

end Run

/-! ## Two players -/

/-- Two players have joined, and all that they were told is sent. -/
def twoPlayers : ServiceState Binary32 :=
  let store : ProfileStore := ⟨fun _ => none⟩
  run serviceStep (freshService 1 15 20 [7])
    [.envelope store (envelopeOf (F := Binary32) 100 .hello (⟨0, 0⟩, [0x41], [0x41])),
      .envelope store (envelopeOf (F := Binary32) 101 .hello (⟨0, 0⟩, [0x42], [0x42])), .clearOutputs]

/-- The client of the second, which shows nobody yet. -/
def secondClient : ClientState Binary32 Unit := freshClient 2 ()

def stateReport (sequence observedTick : UInt32) : NetworkEvent :=
  .envelope ⟨fun _ => none⟩ (envelopeOf (F := Binary32) 100 .playerState
    ⟨1, 0, zeroVec, zeroRot, zeroVec, 0, {}, 0, 0, 0, sequence, observedTick⟩)

def inputReport (equippedFormId : UInt32) : NetworkEvent :=
  .envelope ⟨fun _ => none⟩ (envelopeOf (F := Binary32) 100 .inputState
    ⟨1, 0, 0, 0, 0, 0, equippedFormId⟩)

theorem twoPlayers_paired : Paired 100 101 1 ⟨twoPlayers, secondClient⟩ := by
  refine ⟨⟨1, 15, 20, [7], _, rfl⟩, by decide +kernel, ?_, by decide +kernel, by unfold Foreign; decide⟩
  have joined : (tlFindPlayerByConnection twoPlayers.session 100).map (·.playerId) = some 1 := by
    decide +kernel
  obtain ⟨player, found, named⟩ := Option.map_eq_some_iff.mp joined
  exact ⟨player, found, named, fun record shown => by cases shown⟩

theorem relayShown_iff_reports :
    let m : Mirror Binary32 Unit := ⟨twoPlayers, secondClient⟩
    let events := [stateReport 1 5, stateReport 2 6, inputReport 0]
    Along (mirrorStep defaultBackend 101) (RelayShown 101 1) m events ↔
      Along (mirrorStep defaultBackend 101) (RelayAgrees 1) m events :=
  relayShown_iff twoPlayers_paired (by decide +kernel)

/-- An INPUT_STATE changes what the player holds; the client still shows the old. -/
theorem relayShown_changed :
    let m : Mirror Binary32 Unit := ⟨twoPlayers, secondClient⟩
    let events := [stateReport 1 5, inputReport 7]
    Paired 100 101 1 m ∧ Along (mirrorStep defaultBackend 101) (Reports 100) m events ∧
      ¬ Along (mirrorStep defaultBackend 101) (RelayShown 101 1) m events := by
  intro m events
  refine ⟨twoPlayers_paired, by decide +kernel, fun shown => ?_⟩
  let before := mirrorStep defaultBackend 101 m (stateReport 1 5)
  let after := mirrorStep defaultBackend 101 before (inputReport 7)
  have queued : (networkStep before.service (inputReport 7)).ctx.outputs.any
      (·.connectionId == 101) = true := by decide +kernel
  have holds : (findPlayer after.service.session 1).map (·.replicatedState.equippedFormId) =
      some 7 := by decide +kernel
  have shows_ : (playerShown after.client 1).map (·.equippedFormId) = some 0 := by decide +kernel
  obtain ⟨output, listed, addressed⟩ := List.any_eq_true.mp queued
  obtain ⟨player, found, record, foundRecord, showsState⟩ :=
    shown.2.1 ⟨output, listed, eq_of_beq addressed⟩
  rw [found] at holds
  rw [foundRecord] at shows_
  have old : record.equippedFormId = 0 := Option.some.inj shows_
  have new : player.replicatedState.equippedFormId = 7 := Option.some.inj holds
  have same := showsState.equippedFormId
  rw [old, new] at same
  cases same

end F4MP.System
