import F4MP.Library.Transition
import F4MP.Service.Outcome

/-!
# Settlement accounting

A settlement counts its objects in a field of its own. Over every run of build, move and scrap
requests the field is the number of objects in use that carry the settlement's id.
-/

namespace F4MP.Service
open SoftFloat Protocol Transition

variable {F : Type}

/-! ## Requests -/

inductive WorkshopRequest (F : Type) where
  | build (whitelist : List UInt32) (msg : MsgBuildRequest F)
  | move (msg : MsgObjectMoveRequest F)
  | scrap (msg : MsgObjectScrapRequest)

/-- What the workshop handlers work on: the session and `g_next_object_id`. -/
structure Workshop (F : Type) where
  session : SessionState F
  nextObjectId : ObjectNetId

section Requests
variable [CFloat F]

def workshopStep (w : Workshop F) : WorkshopRequest F → Workshop F
  | .build whitelist msg =>
      let outcome := acHandleBuildRequest w.session whitelist w.nextObjectId msg
      ⟨outcome.session, outcome.nextObjectId⟩
  | .move msg => { w with session := (acHandleObjectMove w.session msg).getD w.session }
  | .scrap msg => { w with session := (acHandleObjectScrap w.session msg).getD w.session }

/-- A build that is not denied draws an id from the counter. -/
def draws (w : Workshop F) : WorkshopRequest F → Nat
  | .build whitelist msg => if validateBuildRequest w.session whitelist msg then 1 else 0
  | .move _ => 0
  | .scrap _ => 0

/-- The ids drawn over a run. -/
def idsDrawn : Workshop F → List (WorkshopRequest F) → Nat
  | _, [] => 0
  | w, request :: rest => draws w request + idsDrawn (workshopStep w request) rest

end Requests

/-! ## The balance -/

/-- The objects in use that carry a settlement's id. -/
def objectsOf (s : SessionState F) (settlementId : UInt32) : Nat :=
  s.objects.slots.countP fun obj => obj.inUse && obj.settlementId == settlementId

/-- The counts are right and within their budgets, and the objects in use have ids of their own. -/
structure Balanced (s : SessionState F) : Prop where
  counted : ∀ settlement ∈ s.settlements.slots, settlement.inUse = true →
    settlement.objectCount.toNat = objectsOf s settlement.settlementId
  budgeted : ∀ settlement ∈ s.settlements.slots, settlement.inUse = true →
    settlement.objectCount ≤ settlement.objectBudget
  idsApart : ((s.objects.slots.filter (·.inUse)).map (·.objectNetId)).Nodup
  idsNonzero : ∀ obj ∈ s.objects.slots, obj.inUse = true → obj.objectNetId ≠ 0

/-- The balance of the settlements that can be found, with ids below the counter. -/
structure Accounts (w : Workshop F) : Prop where
  settlements : Slots.Distinct w.session.settlements.slots
  objects : Slots.Distinct w.session.objects.slots
  counted : ∀ id settlement, findSettlement w.session id = some settlement →
    settlement.objectCount.toNat = objectsOf w.session id ∧
      settlement.objectCount ≤ settlement.objectBudget
  drawn : ∀ obj ∈ w.session.objects.slots, obj.inUse = true →
    0 < obj.objectNetId.toNat ∧ obj.objectNetId.toNat < w.nextObjectId.toNat

theorem Accounts.balanced {w : Workshop F} (accounts : Accounts w) : Balanced w.session where
  counted settlement member inUse :=
    (accounts.counted _ _ (Slots.lookup_of_mem accounts.settlements member inUse)).1
  budgeted settlement member inUse :=
    (accounts.counted _ _ (Slots.lookup_of_mem accounts.settlements member inUse)).2
  idsApart := accounts.objects.nodup_keys
  idsNonzero obj member inUse zero := by
    have drawn := accounts.drawn obj member inUse
    rw [zero] at drawn
    exact Nat.lt_irrefl 0 drawn.1

/-! ## What a request does to the books -/

def SettlementState.built (settlement : SettlementState F) : SettlementState F :=
  { settlement with objectCount := settlement.objectCount + 1 }

def SettlementState.scrapped (settlement : SettlementState F) : SettlementState F :=
  if 0 < settlement.objectCount then
    { settlement with objectCount := settlement.objectCount - 1 }
  else settlement

theorem findSettlement_update (s : SessionState F) (settlementId : UInt32)
    {f : SettlementState F → SettlementState F} (keeps : ∀ settlement : SettlementState F,
      (f settlement).inUse = settlement.inUse ∧ (f settlement).settlementId = settlement.settlementId)
    (id : UInt32) : findSettlement (updateSettlement s settlementId f) id =
      if id = settlementId then (findSettlement s id).map f else findSettlement s id := by
  refine Slots.lookup_update (fun settlement held => ?_) id
  obtain ⟨live, key⟩ := Slots.holds_iff.mp held
  exact Slots.holds_iff.mpr ⟨(keeps settlement).1.trans live, (keeps settlement).2.trans key⟩

theorem distinct_updateSettlement {s : SessionState F} (distinct : Slots.Distinct s.settlements.slots)
    (settlementId : UInt32) {f : SettlementState F → SettlementState F}
    (keeps : ∀ settlement : SettlementState F, (f settlement).inUse = settlement.inUse ∧
      (f settlement).settlementId = settlement.settlementId) :
    Slots.Distinct (updateSettlement s settlementId f).settlements.slots := by
  refine distinct.update fun settlement held => ?_
  obtain ⟨live, key⟩ := Slots.holds_iff.mp held
  exact Slots.holds_iff.mpr ⟨(keeps settlement).1.trans live, (keeps settlement).2.trans key⟩

theorem SettlementState.built_keeps (settlement : SettlementState F) :
    settlement.built.inUse = settlement.inUse ∧
      settlement.built.settlementId = settlement.settlementId := ⟨rfl, rfl⟩

theorem SettlementState.scrapped_keeps (settlement : SettlementState F) :
    settlement.scrapped.inUse = settlement.inUse ∧
      settlement.scrapped.settlementId = settlement.settlementId := by
  unfold SettlementState.scrapped
  split <;> exact ⟨rfl, rfl⟩

theorem SettlementState.built_count {settlement : SettlementState F}
    (room : settlement.objectCount < settlement.objectBudget) :
    settlement.built.objectCount.toNat = settlement.objectCount.toNat + 1 := by
  have below := UInt32.lt_iff_toNat_lt.mp room
  have largest := UInt32.toNat_lt settlement.objectBudget
  rw [built, UInt32.toNat_add, UInt32.toNat_one, Nat.mod_eq_of_lt (by omega)]

theorem SettlementState.scrapped_count {settlement : SettlementState F}
    (some_left : 0 < settlement.objectCount.toNat)
    (budget : settlement.objectCount ≤ settlement.objectBudget) :
    settlement.scrapped.objectCount.toNat = settlement.objectCount.toNat - 1 ∧
      settlement.scrapped.objectCount ≤ settlement.scrapped.objectBudget := by
  have positive : 0 < settlement.objectCount := UInt32.lt_iff_toNat_lt.mpr some_left
  have one : (1 : UInt32) ≤ settlement.objectCount := UInt32.le_iff_toNat_le.mpr some_left
  have shrunk := UInt32.toNat_sub_of_le _ _ one
  rw [scrapped, if_pos positive]
  refine ⟨shrunk, UInt32.le_iff_toNat_le.mpr ?_⟩
  exact shrunk ▸ (Nat.sub_le _ _).trans (UInt32.le_iff_toNat_le.mp budget)

section Steps
variable [CFloat F]

theorem validateBuildRequest_budget {s : SessionState F} {whitelist : List UInt32}
    {msg : MsgBuildRequest F} (valid : validateBuildRequest s whitelist msg = true) :
    ∃ settlement, findSettlement s msg.settlementId = some settlement ∧
      settlement.objectCount < settlement.objectBudget := by
  unfold validateBuildRequest at valid
  split at valid
  · cases valid
  · split at valid
    · cases valid
    · split at valid
      · cases valid
      · rename_i settlement found
        split at valid
        · cases valid
        · rename_i room
          exact ⟨settlement, found, UInt32.not_le.mp room⟩

/-- A build is denied, finds no free slot, or is entered into its settlement's count. -/
theorem acHandleBuildRequest_books (s : SessionState F) (whitelist : List UInt32)
    (nextObjectId : ObjectNetId) (msg : MsgBuildRequest F) :
    let outcome := acHandleBuildRequest s whitelist nextObjectId msg
    (validateBuildRequest s whitelist msg = false ∧ outcome.session = s ∧
      outcome.nextObjectId = nextObjectId) ∨
    (validateBuildRequest s whitelist msg = true ∧ outcome.nextObjectId = nextObjectId + 1 ∧
      (s.objects.claim Slots.free (builtObject nextObjectId msg) = none ∧ outcome.session = s ∨
        ∃ objects, s.objects.claim Slots.free (builtObject nextObjectId msg) = some objects ∧
        outcome.session = updateSettlement { s with objects } msg.settlementId .built)) := by
  intro outcome
  simp only [outcome, acHandleBuildRequest, wsAllocObject]
  cases valid : validateBuildRequest s whitelist msg with
  | false => exact .inl ⟨rfl, rfl, rfl⟩
  | true =>
      refine .inr ⟨rfl, ?_⟩
      simp only [Bool.not_true, Bool.false_eq_true, if_false]
      split
      · rename_i full
        exact ⟨rfl, .inl ⟨Option.map_eq_none_iff.mp full, rfl⟩⟩
      · rename_i placed
        obtain ⟨objects, claimed, rfl⟩ := Option.map_eq_some_iff.mp placed
        exact ⟨rfl, .inr ⟨objects, claimed, rfl⟩⟩

theorem acHandleObjectScrap_books {s after : SessionState F} {msg : MsgObjectScrapRequest}
    (scrapped : acHandleObjectScrap s msg = some after) :
    ∃ obj, findObject s msg.objectNetId = some obj ∧
      after = wsRemoveObject (updateSettlement s obj.settlementId .scrapped) msg.objectNetId := by
  simp only [acHandleObjectScrap] at scrapped
  split at scrapped
  · cases scrapped
  · split at scrapped
    · cases scrapped
    · rename_i obj held
      exact ⟨obj, held, (Option.some.inj scrapped).symm⟩

theorem Accounts.build {w : Workshop F} (accounts : Accounts w) {whitelist : List UInt32}
    {msg : MsgBuildRequest F}
    (room : w.nextObjectId.toNat + draws w (.build whitelist msg) < 2 ^ 32)
    (started : 0 < w.nextObjectId.toNat) :
    Accounts (workshopStep w (.build whitelist msg)) := by
  simp only [workshopStep]
  rcases acHandleBuildRequest_books w.session whitelist w.nextObjectId msg with
    ⟨_, unchanged, undrawn⟩ | ⟨valid, next, placed⟩
  · rw [unchanged, undrawn]
    exact accounts
  · rw [draws, if_pos valid] at room
    have counter : (w.nextObjectId + 1).toNat = w.nextObjectId.toNat + 1 := by
      rw [UInt32.toNat_add, UInt32.toNat_one, Nat.mod_eq_of_lt room]
    have still : ∀ obj ∈ w.session.objects.slots, obj.inUse = true →
        0 < obj.objectNetId.toNat ∧ obj.objectNetId.toNat < (w.nextObjectId + 1).toNat := by
      intro obj member inUse
      have drawn := accounts.drawn obj member inUse
      omega
    rw [next]
    rcases placed with ⟨_, full⟩ | ⟨objects, claimed, built⟩
    · rw [full]
      exact ⟨accounts.settlements, accounts.objects, accounts.counted, still⟩
    · have slots := Slots.Table.claim_slots claimed
      have fresh : Slots.lookup w.nextObjectId w.session.objects.slots = none :=
        Slots.lookup_eq_none.mpr fun obj member inUse same => by
          have drawn := accounts.drawn obj member inUse
          rw [show obj.objectNetId = w.nextObjectId from same] at drawn
          exact Nat.lt_irrefl _ drawn.2
      have counts : ∀ id, objects.slots.countP (fun obj => obj.inUse && obj.settlementId == id) =
          objectsOf w.session id + if msg.settlementId = id then 1 else 0 := by
        intro id
        have unfree : ∀ obj : ObjectRuntimeState F, Slots.free obj = true →
            (obj.inUse && obj.settlementId == id) = false := fun obj free => by
          have unused : Slots.Slot.live obj = false := by simpa [Slots.free] using free
          rw [show obj.inUse = false from unused, Bool.false_and]
        simpa [builtObject, objectsOf] using Slots.countP_claim unfree slots
      rw [built]
      refine ⟨distinct_updateSettlement accounts.settlements _ SettlementState.built_keeps,
        accounts.objects.claim slots fresh, fun id settlement found => ?_, fun obj member inUse => ?_⟩
      · rw [findSettlement_update _ _ SettlementState.built_keeps] at found
        change settlement.objectCount.toNat = objects.slots.countP _ ∧ _
        rw [counts]
        split at found
        · rename_i same
          subst same
          obtain ⟨old, before, rfl⟩ := Option.map_eq_some_iff.mp found
          obtain ⟨paying, holds, budget⟩ := validateBuildRequest_budget valid
          obtain rfl : old = paying := Option.some.inj (before.symm.trans holds)
          have grown := SettlementState.built_count budget
          rw [if_pos rfl, ← (accounts.counted _ _ before).1]
          exact ⟨grown, UInt32.le_iff_toNat_le.mpr (grown ▸ UInt32.lt_iff_toNat_lt.mp budget)⟩
        · rename_i other
          rw [if_neg (Ne.symm other), Nat.add_zero]
          exact accounts.counted id settlement found
      · rcases Slots.mem_claim slots member with old | rfl
        · exact still obj old inUse
        · exact ⟨started, by dsimp only [builtObject]; omega⟩

theorem Accounts.move {w : Workshop F} (accounts : Accounts w) (msg : MsgObjectMoveRequest F) :
    Accounts (workshopStep w (.move msg)) := by
  simp only [workshopStep]
  cases moved : acHandleObjectMove w.session msg with
  | none => exact accounts
  | some after =>
      obtain ⟨obj, held, rfl⟩ := acHandleObjectMove_cases moved
      have keeps : ∀ obj : ObjectRuntimeState F, Slots.holds msg.objectNetId obj = true →
          Slots.holds msg.objectNetId (obj.move msg) = true := fun _ same => same
      refine ⟨accounts.settlements, accounts.objects.update keeps, fun id settlement found => ?_,
        fun other member inUse => ?_⟩
      · have counts := Slots.countP_modifyFirst (f := ObjectRuntimeState.move msg)
          (q := fun obj => obj.inUse && obj.settlementId == id) held
        have same : objectsOf (updateObject w.session msg.objectNetId (.move msg)) id =
            objectsOf w.session id := Nat.add_right_cancel counts
        exact same ▸ accounts.counted id settlement found
      · rcases Slots.mem_modifyFirst member with old | ⟨old, before, _, rfl⟩
        · exact accounts.drawn other old inUse
        · exact accounts.drawn old before inUse

theorem Accounts.scrap {w : Workshop F} (accounts : Accounts w) (msg : MsgObjectScrapRequest) :
    Accounts (workshopStep w (.scrap msg)) := by
  simp only [workshopStep]
  cases scrapped : acHandleObjectScrap w.session msg with
  | none => exact accounts
  | some after =>
      obtain ⟨obj, held, rfl⟩ := acHandleObjectScrap_books scrapped
      have live : obj.inUse = true := (Slots.lookup_key held).1
      have counts : ∀ id, objectsOf (wsRemoveObject (updateSettlement w.session obj.settlementId
          .scrapped) msg.objectNetId) id + (if obj.settlementId = id then 1 else 0) =
          objectsOf w.session id := by
        intro id
        have counted := Slots.countP_modifyFirst (f := fun _ => (.zero : ObjectRuntimeState F))
          (q := fun obj => obj.inUse && obj.settlementId == id) held
        simpa [live, objectsOf, wsRemoveObject, updateSettlement, ObjectRuntimeState.zero]
          using counted
      refine ⟨distinct_updateSettlement accounts.settlements _ SettlementState.scrapped_keeps,
        accounts.objects.release rfl, fun id settlement found => ?_, fun other member inUse => ?_⟩
      · have before : findSettlement (updateSettlement w.session obj.settlementId .scrapped) id =
          some settlement := found
        have total := counts id
        rw [findSettlement_update _ _ SettlementState.scrapped_keeps] at before
        split at before
        · rename_i same
          subst same
          obtain ⟨old, held, rfl⟩ := Option.map_eq_some_iff.mp before
          obtain ⟨count, budget⟩ := accounts.counted _ _ held
          rw [if_pos rfl, ← count] at total
          obtain ⟨shrunk, less⟩ := SettlementState.scrapped_count (by omega) budget
          refine ⟨shrunk.trans ?_, less⟩
          rw [← total]
          rfl
        · rename_i other
          rw [if_neg (Ne.symm other), Nat.add_zero] at total
          exact total ▸ accounts.counted id settlement before
      · rcases Slots.mem_modifyFirst member with old | ⟨_, _, _, rfl⟩
        · exact accounts.drawn other old inUse
        · cases inUse

theorem Accounts.step {w : Workshop F} (accounts : Accounts w) (request : WorkshopRequest F)
    (room : w.nextObjectId.toNat + draws w request < 2 ^ 32) (started : 0 < w.nextObjectId.toNat) :
    Accounts (workshopStep w request) := by
  cases request with
  | build whitelist msg => exact accounts.build room started
  | move msg => exact accounts.move msg
  | scrap msg => exact accounts.scrap msg

theorem workshopStep_counter {w : Workshop F} {request : WorkshopRequest F}
    (room : w.nextObjectId.toNat + draws w request < 2 ^ 32) :
    (workshopStep w request).nextObjectId.toNat = w.nextObjectId.toNat + draws w request := by
  cases request with
  | build whitelist msg =>
      simp only [draws] at room ⊢
      rcases acHandleBuildRequest_books w.session whitelist w.nextObjectId msg with
        ⟨denied, _, undrawn⟩ | ⟨valid, next, _⟩
      · simp [workshopStep, undrawn, denied]
      · rw [valid, if_pos rfl] at room ⊢
        rw [workshopStep, next, UInt32.toNat_add, UInt32.toNat_one, Nat.mod_eq_of_lt room]
  | move msg => rfl
  | scrap msg => rfl

theorem Accounts.run {w : Workshop F} (accounts : Accounts w) (requests : List (WorkshopRequest F))
    (few : w.nextObjectId.toNat + idsDrawn w requests < 2 ^ 32) (started : 0 < w.nextObjectId.toNat) :
    Accounts (Transition.run workshopStep w requests) := by
  induction requests generalizing w with
  | nil => exact accounts
  | cons request rest ih =>
      rw [idsDrawn] at few
      have room : w.nextObjectId.toNat + draws w request < 2 ^ 32 := by omega
      have counter := workshopStep_counter room
      exact ih (accounts.step request room started) (by omega) (by omega)

/-- From no objects and zero counts on, every settlement counts its objects and stays within its
budget, as long as the id counter does not wrap. -/
theorem run_balanced (session : SessionState F) (nextObjectId : ObjectNetId)
    (requests : List (WorkshopRequest F)) (apart : Slots.Distinct session.settlements.slots)
    (noObjects : ∀ obj ∈ session.objects.slots, obj.inUse = false)
    (zeroCounts : ∀ settlement ∈ session.settlements.slots, settlement.objectCount = 0)
    (started : 0 < nextObjectId.toNat)
    (few : nextObjectId.toNat + idsDrawn ⟨session, nextObjectId⟩ requests < 2 ^ 32) :
    Balanced (run workshopStep ⟨session, nextObjectId⟩ requests).session := by
  have start : Accounts ⟨session, nextObjectId⟩ := by
    refine ⟨apart, .of_unused noObjects, fun id settlement found => ?_, fun obj member inUse => ?_⟩
    · have zero := zeroCounts settlement (Slots.lookup_mem found)
      have none : objectsOf session id = 0 := List.countP_eq_zero.mpr fun obj member => by
        simp [noObjects obj member]
      rw [zero, none]
      exact ⟨rfl, UInt32.zero_le⟩
    · rw [noObjects obj member] at inUse
      cases inUse
  exact (start.run requests few started).balanced

end Steps

/-- A settlement with room for one object: a second build is denied until the first is scrapped. -/
theorem run_balanced_one :
    let place : Vec3f Binary32 := zeroVec
    let fresh : ServiceState Binary32 := freshService 1 15 20 [7]
    let settled := serviceStep fresh (.allocSettlement 3 place (CFloat.lit 512 1) 1)
    let hello : Body Binary32 .hello := (⟨0, 0⟩, [0x41], [0x41])
    let joined := tlHandleEnvelope ⟨fun _ => none⟩ (envelopeOf 100 .hello hello) settled
    let build : WorkshopRequest Binary32 := .build [7] ⟨1, 1, 0, 3, 7, place, zeroRot, 0⟩
    let requests := [build, build, .move ⟨2, 1, 0, 1000, place, zeroRot⟩, .scrap ⟨3, 1, 0, 1000⟩, build]
    let w : Workshop Binary32 := ⟨joined.2.session, 1000⟩
    Balanced (run workshopStep w requests).session := by
  intro place fresh settled hello joined build requests w
  have few : w.nextObjectId.toNat + idsDrawn w requests < 2 ^ 32 := by decide +kernel
  exact run_balanced w.session 1000 requests (by decide +kernel) (by decide +kernel)
    (by decide +kernel) (by decide) few

end F4MP.Service
