import F4MP.Library.Exact
import F4MP.Service.Settlements

/-!
# Where objects are placed

An object is built in and moved within the radius of its settlement. The validators reject what is
farther away, and what compares with no distance passes them.
-/

namespace F4MP.Service
open SoftFloat CFloat Protocol Transition

variable {F : Type}

/-! ## Objects inside their settlements -/

section Inside
variable [CFloat F]

/-- The distance from the centre is compared the other way round than by the validators. -/
def SettlementState.reaches (settlement : SettlementState F) (position : Vec3f F) : Prop :=
  le (distanceSq position settlement.center)
    (mul settlement.allowedRadius settlement.allowedRadius) = true

instance (settlement : SettlementState F) (position : Vec3f F) :
    Decidable (settlement.reaches position) := inferInstanceAs (Decidable (_ = true))

def ObjectInside (s : SessionState F) (obj : ObjectRuntimeState F) : Prop :=
  ∃ settlement, findSettlement s obj.settlementId = some settlement ∧
    settlement.reaches obj.position

def ObjectsInside (s : SessionState F) : Prop :=
  ∀ obj ∈ s.objects.slots, obj.inUse = true → ObjectInside s obj

theorem ObjectInside.of_update {s : SessionState F} {settlementId : UInt32}
    {f : SettlementState F → SettlementState F} (keeps : ∀ settlement : SettlementState F,
      (f settlement).inUse = settlement.inUse ∧ (f settlement).settlementId = settlement.settlementId)
    (still : ∀ settlement : SettlementState F, (f settlement).center = settlement.center ∧
      (f settlement).allowedRadius = settlement.allowedRadius) (obj : ObjectRuntimeState F) :
    ObjectInside (updateSettlement s settlementId f) obj ↔ ObjectInside s obj := by
  have same : ∀ settlement : SettlementState F,
      (f settlement).reaches obj.position ↔ settlement.reaches obj.position := fun settlement => by
    rw [SettlementState.reaches, (still settlement).1, (still settlement).2, SettlementState.reaches]
  simp only [ObjectInside, findSettlement_update s settlementId keeps]
  split
  · constructor
    · rintro ⟨_, found, reaches⟩
      obtain ⟨settlement, before, rfl⟩ := Option.map_eq_some_iff.mp found
      exact ⟨settlement, before, (same settlement).mp reaches⟩
    · rintro ⟨settlement, before, reaches⟩
      exact ⟨f settlement, by rw [before]; rfl, (same settlement).mpr reaches⟩
  · exact Iff.rfl

omit [CFloat F] in
theorem SettlementState.scrapped_still (settlement : SettlementState F) :
    settlement.scrapped.center = settlement.center ∧
      settlement.scrapped.allowedRadius = settlement.allowedRadius := by
  unfold SettlementState.scrapped
  split <;> exact ⟨rfl, rfl⟩

theorem validateBuildRequest_inside {s : SessionState F} {whitelist : List UInt32}
    {msg : MsgBuildRequest F} (valid : validateBuildRequest s whitelist msg = true) :
    ∃ settlement, findSettlement s msg.settlementId = some settlement ∧
      insideSettlement settlement msg.position = true := by
  unfold validateBuildRequest at valid
  split at valid
  · cases valid
  · split at valid
    · cases valid
    · split at valid
      · cases valid
      · rename_i settlement found
        split at valid
        · cases valid
        · split at valid
          · cases valid
          · rename_i inside
            exact ⟨settlement, found, by simpa using inside⟩

theorem validateObjectMoveRequest_inside {s : SessionState F} {msg : MsgObjectMoveRequest F}
    (valid : validateObjectMoveRequest s msg = true) :
    ∃ obj settlement, findObject s msg.objectNetId = some obj ∧
      findSettlement s obj.settlementId = some settlement ∧
      insideSettlement settlement msg.position = true := by
  unfold validateObjectMoveRequest at valid
  split at valid
  · cases valid
  · split at valid
    · cases valid
    · split at valid
      · cases valid
      · rename_i obj held
        split at valid
        · cases valid
        · rename_i settlement found
          exact ⟨obj, settlement, held, found, valid⟩

end Inside

/-! ## Exact coordinates -/

section Coordinates
variable {K : Type} [Field K] [LinearOrder K] [SquareRoot K]

def numericVec (v : Vec3f (Exact K)) : Bool := v.x.isNum && v.y.isNum && v.z.isNum

def SettlementState.numeric (settlement : SettlementState (Exact K)) : Bool :=
  numericVec settlement.center && settlement.allowedRadius.isNum

theorem distanceSq_isNum (a b : Vec3f (Exact K)) :
    (distanceSq a b).isNum = (numericVec a && numericVec b) := by
  simp only [distanceSq, sqrf, numericVec, Exact.isNum_add, Exact.isNum_mul, Exact.isNum_sub]
  cases a.x.isNum <;> cases a.y.isNum <;> cases a.z.isNum <;> cases b.x.isNum <;>
    cases b.y.isNum <;> cases b.z.isNum <;> rfl

theorem reaches_iff {settlement : SettlementState (Exact K)} {position : Vec3f (Exact K)}
    (inside : insideSettlement settlement position = true) :
    settlement.reaches position ↔ numericVec position = true ∧ settlement.numeric = true := by
  have notBelow := Bool.not_eq_true' _ |>.mp inside
  rw [SettlementState.reaches, Exact.le_iff_of_not_lt notBelow, distanceSq_isNum, Exact.isNum_mul,
    SettlementState.numeric]
  simp only [Bool.and_eq_true]
  tauto

/-- Whatever a request that is valid places is placed in numbers, in a settlement that has them. -/
def PlacedInNumbers (w : Workshop (Exact K)) : WorkshopRequest (Exact K) → Prop
  | .build whitelist msg => validateBuildRequest w.session whitelist msg = true →
      w.session.objects.slots.countP (·.inUse) < maxObjectsPerSession →
        numericVec msg.position = true ∧
          ∀ settlement ∈ findSettlement w.session msg.settlementId, settlement.numeric = true
  | .move msg => validateObjectMoveRequest w.session msg = true →
      numericVec msg.position = true ∧ ∀ obj ∈ findObject w.session msg.objectNetId,
        ∀ settlement ∈ findSettlement w.session obj.settlementId, settlement.numeric = true
  | .scrap _ => True

variable {w : Workshop (Exact K)}

theorem build_inside_iff (inside : ObjectsInside w.session) (whitelist : List UInt32)
    (msg : MsgBuildRequest (Exact K)) :
    ObjectsInside (workshopStep w (.build whitelist msg)).session ↔
      PlacedInNumbers w (.build whitelist msg) := by
  simp only [workshopStep, PlacedInNumbers]
  rcases acHandleBuildRequest_books w.session whitelist w.nextObjectId msg with
    ⟨denied, unchanged, _⟩ | ⟨valid, _, placed⟩
  · rw [unchanged, denied]
    exact iff_of_true inside fun accepted => absurd accepted Bool.false_ne_true
  · obtain ⟨settlement, found, near⟩ := validateBuildRequest_inside valid
    rw [valid, found]
    have room := Slots.Table.claim_isSome_iff (builtObject w.nextObjectId msg) w.session.objects
    rcases placed with ⟨full, unchanged⟩ | ⟨objects, claimed, built⟩
    · rw [unchanged]
      refine iff_of_true inside fun _ free => ?_
      rw [full] at room
      exact absurd (room.mpr free) Bool.false_ne_true
    · have free : w.session.objects.slots.countP (·.inUse) < maxObjectsPerSession := by
        refine room.mp ?_
        rw [claimed]
        rfl
      have slots := Slots.Table.claim_slots claimed
      have kept : ∀ obj, ObjectInside (updateSettlement { w.session with objects }
          msg.settlementId .built) obj ↔ ObjectInside w.session obj := fun obj =>
        ObjectInside.of_update SettlementState.built_keeps (fun _ => ⟨rfl, rfl⟩) obj
      have new : ObjectInside w.session (builtObject w.nextObjectId msg) ↔
          settlement.reaches msg.position := by
        constructor
        · rintro ⟨other, foundOther, reaches⟩
          obtain rfl := Option.some.inj (found.symm.trans foundOther)
          exact reaches
        · exact fun reaches => ⟨settlement, found, reaches⟩
      rw [built, show (∀ x ∈ some settlement, x.numeric = true) ↔ settlement.numeric = true from
        ⟨fun all => all settlement rfl, fun one x is => Option.some.inj is ▸ one⟩]
      rw [forall_prop_of_true rfl, forall_prop_of_true free, ← reaches_iff near, ← new, ← kept]
      constructor
      · exact fun all => all _ (Slots.mem_claim_self slots) rfl
      · intro newInside obj member inUse
        rcases Slots.mem_claim slots member with old | rfl
        · exact (kept obj).mpr (inside obj old inUse)
        · exact newInside

theorem move_inside_iff (inside : ObjectsInside w.session) (msg : MsgObjectMoveRequest (Exact K)) :
    ObjectsInside (workshopStep w (.move msg)).session ↔ PlacedInNumbers w (.move msg) := by
  simp only [workshopStep, PlacedInNumbers]
  cases valid : validateObjectMoveRequest w.session msg with
  | false =>
      rw [acHandleObjectMove, valid]
      exact iff_of_true inside fun accepted => absurd accepted Bool.false_ne_true
  | true =>
      obtain ⟨obj, settlement, held, found, near⟩ := validateObjectMoveRequest_inside valid
      have moved : acHandleObjectMove w.session msg =
          some (updateObject w.session msg.objectNetId (.move msg)) := by
        rw [acHandleObjectMove, valid, held]
        rfl
      have shown : findObject (updateObject w.session msg.objectNetId (.move msg)) msg.objectNetId =
          some (obj.move msg) := by
        rw [← Option.map_some, ← held]
        exact Slots.find?_modifyFirst_self fun _ same => same
      have new : ObjectInside w.session (obj.move msg) ↔ settlement.reaches msg.position := by
        constructor
        · rintro ⟨other, foundOther, reaches⟩
          obtain rfl := Option.some.inj (found.symm.trans foundOther)
          exact reaches
        · exact fun reaches => ⟨settlement, found, reaches⟩
      have kept : ∀ other, ObjectInside (updateObject w.session msg.objectNetId (.move msg)) other ↔
          ObjectInside w.session other := fun _ => Iff.rfl
      rw [moved, Option.getD_some, held, forall_prop_of_true rfl]
      have numbers : (∀ x ∈ some obj, ∀ y ∈ findSettlement w.session x.settlementId,
          y.numeric = true) ↔ settlement.numeric = true := by
        constructor
        · exact fun all => all obj rfl settlement found
        · intro one x is y other
          obtain rfl := Option.some.inj is
          obtain rfl := Option.some.inj (found.symm.trans other)
          exact one
      rw [numbers, ← reaches_iff near, ← new]
      constructor
      · intro all
        exact (kept _).mp (all _ (Slots.lookup_mem shown) (Slots.lookup_key shown).1)
      · intro newInside other member inUse
        rcases Slots.mem_modifyFirst_found held member with old | rfl
        · exact (kept other).mpr (inside other old inUse)
        · exact (kept _).mpr newInside

theorem scrap_inside (inside : ObjectsInside w.session) (msg : MsgObjectScrapRequest) :
    ObjectsInside (workshopStep w (.scrap msg)).session := by
  simp only [workshopStep]
  cases scrapped : acHandleObjectScrap w.session msg with
  | none => exact inside
  | some after =>
      obtain ⟨obj, _, rfl⟩ := acHandleObjectScrap_books scrapped
      intro other member inUse
      rcases Slots.mem_modifyFirst member with old | ⟨_, _, _, rfl⟩
      · have kept := @ObjectInside.of_update _ _ w.session obj.settlementId _
          SettlementState.scrapped_keeps SettlementState.scrapped_still other
        exact kept.mpr (inside other old inUse)
      · cases inUse

theorem workshopStep_inside_iff (inside : ObjectsInside w.session)
    (request : WorkshopRequest (Exact K)) :
    ObjectsInside (workshopStep w request).session ↔ PlacedInNumbers w request := by
  cases request with
  | build whitelist msg => exact build_inside_iff inside whitelist msg
  | move msg => exact move_inside_iff inside msg
  | scrap msg => exact iff_of_true (scrap_inside inside msg) trivial

/-- From no objects on, the objects stay inside their settlements exactly if all that is placed is
placed in numbers. -/
theorem run_objectsInside_iff (session : SessionState (Exact K)) (nextObjectId : ObjectNetId)
    (noObjects : ∀ obj ∈ session.objects.slots, obj.inUse = false)
    (requests : List (WorkshopRequest (Exact K))) :
    Along workshopStep (fun w request => ObjectsInside (workshopStep w request).session)
        ⟨session, nextObjectId⟩ requests ↔
      Along workshopStep PlacedInNumbers ⟨session, nextObjectId⟩ requests := by
  have start : ObjectsInside session := fun obj member inUse => by
    rw [noObjects obj member] at inUse
    cases inUse
  refine @along_congr _ _ _ _ _ (fun _ _ => True) _ _ (fun w => ObjectsInside w.session) ?_ ?_ start
    (along_always fun _ _ => trivial)
  · exact fun w request inside _ => workshopStep_inside_iff inside request
  · exact fun w request inside _ placed => (workshopStep_inside_iff inside request).mpr placed

end Coordinates

/-! ## A settlement -/

/-- One player has joined a service with a settlement of radius 512. -/
def settledWorkshop : Workshop (Exact ℚ) :=
  let settled : SessionState (Exact ℚ) := wsInitSession 1 15 20
  let origin : Vec3f (Exact ℚ) := ⟨.num 0, .num 0, .num 0⟩
  let session := (wsAllocSettlement settled 3 origin (.num 512) 4).getD settled
  ⟨(smJoinSession session 1 100).getD session, 1000⟩

def buildAt (x : Exact ℚ) : WorkshopRequest (Exact ℚ) :=
  .build [7] ⟨1, 1, 0, 3, 7, ⟨x, .num 0, .num 0⟩, ⟨.num 0, .num 0, .num 0⟩, 0⟩

def moveTo (x : Exact ℚ) : WorkshopRequest (Exact ℚ) :=
  .move ⟨2, 1, 0, 1000, ⟨x, .num 0, .num 0⟩, ⟨.num 0, .num 0, .num 0⟩⟩

theorem run_objectsInside_iff_two :
    let requests := [buildAt (.num 100), moveTo (.num 600), moveTo (.num 500)]
    Along workshopStep (fun w request => ObjectsInside (workshopStep w request).session)
        settledWorkshop requests ↔ Along workshopStep PlacedInNumbers settledWorkshop requests :=
  run_objectsInside_iff settledWorkshop.session 1000 (by decide +kernel) _

/-- An object is built at NaN. -/
theorem run_objectsInside_nan :
    (∀ obj ∈ settledWorkshop.session.objects.slots, obj.inUse = false) ∧
      ¬ ObjectsInside (run workshopStep settledWorkshop [buildAt .nan]).session := by
  refine ⟨by decide +kernel, fun inside => ?_⟩
  let after := (run workshopStep settledWorkshop [buildAt .nan]).session
  have built : after.objects.slots.map (fun obj => (obj.inUse, obj.settlementId)) =
      [(true, 3)] := by decide +kernel
  have far : ∀ obj ∈ after.objects.slots, ∀ settlement ∈ findSettlement after 3,
      ¬ settlement.reaches obj.position := by decide +kernel
  obtain ⟨obj, listed, inUse⟩ : ∃ obj, obj ∈ after.objects.slots ∧ (obj.inUse, obj.settlementId) =
      (true, 3) := by
    have member : (true, (3 : UInt32)) ∈ after.objects.slots.map fun obj =>
        (obj.inUse, obj.settlementId) := by rw [built]; exact List.mem_cons_self
    exact List.mem_map.mp member
  obtain ⟨live, placed⟩ := Prod.mk.inj inUse
  obtain ⟨settlement, found, reaches⟩ := inside obj listed live
  rw [placed] at found
  exact far obj listed settlement found reaches

end F4MP.Service
