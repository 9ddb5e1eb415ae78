import F4MP.Service.Placement

/-!
# What a shot hits

A shot is probed for obstacles along its direction, and hits the live hostile that scores best in the
cone around it.
-/

namespace F4MP.Service
open SoftFloat CFloat Protocol

variable {F : Type}

/-! ## The target and the line -/

section Target
variable [CFloat F]

/-- A fire intent takes health off the actor that the target loop chose. -/
def Damages (s : SessionState F) (msg : MsgFireIntent F) (target : ActorRuntimeState F) : Prop :=
  ∃ i bestScore outcome, bestTarget s msg = some (i, bestScore) ∧
    s.actors.slots[i]? = some target ∧ acHandleFireIntent s msg = some outcome ∧
      outcome.session = { s with actors := s.actors.modify i ActorRuntimeState.hit } ∧
        outcome.damage = hitDamage msg.playerId target

/-- The point that the line of a shot is probed up to. -/
def probedPoint (origin dir : Vec3f F) : Vec3f F :=
  ⟨add origin.x (mul dir.x (lit 1024 1)), add origin.y (mul dir.y (lit 1024 1)),
    add origin.z (mul dir.z (lit 1024 1))⟩

/-- The actor that the target loop comes by first. -/
def firstTarget (s : SessionState F) (msg : MsgFireIntent F) : Option (ActorRuntimeState F) :=
  s.actors.slots.find? fun a =>
    (targetScore msg.origin ((cgNormalize msg.direction).getD msg.direction) a).isSome

theorem validateFireIntent_probed {s : SessionState F} {msg : MsgFireIntent F}
    (valid : validateFireIntent s msg = true) : ∃ dir, cgNormalize msg.direction = some dir ∧
      wtpTraceAllows s.traceProvider msg.origin (probedPoint msg.origin dir) = true := by
  unfold validateFireIntent at valid
  split at valid
  · cases valid
  · split at valid
    · cases valid
    · split at valid
      · cases valid
      · split at valid
        · cases valid
        · split at valid
          · cases valid
          · split at valid
            · cases valid
            · rename_i dir normalized
              exact ⟨dir, normalized, valid⟩

theorem acHandleFireIntent_valid {s : SessionState F} {msg : MsgFireIntent F}
    {outcome : FireOutcome F} (fired : acHandleFireIntent s msg = some outcome) :
    validateFireIntent s msg = true := by
  by_contra invalid
  rw [acHandleFireIntent, Bool.not_eq_true _ |>.mp invalid] at fired
  cases fired

/-- A shot that does damage has a clear line to the point that is probed, in the direction in whose
cone its target is. -/
theorem damages_lineProbed {s : SessionState F} {msg : MsgFireIntent F}
    {target : ActorRuntimeState F} (damages : Damages s msg target) :
    ∃ dir, cgNormalize msg.direction = some dir ∧
      wtpTraceAllows s.traceProvider msg.origin (probedPoint msg.origin dir) = true ∧
        (cgTargetWithinCone msg.origin dir target.replicatedState.position
          avDefaultCombatGeometry).isSome = true := by
  obtain ⟨i, score, outcome, chosen, at_, fired, _⟩ := damages
  obtain ⟨dir, normalized, clear⟩ := validateFireIntent_probed (acHandleFireIntent_valid fired)
  obtain ⟨best, bestAt, scored⟩ := bestTarget_scored chosen
  obtain rfl := Option.some.inj (at_.symm.trans bestAt)
  rw [normalized] at scored
  exact ⟨dir, normalized, clear, Option.isSome_iff_exists.mpr ⟨score, (targetScore_live scored).2⟩⟩

theorem damages_of_chosen {s : SessionState F} {msg : MsgFireIntent F} {i : Nat} {score : F}
    (valid : validateFireIntent s msg = true) (chosen : bestTarget s msg = some (i, score))
    (high : le score (lit (-1000) 1) = false) :
    ∃ target, s.actors.slots[i]? = some target ∧ Damages s msg target := by
  obtain ⟨target, at_, _⟩ := bestTarget_scored chosen
  have fired : acHandleFireIntent s msg = some {
      session := { s with actors := s.actors.modify i ActorRuntimeState.hit }
      damage := hitDamage msg.playerId target
      death := if le target.hit.replicatedState.healthNorm (lit 0 1) then
          some (hitDeath msg.playerId target) else none } := by
    simp only [acHandleFireIntent, valid, chosen, at_, high]
    rfl
  exact ⟨target, at_, i, score, _, chosen, at_, fired, rfl, rfl⟩

end Target

/-- A player beside a hostile, and a wall between them that the line of the shot does not meet. -/
def walledSession : SessionState Binary32 :=
  let greeting : Body Binary32 .hello := (⟨0, 0⟩, [0x41], [])
  let joined := Transition.run serviceStep (freshService 1 15 20 [])
    [.envelope ⟨fun _ => none⟩ (envelopeOf 100 .hello greeting),
      .spawnHostile 7 ⟨lit 100 1, lit 50 1, lit 0 1⟩]
  { joined.session with
    traceProvider := ⟨some fun _ target => (true, lt (lit 0 1) target.y), true⟩ }

def walledShot : MsgFireIntent Binary32 :=
  ⟨1, 0, 7, zeroVec, ⟨lit 1 1, lit 0 1, lit 0 1⟩, 0, {}, 0⟩

theorem walledShot_damages :
    ∃ target, walledSession.actors.slots[0]? = some target ∧
      Damages walledSession walledShot target := by
  have first : (bestTarget walledSession walledShot).map (·.1) = some 0 := by decide +kernel
  have high : ∀ b ∈ bestTarget walledSession walledShot, le b.2 (lit (-1000) 1) = false := by
    decide +kernel
  obtain ⟨⟨i, score⟩, chosen, rfl⟩ := Option.map_eq_some_iff.mp first
  exact damages_of_chosen (by decide +kernel) chosen (high _ chosen)

theorem damages_lineProbed_walled : ∃ (target : ActorRuntimeState Binary32) (dir : _),
    cgNormalize walledShot.direction = some dir ∧
      wtpTraceAllows walledSession.traceProvider walledShot.origin
        (probedPoint walledShot.origin dir) = true ∧
      (cgTargetWithinCone walledShot.origin dir target.replicatedState.position
        avDefaultCombatGeometry).isSome = true := by
  obtain ⟨target, _, damages⟩ := walledShot_damages
  exact ⟨target, damages_lineProbed damages⟩

/-- The hostile behind the wall is damaged. -/
theorem damages_blocked : ∃ target, walledSession.actors.slots[0]? = some target ∧
    Damages walledSession walledShot target ∧ wtpTraceAllows walledSession.traceProvider
      walledShot.origin target.replicatedState.position = false := by
  obtain ⟨target, at_, damages⟩ := walledShot_damages
  have blocked : ∀ a ∈ walledSession.actors.slots[0]?, wtpTraceAllows
      walledSession.traceProvider walledShot.origin a.replicatedState.position = false := by
    decide +kernel
  exact ⟨target, at_, damages, blocked target at_⟩

/-! ## The cone -/

section Tests
variable [CFloat F]

def divVec (v : Vec3f F) (dist : F) : Vec3f F := ⟨div v.x dist, div v.y dist, div v.z dist⟩

theorem cgNormalize_some {v dir : Vec3f F} (normalized : cgNormalize v = some dir) :
    lt (cgLengthSq v) (lit 1 10000) = false ∧
      dir = ⟨mul v.x (div (lit 1 1) (sqrt (cgLengthSq v))),
        mul v.y (div (lit 1 1) (sqrt (cgLengthSq v))),
        mul v.z (div (lit 1 1) (sqrt (cgLengthSq v)))⟩ := by
  simp only [cgNormalize] at normalized
  split at normalized
  · cases normalized
  · rename_i long
    exact ⟨Bool.not_eq_true _ |>.mp long, (Option.some.inj normalized).symm⟩

theorem cgTargetWithinCone_some {origin dir target : Vec3f F} {cfg : CombatGeometryConfig F}
    {score : F} (within : cgTargetWithinCone origin dir target cfg = some score) :
    let toTarget := vecSub target origin
    let dist := sqrt (cgLengthSq toTarget)
    let dot := cgDot dir (divVec toTarget dist)
    lt (cgLengthSq toTarget) (lit 1 10000) = false ∧ lt cfg.maxRange dist = false ∧
      lt dot cfg.minDot = false ∧ score = sub dot (div dist cfg.maxRange) := by
  simp only [cgTargetWithinCone] at within
  split at within
  · cases within
  · rename_i far
    split at within
    · cases within
    · rename_i inRange
      split at within
      · cases within
      · rename_i ahead
        exact ⟨Bool.not_eq_true _ |>.mp far, Bool.not_eq_true _ |>.mp inRange,
          Bool.not_eq_true _ |>.mp ahead, (Option.some.inj within).symm⟩

end Tests

section Cone
variable {K : Type} [Field K] [LinearOrder K] [SquareRoot K]

def exactVec (v : Vec3f K) : Vec3f (Exact K) := ⟨.num v.x, .num v.y, .num v.z⟩

def normSq (v : Vec3f K) : K := v.x * v.x + v.y * v.y + v.z * v.z

def dotProduct (a b : Vec3f K) : K := a.x * b.x + a.y * b.y + a.z * b.z

def between (a b : Vec3f K) : Vec3f K := ⟨b.x - a.x, b.y - a.y, b.z - a.z⟩

omit [Field K] [LinearOrder K] [SquareRoot K] in
theorem numericVec_iff {w : Vec3f (Exact K)} : numericVec w = true ↔ ∃ v, w = exactVec v := by
  simp only [numericVec, Bool.and_eq_true, Exact.isNum_iff]
  constructor
  · rintro ⟨⟨⟨x, atX⟩, ⟨y, atY⟩⟩, ⟨z, atZ⟩⟩
    refine ⟨⟨x, y, z⟩, ?_⟩
    rw [exactVec, ← atX, ← atY, ← atZ]
  · rintro ⟨v, rfl⟩
    exact ⟨⟨⟨_, rfl⟩, ⟨_, rfl⟩⟩, ⟨_, rfl⟩⟩

/-- In exact numbers: a position within the range of an origin and in the cone about a direction. -/
def InsideCone (origin direction position : Vec3f (Exact K)) : Prop :=
  ∃ o d p : Vec3f K, origin = exactVec o ∧ direction = exactVec d ∧ position = exactVec p ∧
    normSq (between o p) ≤ 4096 ^ 2 ∧ 0 ≤ dotProduct d (between o p) ∧
      (35 / 100) ^ 2 * (normSq d * normSq (between o p)) ≤ dotProduct d (between o p) ^ 2

theorem cgLengthSq_exact (v : Vec3f K) : cgLengthSq (exactVec v) = .num (normSq v) := rfl

theorem cgDot_exact (a b : Vec3f K) : cgDot (exactVec a) (exactVec b) = .num (dotProduct a b) := rfl

theorem vecSub_exact (a b : Vec3f K) : vecSub (exactVec b) (exactVec a) = exactVec (between a b) :=
  rfl

/-- The square of a length, where it is a number, has its root. -/
def RootExact : Exact K → Prop
  | .nan => True
  | .num x => HasRoot x

instance : (x : Exact K) → Decidable (RootExact x)
  | .nan => isTrue trivial
  | .num x => inferInstanceAs (Decidable (HasRoot x))

variable [IsStrictOrderedRing K]

omit [IsStrictOrderedRing K] in
theorem not_lt_of_exact {x y : K} (notBelow : lt (.num x : Exact K) (.num y) = false) : y ≤ x :=
  not_lt.mp (of_decide_eq_false notBelow)

theorem cgNormalize_exact {d : Vec3f K} {dir : Vec3f (Exact K)} (root : HasRoot (normSq d))
    (normalized : cgNormalize (exactVec d) = some dir) :
    0 < SquareRoot.root (normSq d) ∧ dir = exactVec ⟨d.x * (1 / SquareRoot.root (normSq d)),
      d.y * (1 / SquareRoot.root (normSq d)), d.z * (1 / SquareRoot.root (normSq d))⟩ := by
  obtain ⟨long, rfl⟩ := cgNormalize_some normalized
  rw [cgLengthSq_exact] at long ⊢
  have positive : 0 < normSq d := lt_of_lt_of_le (by norm_num) (not_lt_of_exact long)
  have length := root.pos positive
  rw [Exact.sqrt_num positive.le, Exact.lit_num, Exact.div_num length.ne']
  refine ⟨length, ?_⟩
  simp [exactVec, Exact.mul_num]

omit [SquareRoot K] in
theorem dotProduct_unit {d t : Vec3f K} {a b : K} :
    dotProduct ⟨d.x * (1 / a), d.y * (1 / a), d.z * (1 / a)⟩ ⟨t.x / b, t.y / b, t.z / b⟩ =
      dotProduct d t / (a * b) := by
  simp only [dotProduct]
  ring

omit [SquareRoot K] in
theorem squares_of_cosine {c a b x : K} (bound : 0 ≤ c) (posA : 0 < a) (posB : 0 < b)
    (cosine : c ≤ x / (a * b)) : 0 ≤ x ∧ c ^ 2 * ((a * a) * (b * b)) ≤ x ^ 2 := by
  have product := mul_pos posA posB
  have scaled : c * (a * b) ≤ x := (le_div_iff₀ product).mp cosine
  have nonneg : 0 ≤ c * (a * b) := mul_nonneg bound product.le
  refine ⟨nonneg.trans scaled, ?_⟩
  calc c ^ 2 * ((a * a) * (b * b)) = (c * (a * b)) ^ 2 := by ring
    _ ≤ x ^ 2 := pow_le_pow_left₀ nonneg scaled 2

theorem cgTargetWithinCone_exact {o d p : Vec3f K} {dir : Vec3f (Exact K)} {score : Exact K}
    (normalized : cgNormalize (exactVec d) = some dir) (rootD : HasRoot (normSq d))
    (rootT : HasRoot (normSq (between o p)))
    (within : cgTargetWithinCone (exactVec o) dir (exactVec p) avDefaultCombatGeometry =
      some score) :
    score.isNum = true ∧ InsideCone (exactVec o) (exactVec d) (exactVec p) := by
  obtain ⟨length, rfl⟩ := cgNormalize_exact rootD normalized
  obtain ⟨apart, inRange, ahead, rfl⟩ := cgTargetWithinCone_some within
  simp only [vecSub_exact, cgLengthSq_exact] at apart inRange ahead ⊢
  have positive : 0 < normSq (between o p) := lt_of_lt_of_le (by norm_num) (not_lt_of_exact apart)
  have distance := rootT.pos positive
  rw [Exact.sqrt_num positive.le] at inRange ahead ⊢
  have unit : divVec (exactVec (between o p)) (.num (SquareRoot.root (normSq (between o p)))) =
      exactVec ⟨(between o p).x / SquareRoot.root (normSq (between o p)),
        (between o p).y / SquareRoot.root (normSq (between o p)),
        (between o p).z / SquareRoot.root (normSq (between o p))⟩ := by
    simp only [divVec, exactVec, Exact.div_num distance.ne']
  rw [unit, cgDot_exact, dotProduct_unit] at ahead ⊢
  have near : SquareRoot.root (normSq (between o p)) ≤ 4096 := by
    simpa using not_lt_of_exact inRange
  have cosine : 35 / 100 ≤ dotProduct d (between o p) /
      (SquareRoot.root (normSq d) * SquareRoot.root (normSq (between o p))) := by
    simpa using not_lt_of_exact ahead
  obtain ⟨front, squares⟩ := squares_of_cosine (by norm_num) length distance cosine
  rw [rootD.2, rootT.2] at squares
  constructor
  · have range : avDefaultCombatGeometry.maxRange = (.num 4096 : Exact K) := by
      simp [avDefaultCombatGeometry, Exact.lit_num]
    rw [range, Exact.div_num (by norm_num), Exact.sub_num]
    rfl
  · refine ⟨o, d, p, rfl, rfl, rfl, ?_, front, squares⟩
    calc normSq (between o p) = SquareRoot.root (normSq (between o p)) ^ 2 := by rw [sq, rootT.2]
      _ ≤ 4096 ^ 2 := pow_le_pow_left₀ distance.le near 2

omit [IsStrictOrderedRing K] in
theorem numericVec_of_score {origin direction dir position : Vec3f (Exact K)} {score : Exact K}
    (normalized : cgNormalize direction = some dir)
    (within : cgTargetWithinCone origin dir position avDefaultCombatGeometry = some score)
    (number : score.isNum = true) : numericVec origin = true ∧ numericVec direction = true ∧
      numericVec position = true := by
  obtain ⟨_, rfl⟩ := cgNormalize_some normalized
  obtain ⟨_, _, _, rfl⟩ := cgTargetWithinCone_some within
  simp only [Exact.isNum_sub, cgDot, Exact.isNum_add, Exact.isNum_mul, divVec, vecSub,
    Bool.and_eq_true] at number
  obtain ⟨⟨⟨⟨⟨dirX, _⟩, toX⟩, ⟨dirY, _⟩, toY⟩, ⟨dirZ, _⟩, toZ⟩, _⟩ := number
  have x := (Exact.isNum_of_div toX).1
  have y := (Exact.isNum_of_div toY).1
  have z := (Exact.isNum_of_div toZ).1
  simp only [Exact.isNum_sub, Bool.and_eq_true] at x y z
  simp only [numericVec, Bool.and_eq_true]
  exact ⟨⟨⟨x.2, y.2⟩, z.2⟩, ⟨⟨dirX, dirY⟩, dirZ⟩, ⟨x.1, y.1⟩, z.1⟩

end Cone

/-! ## The target loop -/

section Loop
variable {K : Type} [Field K] [LinearOrder K] [SquareRoot K] {origin dir : Vec3f (Exact K)}

variable (origin dir) in
theorem considerTarget_isNum (b : Nat × Exact K) (slot : ActorRuntimeState (Exact K) × Nat) :
    ∃ c, considerTarget origin dir (some b) slot = some c ∧ c.2.isNum = b.2.isNum := by
  rw [considerTarget_eq]
  split
  · exact ⟨b, rfl, rfl⟩
  · simp only
    split
    · rename_i better
      obtain ⟨was, is⟩ := Exact.isNum_of_compare better
      exact ⟨_, rfl, is.trans was.symm⟩
    · exact ⟨b, rfl, rfl⟩

variable (origin dir) in
theorem foldl_considerTarget_isNum (slots : List (ActorRuntimeState (Exact K) × Nat))
    (b : Nat × Exact K) : ∃ c, slots.foldl (considerTarget origin dir) (some b) = some c ∧
      c.2.isNum = b.2.isNum := by
  induction slots generalizing b with
  | nil => exact ⟨b, rfl, rfl⟩
  | cons slot rest ih =>
      obtain ⟨next, considered, same⟩ := considerTarget_isNum origin dir b slot
      obtain ⟨last, found, kept⟩ := ih next
      exact ⟨last, by rw [List.foldl_cons, considered, found], kept.trans same⟩

variable (origin dir) in
/-- The score of the best target is a number when that of the first one is. -/
theorem scan_isNum (slots : List (ActorRuntimeState (Exact K))) (n : Nat) :
    match slots.find? fun a => (targetScore origin dir a).isSome with
    | none => (slots.zipIdx n).foldl (considerTarget origin dir) none = none
    | some a => ∃ score best, targetScore origin dir a = some score ∧
        (slots.zipIdx n).foldl (considerTarget origin dir) none = some best ∧
          best.2.isNum = score.isNum := by
  induction slots generalizing n with
  | nil => rfl
  | cons a rest ih =>
      rw [List.zipIdx_cons, List.foldl_cons, considerTarget_eq]
      cases scored : targetScore origin dir a with
      | none =>
          rw [List.find?_cons_of_neg (by rw [scored]; exact Bool.false_ne_true)]
          exact ih (n + 1)
      | some score =>
          rw [List.find?_cons_of_pos (by rw [scored]; rfl)]
          obtain ⟨best, found, same⟩ := foldl_considerTarget_isNum origin dir
            (rest.zipIdx (n + 1)) (n, score)
          exact ⟨score, best, scored, found, same⟩

theorem bestTarget_first {s : SessionState (Exact K)} {msg : MsgFireIntent (Exact K)}
    (normalized : cgNormalize msg.direction = some dir) : match firstTarget s msg with
    | none => bestTarget s msg = none
    | some a => a ∈ s.actors.slots ∧ ∃ score best, targetScore msg.origin dir a = some score ∧
        bestTarget s msg = some best ∧ best.2.isNum = score.isNum := by
  have scan := scan_isNum msg.origin dir s.actors.slots 0
  simp only [firstTarget, bestTarget, normalized, Option.getD_some]
  split
  · rename_i none
    rwa [none] at scan
  · rename_i first isFirst
    rw [isFirst] at scan
    exact ⟨List.mem_of_find?_eq_some isFirst, scan⟩

end Loop

section Damage
variable {K : Type} [Field K] [LinearOrder K] [SquareRoot K] [IsStrictOrderedRing K]
  {s : SessionState (Exact K)} {msg : MsgFireIntent (Exact K)}

/-- The lengths that a fire intent has computed are exact. -/
def RootsExact (s : SessionState (Exact K)) (msg : MsgFireIntent (Exact K)) : Prop :=
  RootExact (cgLengthSq msg.direction) ∧ ∀ a ∈ s.actors.slots, a.inUse = true →
    RootExact (cgLengthSq (vecSub a.replicatedState.position msg.origin))

instance : Decidable (RootsExact s msg) := inferInstanceAs (Decidable (_ ∧ _))

/-- The first target of a valid shot, if it has one, is shot at from numbers to numbers. -/
def AimedInNumbers (s : SessionState (Exact K)) (msg : MsgFireIntent (Exact K)) : Prop :=
  validateFireIntent s msg = true → ∀ a ∈ firstTarget s msg, numericVec msg.origin = true ∧
    numericVec msg.direction = true ∧ numericVec a.replicatedState.position = true

/-- A target that is in numbers has a number for a score, and is in the cone. -/
theorem targetScore_exact (exact : RootsExact s msg) {dir : Vec3f (Exact K)}
    (normalized : cgNormalize msg.direction = some dir) {a : ActorRuntimeState (Exact K)}
    (listed : a ∈ s.actors.slots) {score : Exact K}
    (scored : targetScore msg.origin dir a = some score) (origin : numericVec msg.origin = true)
    (direction : numericVec msg.direction = true)
    (position : numericVec a.replicatedState.position = true) :
    score.isNum = true ∧ InsideCone msg.origin msg.direction a.replicatedState.position := by
  obtain ⟨live, within⟩ := targetScore_live scored
  have rootD := exact.1
  have rootT := exact.2 a listed live.1
  obtain ⟨o, atO⟩ := numericVec_iff.mp origin
  obtain ⟨d, atD⟩ := numericVec_iff.mp direction
  obtain ⟨p, atP⟩ := numericVec_iff.mp position
  rw [atD] at normalized rootD
  rw [atO, atP] at within rootT
  rw [atO, atD, atP]
  exact cgTargetWithinCone_exact normalized rootD rootT within

omit [IsStrictOrderedRing K] [SquareRoot K] in
theorem InsideCone.numeric {origin direction position : Vec3f (Exact K)}
    (inside : InsideCone origin direction position) : numericVec origin = true ∧
      numericVec direction = true ∧ numericVec position = true := by
  obtain ⟨o, d, p, rfl, rfl, rfl, _⟩ := inside
  exact ⟨rfl, rfl, rfl⟩

/-- A shot damages only what is in its cone exactly when its first target is aimed at in numbers. -/
theorem damages_insideCone_iff (exact : RootsExact s msg) :
    (∀ target, Damages s msg target →
      InsideCone msg.origin msg.direction target.replicatedState.position) ↔
      AimedInNumbers s msg := by
  constructor
  · intro inside valid first isFirst
    obtain ⟨dir, normalized, _⟩ := validateFireIntent_probed valid
    have scan := bestTarget_first (s := s) normalized
    rw [isFirst] at scan
    obtain ⟨listed, score, ⟨i, best⟩, scored, chosen, same⟩ := scan
    suffices number : score.isNum = true from
      numericVec_of_score normalized (targetScore_live scored).2 number
    -- a score that is NaN is not too low, and the target with it is damaged
    by_contra nan
    have bestNaN : best.isNum = false := same.trans (Bool.not_eq_true _ |>.mp nan)
    have high : le best (lit (-1000) 1) = false := by
      by_contra low
      have number := (Exact.isNum_of_compare (Bool.not_eq_false _ |>.mp low)).1
      rw [bestNaN] at number
      cases number
    obtain ⟨target, at_, damages⟩ := damages_of_chosen valid chosen high
    obtain ⟨origin, direction, position⟩ := (inside target damages).numeric
    obtain ⟨other, otherAt, otherScored⟩ := bestTarget_scored chosen
    obtain rfl := Option.some.inj (at_.symm.trans otherAt)
    rw [normalized] at otherScored
    have number := (targetScore_exact exact normalized (List.mem_of_getElem? at_) otherScored
      origin direction position).1
    rw [bestNaN] at number
    cases number
  · rintro aimed target ⟨i, best, outcome, chosen, at_, fired, _⟩
    have valid := acHandleFireIntent_valid fired
    obtain ⟨dir, normalized, _⟩ := validateFireIntent_probed valid
    have scan := bestTarget_first (s := s) normalized
    cases isFirst : firstTarget s msg with
    | none =>
        rw [isFirst] at scan
        cases scan.symm.trans chosen
    | some first =>
        rw [isFirst] at scan
        obtain ⟨listed, score, _, scored, also, same⟩ := scan
        obtain rfl := Option.some.inj (chosen.symm.trans also)
        obtain ⟨origin, direction, position⟩ := aimed valid first isFirst
        have number := (targetScore_exact exact normalized listed scored origin direction
          position).1
        obtain ⟨other, otherAt, otherScored⟩ := bestTarget_scored chosen
        obtain rfl := Option.some.inj (at_.symm.trans otherAt)
        rw [normalized] at otherScored
        have there := (numericVec_of_score normalized (targetScore_live otherScored).2
          (same.trans number)).2.2
        exact (targetScore_exact exact normalized (List.mem_of_getElem? at_) otherScored origin
          direction there).2

end Damage

theorem rootsExact_real (s : SessionState (Exact ℝ)) (msg : MsgFireIntent (Exact ℝ)) :
    RootsExact s msg := by
  have length : ∀ v : Vec3f (Exact ℝ), RootExact (cgLengthSq v) := by
    rintro ⟨x, y, z⟩
    cases x with
    | nan => exact trivial
    | num x =>
        cases y with
        | nan => exact trivial
        | num y =>
            cases z with
            | nan => exact trivial
            | num z => exact hasRoot_real (add_nonneg (add_nonneg (mul_self_nonneg x)
                (mul_self_nonneg y)) (mul_self_nonneg z))
  exact ⟨length _, fun _ _ _ => length _⟩

/-- A player at the origin, and a hostile on each side of it. -/
def rangeSession : SessionState (Exact ℚ) :=
  let session := wsInitSession 1 15 20
  let joined := (smJoinSession session 1 100).getD session
  let east := (acSpawnHostileActor joined 2000 7 ⟨lit 10 1, lit 0 1, lit 0 1⟩ zeroRot).getD joined
  (acSpawnHostileActor east 2001 7 ⟨lit (-10) 1, lit 0 1, lit 0 1⟩ zeroRot).getD east

def shotAlong (x : Exact ℚ) : MsgFireIntent (Exact ℚ) :=
  ⟨1, 0, 7, zeroVec, ⟨x, lit 0 1, lit 0 1⟩, 0, {}, 0⟩

theorem damages_insideCone_iff_east :
    let msg := shotAlong (lit 1 1)
    (∀ target, Damages rangeSession msg target →
      InsideCone msg.origin msg.direction target.replicatedState.position) ↔
        AimedInNumbers rangeSession msg :=
  damages_insideCone_iff (by decide +kernel)

/-- A shot in no direction damages the first hostile there is. -/
theorem damages_nan : ∃ target, rangeSession.actors.slots[0]? = some target ∧
    Damages rangeSession (shotAlong .nan) target ∧
      ¬ InsideCone zeroVec ⟨.nan, lit 0 1, lit 0 1⟩ target.replicatedState.position := by
  have first : (bestTarget rangeSession (shotAlong .nan)).map (·.1) = some 0 := by decide +kernel
  have high : ∀ b ∈ bestTarget rangeSession (shotAlong .nan), le b.2 (lit (-1000) 1) = false := by
    decide +kernel
  obtain ⟨⟨i, score⟩, chosen, rfl⟩ := Option.map_eq_some_iff.mp first
  obtain ⟨target, at_, damages⟩ := damages_of_chosen (by decide +kernel) chosen (high _ chosen)
  refine ⟨target, at_, damages, fun inside => ?_⟩
  cases inside.numeric.2.1

end F4MP.Service
