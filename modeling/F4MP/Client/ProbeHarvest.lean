import F4MP.Library.Grouping
import F4MP.Service.ProfileJson

/-!
# Harvesting callsites

`player_hook_probe_harvest.c` counts where a probed function was called from. A table of 32 clusters
holds one return address each; a cluster that keeps seeing movement and no synthetic call is promoted
to a candidate hook site. The trace files are left out.
-/

namespace F4MP.Client
open Protocol Service Grouping

/-! ## Clusters -/

structure PlayerHookProbeHarvestCluster where
  representativeAddr : UInt64 := 0
  callerAddr : UInt64 := 0
  sampleCount : UInt32 := 0
  syntheticSampleCount : UInt32 := 0
  movementHits : UInt32 := 0
  idleHits : UInt32 := 0
  localPlayerHits : UInt32 := 0
  score : UInt32 := 0
  promoted : Bool := false
  deriving DecidableEq

def phhMaxClusters : Nat := 32

structure PlayerHookProbeHarvestState where
  nextSessionId : UInt32 := 0
  sessionId : UInt32 := 0
  active : Bool := false
  family : Text := []
  reason : Text := []
  mode : Text := []
  scenarioTag : Text := []
  sampleCount : UInt32 := 0
  acceptedSampleCount : UInt32 := 0
  syntheticSampleCount : UInt32 := 0
  clusterCount : UInt32 := 0
  promotedCandidateCount : UInt32 := 0
  clusters : List PlayerHookProbeHarvestCluster := List.replicate phhMaxClusters {}

/-- The arguments of `phh_note_explicit_callsite`; the name of the seam goes to the traces only. -/
structure CallsiteSample where
  returnAddr : UInt64
  callerAddr : UInt64
  syntheticEvent : Bool
  localPlayerValid : Bool
  movementContextValid : Bool
  deriving DecidableEq

def computeScore (c : PlayerHookProbeHarvestCluster) : UInt32 :=
  let score := c.movementHits * 10 + c.localPlayerHits * 5
  let score :=
    if c.idleHits < c.movementHits then score + (c.movementHits - c.idleHits) * 4 else score
  if c.syntheticSampleCount > 0 then
    let penalty := c.syntheticSampleCount * 8
    if penalty > score then 0 else score - penalty
  else score

/-- `upsert_cluster`: the cluster that takes the sample, with its index. -/
def upsertCluster (returnAddr callerAddr : UInt64) (s : PlayerHookProbeHarvestState) :
    Nat × PlayerHookProbeHarvestState :=
  match s.clusters.findIdx? fun c => 0 < c.sampleCount && c.representativeAddr == returnAddr with
  | some i => (i, s)
  | none =>
      match s.clusters.findIdx? fun c => c.sampleCount == 0 with
      | some i =>
          (i, { s with
            clusters := s.clusters.set i { representativeAddr := returnAddr, callerAddr }
            clusterCount := s.clusterCount + 1 })
      | none => (phhMaxClusters - 1, s)

/-- The turn of a cluster in `refresh_clusters`. -/
def PlayerHookProbeHarvestCluster.refresh (c : PlayerHookProbeHarvestCluster) :
    PlayerHookProbeHarvestCluster :=
  if c.sampleCount = 0 then c
  else
    let score := computeScore c
    { c with
      score
      promoted := c.representativeAddr != 0 && 10 ≤ score && c.syntheticSampleCount == 0 }

def refreshClusters (s : PlayerHookProbeHarvestState) : PlayerHookProbeHarvestState :=
  let clusters := s.clusters.map (·.refresh)
  { s with
    clusters
    promotedCandidateCount :=
      UInt32.ofNat (clusters.countP fun c => c.sampleCount != 0 && c.promoted) }

/-- What `phh_note_explicit_callsite` counts in the cluster. -/
def PlayerHookProbeHarvestCluster.note (sample : CallsiteSample) (c : PlayerHookProbeHarvestCluster) :
    PlayerHookProbeHarvestCluster :=
  { c with
    syntheticSampleCount := if sample.syntheticEvent then c.syntheticSampleCount + 1
      else c.syntheticSampleCount
    sampleCount := c.sampleCount + 1
    movementHits := if sample.movementContextValid then c.movementHits + 1 else c.movementHits
    idleHits := if sample.movementContextValid then c.idleHits else c.idleHits + 1
    localPlayerHits := if sample.localPlayerValid then c.localPlayerHits + 1 else c.localPlayerHits }

def phhNoteExplicitCallsite (s : PlayerHookProbeHarvestState) (sample : CallsiteSample) :
    PlayerHookProbeHarvestState :=
  if !s.active then s
  else
    let (i, s) := upsertCluster sample.returnAddr sample.callerAddr s
    refreshClusters { s with
      sampleCount := s.sampleCount + 1
      syntheticSampleCount := if sample.syntheticEvent then s.syntheticSampleCount + 1
        else s.syntheticSampleCount
      acceptedSampleCount := if sample.syntheticEvent then s.acceptedSampleCount
        else s.acceptedSampleCount + 1
      clusters := s.clusters.modify i (·.note sample) }

/-! ## Sessions -/

/-- The fields of the report that a session starts from. -/
structure HookDiscoveryReport where
  probeFamily : Option Text
  probeReason : Option Text
  probeMode : Option Text

def phhReset : PlayerHookProbeHarvestState := { nextSessionId := 1, mode := ascii "idle" }

def envOrDefault (env : Option Text) (fallback : Text) : Text :=
  match env with
  | some v => if cString v = [] then fallback else v
  | none => fallback

/-- `phh_begin_unresolved_session`, with the value of `F4MP_PROBE_SCENARIO`. -/
def phhBeginUnresolvedSession (report : Option HookDiscoveryReport) (env : Option Text)
    (s : PlayerHookProbeHarvestState) : PlayerHookProbeHarvestState :=
  let nextSessionId := if s.nextSessionId = 0 then 1 else s.nextSessionId
  match report with
  | none => { s with nextSessionId }
  | some report =>
      { sessionId := nextSessionId
        nextSessionId := nextSessionId + 1
        active := true
        family := (cString (report.probeFamily.getD (ascii "PlayerCharacter::Update"))).take 95
        reason := (cString (report.probeReason.getD (ascii "unresolved_required_address"))).take 63
        mode := (cString (report.probeMode.getD (ascii "probe_only"))).take 31
        scenarioTag := (cString (envOrDefault env (ascii "idle"))).take 31 }

/-- The state after a session has seen these samples. -/
def harvest (report : HookDiscoveryReport) (env : Option Text) (s : PlayerHookProbeHarvestState)
    (samples : List CallsiteSample) : PlayerHookProbeHarvestState :=
  samples.foldl phhNoteExplicitCallsite (phhBeginUnresolvedSession (some report) env s)

/-! ## Clusters as groups of samples -/

/-- The samples by the address they return to, as a table of 32 groups takes them. -/
def sampleGroups (samples : List CallsiteSample) : List (Group CallsiteSample UInt64) :=
  grouped (·.returnAddr) phhMaxClusters samples

theorem sampleGroups_grouped (samples : List CallsiteSample) :
    Grouped (·.returnAddr) phhMaxClusters samples (sampleGroups samples) :=
  grouped_grouped (by decide) samples

/-- The counters of a group of samples. -/
def counted (group : Group CallsiteSample UInt64) : PlayerHookProbeHarvestCluster where
  representativeAddr := group.representative
  callerAddr := (group.members.head?.map (·.callerAddr)).getD 0
  sampleCount := UInt32.ofNat group.members.length
  syntheticSampleCount := UInt32.ofNat (group.members.countP (·.syntheticEvent))
  movementHits := UInt32.ofNat (group.members.countP (·.movementContextValid))
  idleHits := UInt32.ofNat (group.members.countP (!·.movementContextValid))
  localPlayerHits := UInt32.ofNat (group.members.countP (·.localPlayerValid))

def clusterTable (groups : List (Group CallsiteSample UInt64)) : List PlayerHookProbeHarvestCluster :=
  groups.map (fun group => (counted group).refresh) ++
    List.replicate (phhMaxClusters - groups.length) { sampleCount := 0 }

/-- A cluster that has counted 2^32 samples looks empty. -/
def Countable (groups : List (Group CallsiteSample UInt64)) : Prop :=
  ∀ group ∈ groups, group.members.length < 2 ^ 32

section

variable {groups : List (Group CallsiteSample UInt64)} {group : Group CallsiteSample UInt64}
  {x : CallsiteSample} {s : PlayerHookProbeHarvestState}

theorem countP_add {p : CallsiteSample → Bool} (members : List CallsiteSample) :
    (if p x then UInt32.ofNat (members.countP p) + 1 else UInt32.ofNat (members.countP p)) =
      UInt32.ofNat ((members ++ [x]).countP p) := by
  rw [List.countP_append, List.countP_singleton]
  cases p x
  · rfl
  · exact (UInt32.ofNat_add _ _).symm

theorem note_counted (nonempty : group.members ≠ []) :
    (counted group).note x = counted (group.add x) := by
  obtain ⟨representative, members⟩ := group
  obtain ⟨first, rest, rfl⟩ := List.exists_cons_of_ne_nil nonempty
  have idle : (if x.movementContextValid
        then UInt32.ofNat ((first :: rest).countP (!·.movementContextValid))
        else UInt32.ofNat ((first :: rest).countP (!·.movementContextValid)) + 1) =
      UInt32.ofNat ((first :: rest ++ [x]).countP (!·.movementContextValid)) := by
    rw [← countP_add]
    cases x.movementContextValid <;> rfl
  simp only [counted, PlayerHookProbeHarvestCluster.note, countP_add, idle, Group.add]
  rw [List.length_append, UInt32.ofNat_add]
  rfl

theorem refresh_with {c : PlayerHookProbeHarvestCluster} (used : c.sampleCount ≠ 0) (score : UInt32)
    (promoted : Bool) : { c with score, promoted }.refresh = c.refresh :=
  (if_neg used).trans (if_neg used).symm

theorem refresh_cases (c : PlayerHookProbeHarvestCluster) :
    ∃ score promoted, c.refresh = { c with score, promoted } := by
  by_cases empty : c.sampleCount = 0
  · exact ⟨_, _, if_pos empty⟩
  · exact ⟨_, _, if_neg empty⟩

theorem note_refresh (c : PlayerHookProbeHarvestCluster) (more : c.sampleCount + 1 ≠ 0) :
    (c.refresh.note x).refresh = (c.note x).refresh := by
  obtain ⟨score, promoted, is⟩ := refresh_cases c
  rw [is]
  exact refresh_with (c := c.note x) more score promoted

theorem refresh_refresh (c : PlayerHookProbeHarvestCluster) : c.refresh.refresh = c.refresh := by
  by_cases empty : c.sampleCount = 0
  · have same : c.refresh = c := if_pos empty
    rw [same, same]
  · obtain ⟨score, promoted, is⟩ := refresh_cases c
    exact (congrArg (·.refresh) is).trans (refresh_with empty score promoted)

@[simp] theorem refresh_sampleCount (c : PlayerHookProbeHarvestCluster) :
    c.refresh.sampleCount = c.sampleCount := by
  rw [PlayerHookProbeHarvestCluster.refresh]
  split <;> rfl

@[simp] theorem refresh_representativeAddr (c : PlayerHookProbeHarvestCluster) :
    c.refresh.representativeAddr = c.representativeAddr := by
  rw [PlayerHookProbeHarvestCluster.refresh]
  split <;> rfl

theorem counted_sampleCount (few : group.members.length < 2 ^ 32) :
    (counted group).sampleCount.toNat = group.members.length :=
  UInt32.toNat_ofNat_of_lt' few

theorem counted_representativeAddr (group : Group CallsiteSample UInt64) :
    (counted group).representativeAddr = group.representative := rfl

theorem counted_used (few : group.members.length < 2 ^ 32) (nonempty : group.members ≠ []) :
    0 < (counted group).sampleCount := by
  rw [UInt32.lt_iff_toNat_lt, counted_sampleCount few]
  exact List.length_pos_of_ne_nil nonempty

theorem refresh_counted_add (nonempty : group.members ≠ [])
    (few : (group.add x).members.length < 2 ^ 32) :
    ((counted group).refresh.note x).refresh = (counted (group.add x)).refresh := by
  rw [note_refresh, note_counted nonempty]
  have more := counted_used few (List.append_ne_nil_of_right_ne_nil _ (List.cons_ne_nil x []))
  rw [← note_counted nonempty] at more
  exact (UInt32.pos_iff_ne_zero.mp more)

theorem modify_append_cons {α : Type} (before after : List α) (a : α) (f : α → α) :
    (before ++ a :: after).modify before.length f = before ++ f a :: after := by
  induction before with
  | nil => rfl
  | cons b before ih => exact congrArg (b :: ·) ih

theorem map_refresh (groups : List (Group CallsiteSample UInt64)) :
    (groups.map fun group => (counted group).refresh).map (·.refresh) =
      groups.map fun group => (counted group).refresh := by
  rw [List.map_map]
  exact List.map_congr_left fun group _ => refresh_refresh (counted group)

theorem clusterTable_modify (nonempty : ∀ group ∈ groups, group.members ≠ []) {i : Nat}
    (inside : i < groups.length) (few : Countable (groups.modify i (·.add x))) :
    ((clusterTable groups).modify i (·.note x)).map (·.refresh) =
      clusterTable (groups.modify i (·.add x)) := by
  obtain ⟨before, group, after, rfl, rfl, eq⟩ := List.exists_of_modify (·.add x) inside
  have joined := few (group.add x) (by rw [eq]; exact List.mem_append_right _ List.mem_cons_self)
  have front : (before.map fun group => (counted group).refresh).length = before.length :=
    List.length_map _
  have noted : (clusterTable (before ++ group :: after)).modify before.length (·.note x) =
      before.map (fun group => (counted group).refresh) ++ (counted group).refresh.note x ::
        (after.map (fun group => (counted group).refresh) ++
          List.replicate (phhMaxClusters - (before ++ group :: after).length) { sampleCount := 0 }) := by
    rw [clusterTable, List.map_append, List.map_cons, List.append_assoc, List.cons_append, ← front,
      modify_append_cons]
  rw [noted, eq, clusterTable]
  simp only [List.map_append, List.map_cons, map_refresh, List.map_replicate, List.length_append,
    List.length_cons, List.append_assoc, List.cons_append,
    refresh_counted_add (nonempty group (List.mem_append_right _ List.mem_cons_self)) joined]
  rfl

theorem note_opened (x : CallsiteSample) :
    PlayerHookProbeHarvestCluster.note x
        { representativeAddr := x.returnAddr, callerAddr := x.callerAddr } =
      counted ⟨x.returnAddr, [x]⟩ := by
  obtain ⟨_, _, synthetic, valid, movement⟩ := x
  cases synthetic <;> cases valid <;> cases movement <;> rfl

theorem clusterTable_open (room : groups.length < phhMaxClusters) (x : CallsiteSample) :
    (((clusterTable groups).set groups.length
        { representativeAddr := x.returnAddr, callerAddr := x.callerAddr }).modify groups.length
          (·.note x)).map (·.refresh) = clusterTable (groups ++ [⟨x.returnAddr, [x]⟩]) := by
  obtain ⟨n, left⟩ : ∃ n, phhMaxClusters - groups.length = n + 1 := ⟨_, (Nat.succ_pred_eq_of_pos
    (Nat.sub_pos_of_lt room)).symm⟩
  have front : (groups.map fun group => (counted group).refresh).length = groups.length :=
    List.length_map _
  have rest : phhMaxClusters -
      (groups ++ [(⟨x.returnAddr, [x]⟩ : Group CallsiteSample UInt64)]).length = n := by
    rw [List.length_append, List.length_singleton]
    omega
  rw [clusterTable, clusterTable, left, rest, List.replicate_succ, ← front,
    List.set_append_right _ _ (Nat.le_refl _), Nat.sub_self, List.set_cons_zero, modify_append_cons,
    note_opened, List.map_append, List.map_append, List.map_cons, map_refresh, List.map_replicate,
    List.append_assoc]
  rfl

theorem findIdx?_used (nonempty : ∀ group ∈ groups, group.members ≠ []) (few : Countable groups)
    (addr : UInt64) :
    (clusterTable groups).findIdx? (fun c => 0 < c.sampleCount && c.representativeAddr == addr) =
      groups.findIdx? (·.representative == addr) := by
  have same : groups.findIdx? ((fun c : PlayerHookProbeHarvestCluster =>
        decide (0 < c.sampleCount) && c.representativeAddr == addr) ∘
          fun group => (counted group).refresh) =
      groups.findIdx? (·.representative == addr) := by
    induction groups with
    | nil => rfl
    | cons group rest ih =>
        have used := counted_used (few group List.mem_cons_self) (nonempty group List.mem_cons_self)
        rw [List.findIdx?_cons, List.findIdx?_cons,
          ih (fun g member => nonempty g (List.mem_cons_of_mem _ member))
            fun g member => few g (List.mem_cons_of_mem _ member)]
        simp [used, counted_representativeAddr]
  rw [clusterTable, List.findIdx?_append, List.findIdx?_map, same, List.findIdx?_replicate]
  simp

theorem findIdx?_empty (nonempty : ∀ group ∈ groups, group.members ≠ []) (few : Countable groups) :
    (clusterTable groups).findIdx? (fun c => c.sampleCount == 0) =
      if groups.length < phhMaxClusters then some groups.length else none := by
  have none : groups.findIdx? ((fun c : PlayerHookProbeHarvestCluster => c.sampleCount == 0) ∘
      fun group => (counted group).refresh) = none := by
    refine List.findIdx?_eq_none_iff.mpr fun group member => ?_
    rw [Function.comp_apply, refresh_sampleCount]
    exact beq_false_of_ne (UInt32.pos_iff_ne_zero.mp (counted_used (few group member)
      (nonempty group member)))
  rw [clusterTable, List.findIdx?_append, List.findIdx?_map, none, List.findIdx?_replicate]
  simp

theorem Countable.before (few : Countable (credit (·.returnAddr) phhMaxClusters groups x)) :
    Countable groups := by
  intro group member
  obtain ⟨group', member', grows⟩ := credit_grows member x
  exact Nat.lt_of_le_of_lt grows (few group' member')

/-- The cluster that takes a sample is the one of the group that it joins. -/
theorem note_clusters (active : s.active = true) (is : s.clusters = clusterTable groups)
    (bounded : groups.length ≤ phhMaxClusters) (nonempty : ∀ group ∈ groups, group.members ≠ [])
    (few : Countable (credit (·.returnAddr) phhMaxClusters groups x)) :
    (phhNoteExplicitCallsite s x).clusters =
      clusterTable (credit (·.returnAddr) phhMaxClusters groups x) := by
  have used := findIdx?_used nonempty few.before x.returnAddr
  have empty := findIdx?_empty nonempty few.before
  rw [← is] at used empty
  simp only [phhNoteExplicitCallsite, active, upsertCluster, used, empty, refreshClusters, credit,
    Bool.not_true, Bool.false_eq_true, if_false] at few ⊢
  cases found : groups.findIdx? (·.representative == x.returnAddr) with
  | some i =>
      simp only [found] at few ⊢
      rw [is]
      exact clusterTable_modify nonempty (List.findIdx?_eq_some_iff_getElem.mp found).1 few
  | none =>
      simp only [found] at few ⊢
      by_cases room : groups.length < phhMaxClusters
      · simp only [if_pos room] at few ⊢
        rw [is]
        exact clusterTable_open room x
      · have last : phhMaxClusters - 1 < groups.length := by
          have positive : 0 < phhMaxClusters := by decide
          omega
        simp only [if_neg room] at few ⊢
        rw [is]
        exact clusterTable_modify nonempty last few

theorem note_active (s : PlayerHookProbeHarvestState) (x : CallsiteSample) :
    (phhNoteExplicitCallsite s x).active = s.active := by
  cases active : s.active
  · simp [phhNoteExplicitCallsite, active]
  · simp only [phhNoteExplicitCallsite, active, upsertCluster, refreshClusters, Bool.not_true,
      Bool.false_eq_true, if_false]
    split
    · exact active
    · split
      · rfl
      · exact active

end

/-! ## What a cluster counts -/

section

variable (report : HookDiscoveryReport) (env : Option Text) (s : PlayerHookProbeHarvestState)
  (samples : List CallsiteSample)

/-- The clusters of a session are the groups of its samples. -/
theorem harvest_clusters (few : Countable (sampleGroups samples)) :
    (harvest report env s samples).active = true ∧
      (harvest report env s samples).clusters = clusterTable (sampleGroups samples) := by
  induction samples using List.reverseRecOn with
  | nil => exact ⟨rfl, rfl⟩
  | append_singleton samples x ih =>
      rw [sampleGroups, grouped_concat] at few ⊢
      obtain ⟨active, is⟩ := ih few.before
      have grouped := sampleGroups_grouped samples
      rw [harvest, List.foldl_append]
      exact ⟨(note_active _ x).trans active,
        note_clusters active is grouped.bounded grouped.nonempty few⟩

/-- A cluster counts these samples and no others, and is promoted by these counts. -/
structure CountsSamples (c : PlayerHookProbeHarvestCluster) (samples : List CallsiteSample) :
    Prop where
  sampleCount : c.sampleCount.toNat = samples.length
  synthetic : c.syntheticSampleCount.toNat = samples.countP (·.syntheticEvent)
  movement : c.movementHits.toNat = samples.countP (·.movementContextValid)
  idle : c.idleHits.toNat = samples.countP (!·.movementContextValid)
  localPlayer : c.localPlayerHits.toNat = samples.countP (·.localPlayerValid)
  score : c.score = computeScore c
  promoted : c.promoted = true ↔ c.representativeAddr ≠ 0 ∧
    (∀ x ∈ samples, x.syntheticEvent = false) ∧ 10 ≤ c.score

/-- The clusters that have counted something hold different addresses. -/
def DistinctClusters (clusters : List PlayerHookProbeHarvestCluster) : Prop :=
  ((clusters.filter (0 < ·.sampleCount)).map (·.representativeAddr)).Nodup

/-- Every cluster counts the samples of its own address. -/
def PureHarvest : Prop :=
  let clusters := (harvest report env s samples).clusters
  (∀ c ∈ clusters, 0 < c.sampleCount →
    CountsSamples c (samples.filter (·.returnAddr == c.representativeAddr))) ∧
  DistinctClusters clusters

/-- The cluster at `i` takes the samples of its own address; the last one takes those, too, whose
address has no cluster. -/
def takesSample (clusters : List PlayerHookProbeHarvestCluster) (i : Nat) (x : CallsiteSample) : Bool :=
  clusters[i]?.any (·.representativeAddr == x.returnAddr) ||
    i + 1 == phhMaxClusters &&
      !clusters.any fun c => 0 < c.sampleCount && c.representativeAddr == x.returnAddr

variable {groups : List (Group CallsiteSample UInt64)} {group : Group CallsiteSample UInt64}

theorem clusterTable_getElem? {i : Nat} {c : PlayerHookProbeHarvestCluster}
    (at_ : (clusterTable groups)[i]? = some c) (used : 0 < c.sampleCount) :
    ∃ group, groups[i]? = some group ∧ c = (counted group).refresh := by
  rw [clusterTable, List.getElem?_append] at at_
  split at at_
  · rw [List.getElem?_map] at at_
    obtain ⟨group, here, rfl⟩ := Option.map_eq_some_iff.mp at_
    exact ⟨group, here, rfl⟩
  · obtain rfl := List.eq_of_mem_replicate (List.mem_of_getElem? at_)
    cases used

theorem clusterTable_filter (nonempty : ∀ group ∈ groups, group.members ≠ [])
    (few : Countable groups) : (clusterTable groups).filter (0 < ·.sampleCount) =
      groups.map fun group => (counted group).refresh := by
  rw [clusterTable, List.filter_append, List.filter_replicate_of_neg (by decide), List.append_nil]
  refine List.filter_eq_self.mpr fun c among => ?_
  obtain ⟨group, member, rfl⟩ := List.mem_map.mp among
  rw [refresh_sampleCount]
  exact decide_eq_true (counted_used (few group member) (nonempty group member))

theorem clusterTable_keys (nonempty : ∀ group ∈ groups, group.members ≠ [])
    (few : Countable groups) : ((clusterTable groups).filter (0 < ·.sampleCount)).map
      (·.representativeAddr) = keys groups := by
  rw [clusterTable_filter nonempty few, List.map_map]
  exact List.map_congr_left fun group _ => refresh_representativeAddr (counted group)

theorem takesSample_eq (nonempty : ∀ group ∈ groups, group.members ≠ []) (few : Countable groups)
    {i : Nat} (here : groups[i]? = some group) (x : CallsiteSample) :
    takesSample (clusterTable groups) i x = counts phhMaxClusters (keys groups) i x.returnAddr := by
  have inUse : ((clusterTable groups).any fun c =>
      0 < c.sampleCount && c.representativeAddr == x.returnAddr) = (keys groups).contains x.returnAddr := by
    rw [← clusterTable_keys nonempty few, ← List.any_beq', List.any_map, List.any_filter]
    rfl
  have own : (clusterTable groups)[i]? = some (counted group).refresh := by
    rw [clusterTable, List.getElem?_append_left (by
      rw [List.length_map]
      exact (List.getElem?_eq_some_iff.mp here).1), List.getElem?_map, here, Option.map_some]
  rw [takesSample, inUse, own, Option.any_some, refresh_representativeAddr, counts,
    keys_getElem? here]
  rfl

theorem counted_counts (few : group.members.length < 2 ^ 32) (nonempty : group.members ≠ []) :
    CountsSamples (counted group).refresh group.members := by
  have exact_ : ∀ p : CallsiteSample → Bool,
      (UInt32.ofNat (group.members.countP p)).toNat = group.members.countP p := fun p =>
    UInt32.toNat_ofNat_of_lt' (Nat.lt_of_le_of_lt List.countP_le_length few)
  have used : (counted group).sampleCount ≠ 0 :=
    UInt32.pos_iff_ne_zero.mp (counted_used few nonempty)
  have is : (counted group).refresh = { counted group with
      score := computeScore (counted group)
      promoted := (counted group).representativeAddr != 0 && 10 ≤ computeScore (counted group) &&
        (counted group).syntheticSampleCount == 0 } := if_neg used
  have none : (counted group).syntheticSampleCount = 0 ↔
      ∀ x ∈ group.members, x.syntheticEvent = false := by
    rw [← UInt32.toNat_inj, show (counted group).syntheticSampleCount.toNat = _ from exact_ _,
      UInt32.toNat_zero, List.countP_eq_zero]
    simp only [Bool.not_eq_true]
  rw [is]
  refine ⟨counted_sampleCount few, exact_ _, exact_ _, exact_ _, exact_ _, rfl, ?_⟩
  simp only [Bool.and_eq_true, bne_iff_ne, decide_eq_true_eq, beq_iff_eq, none]
  constructor
  · rintro ⟨⟨addr, score⟩, all⟩
    exact ⟨addr, all, score⟩
  · rintro ⟨addr, all, score⟩
    exact ⟨⟨addr, score⟩, all⟩

/-- The clusters count every sample once, and promote by what they count. -/
theorem harvest_counts (few : Countable (sampleGroups samples)) :
    let clusters := (harvest report env s samples).clusters
    (∀ i c, clusters[i]? = some c → 0 < c.sampleCount →
      CountsSamples c (samples.filter (takesSample clusters i))) ∧
    DistinctClusters clusters := by
  have grouped := sampleGroups_grouped samples
  rw [show (harvest report env s samples).clusters = _ from
    (harvest_clusters report env s samples few).2]
  refine ⟨fun i c at_ used => ?_, ?_⟩
  · obtain ⟨group, here, rfl⟩ := clusterTable_getElem? at_ used
    have member := List.mem_of_getElem? here
    have members := grouped.members i group here
    simp only [← takesSample_eq grouped.nonempty few here] at members
    exact members ▸ counted_counts (few group member) (grouped.nonempty group member)
  · rw [DistinctClusters, clusterTable_keys grouped.nonempty few]
    exact grouped.distinct

end

/-! ## What spoils a harvest -/

/-- One sample more than there are clusters, each from another address. -/
def manyCallers : List CallsiteSample :=
  (List.range 33).map fun n => ⟨UInt64.ofNat n + 1, 0, false, true, true⟩

def idleCaller : CallsiteSample := ⟨1, 0, false, false, false⟩

theorem sampleGroups_replicate (n : Nat) (x : CallsiteSample) :
    sampleGroups (List.replicate (n + 1) x) = [⟨x.returnAddr, List.replicate (n + 1) x⟩] := by
  induction n with
  | zero => rfl
  | succ n ih =>
      rw [sampleGroups] at ih
      rw [List.replicate_succ', sampleGroups, grouped_concat, ih]
      simp [credit, Group.add]

theorem note_clusters_eq {s t : PlayerHookProbeHarvestState} (active : s.active = true)
    (active' : t.active = true) (same : s.clusters = t.clusters) (x : CallsiteSample) :
    (phhNoteExplicitCallsite s x).clusters = (phhNoteExplicitCallsite t x).clusters := by
  simp only [phhNoteExplicitCallsite, active, active', upsertCluster, same, refreshClusters,
    Bool.not_true, Bool.false_eq_true, if_false]
  split
  · simp only [same]
  · split
    · rfl
    · simp only [same]

/-- A cluster that is one sample short of looking empty. -/
def fullCounter : PlayerHookProbeHarvestState where
  active := true
  clusters := { representativeAddr := 1, sampleCount := 4294967295, idleHits := 4294967295 } ::
    List.replicate 31 { sampleCount := 0 }

/-- After 2^32 samples of an address its cluster starts again. -/
theorem harvest_idle (report : HookDiscoveryReport) (env : Option Text)
    (s : PlayerHookProbeHarvestState) {n : Nat} (wraps : n + 2 = 2 ^ 32) :
    (harvest report env s (List.replicate (n + 3) idleCaller)).clusters =
      { representativeAddr := 1, sampleCount := 1, idleHits := 1 } ::
        List.replicate 31 { sampleCount := 0 } := by
  have countable : Countable (sampleGroups (List.replicate (n + 1) idleCaller)) := by
    rw [sampleGroups_replicate]
    intro group member
    rw [List.mem_singleton.mp member, List.length_replicate]
    omega
  obtain ⟨active, is⟩ := harvest_clusters report env s _ countable
  have counter : UInt32.ofNat (n + 1) = 4294967295 := by
    rw [show n + 1 = 4294967295 by omega]
    rfl
  have full : clusterTable (sampleGroups (List.replicate (n + 1) idleCaller)) =
      fullCounter.clusters := by
    have cluster : counted ⟨1, List.replicate (n + 1) idleCaller⟩ =
        { representativeAddr := 1, sampleCount := 4294967295, idleHits := 4294967295 } := by
      simp only [counted, List.countP_replicate, List.length_replicate]
      rw [← counter]
      rfl
    rw [sampleGroups_replicate, clusterTable, List.map_singleton,
      show counted ⟨idleCaller.returnAddr, _⟩ = _ from cluster]
    rfl
  have runs : harvest report env s (List.replicate (n + 3) idleCaller) =
      phhNoteExplicitCallsite (phhNoteExplicitCallsite
        (harvest report env s (List.replicate (n + 1) idleCaller)) idleCaller) idleCaller := by
    rw [List.replicate_succ', List.replicate_succ', harvest, List.foldl_append, List.foldl_append]
    rfl
  rw [runs]
  refine (note_clusters_eq ((note_active _ _).trans active) rfl
    ((note_clusters_eq active rfl (is.trans full) idleCaller)) idleCaller).trans ?_
  decide +kernel

/-- A sample from one address too many spoils the last cluster, 2^32 samples of an address its own. -/
theorem harvest_impure :
    ¬PureHarvest ⟨none, none, none⟩ none phhReset manyCallers ∧
    ¬PureHarvest ⟨none, none, none⟩ none phhReset (List.replicate (2 ^ 32 + 1) idleCaller) := by
  constructor
  · intro pure
    have shared := (pure.1 ⟨32, 0, 2, 0, 2, 0, 2, 38, true⟩ (by decide +kernel) (by decide)).sampleCount
    revert shared
    decide +kernel
  · obtain ⟨n, wraps⟩ : ∃ n, n + 2 = 2 ^ 32 := ⟨4294967294, by norm_num⟩
    rw [← wraps, PureHarvest, harvest_idle _ _ _ wraps]
    rintro ⟨exact_, _⟩
    have again := (exact_ _ List.mem_cons_self (by decide)).sampleCount
    rw [List.filter_replicate_of_pos (by decide), List.length_replicate] at again
    exact absurd again (by simp)

/-- The last cluster takes the sample that no cluster is left for. -/
theorem harvest_counts_manyCallers :
    let clusters := (harvest ⟨none, none, none⟩ none phhReset manyCallers).clusters
    (∀ i c, clusters[i]? = some c → 0 < c.sampleCount →
      CountsSamples c (manyCallers.filter (takesSample clusters i))) ∧
    DistinctClusters clusters := by
  refine harvest_counts _ none phhReset manyCallers ?_
  rw [Countable]
  decide +kernel

end F4MP.Client
