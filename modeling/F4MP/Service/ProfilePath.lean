import F4MP.Service.Roster

/-!
# Profile paths

The file of a profile is named after the GUID that its slot keeps, with a `_` for every byte that a
file name should not have.
-/

namespace F4MP.Service
open SoftFloat Protocol

variable {F : Type}

/-- The bytes that `tl_make_safe_guid` keeps. -/
def SafeByte (c : UInt8) : Prop :=
  (0x61 ≤ c ∧ c ≤ 0x7A) ∨ (0x41 ≤ c ∧ c ≤ 0x5A) ∨ (0x30 ≤ c ∧ c ≤ 0x39) ∨ c = 0x5F ∨ c = 0x2D

instance (c : UInt8) : Decidable (SafeByte c) := inferInstanceAs (Decidable (_ ∨ _))

/-- Two bytes that are written alike. -/
def WrittenAlike (c d : UInt8) : Prop :=
  c = d ∨ (¬ SafeByte c ∨ c = 0x5F) ∧ (¬ SafeByte d ∨ d = 0x5F)

instance (c d : UInt8) : Decidable (WrittenAlike c d) := inferInstanceAs (Decidable (_ ∨ _))

/-- The name for a player without a GUID. -/
def anonymousName : Text := [0x61, 0x6E, 0x6F, 0x6E, 0x79, 0x6D, 0x6F, 0x75, 0x73]

/-- In their first 63 bytes the GUIDs are written alike, or one is empty and the other one is
`anonymous`. -/
def SharesProfile (guid guid' : Text) : Prop :=
  List.Forall₂ WrittenAlike (guid.take 63) (guid'.take 63) ∨
    guid = [] ∧ guid' = anonymousName ∨ guid = anonymousName ∧ guid' = []

section Names
variable {c d : UInt8} {guid guid' : Text}

def safeByte (c : UInt8) : UInt8 := if SafeByte c then c else 0x5F

theorem safeByte_eq_iff : safeByte c = safeByte d ↔ WrittenAlike c d := by
  unfold safeByte WrittenAlike
  by_cases safeC : SafeByte c <;> by_cases safeD : SafeByte d
  · rw [if_pos safeC, if_pos safeD]
    refine ⟨.inl, ?_⟩
    rintro (same | ⟨unsafeC | rfl, unsafeD | rfl⟩)
    · exact same
    · exact absurd safeC unsafeC
    · exact absurd safeC unsafeC
    · exact absurd safeD unsafeD
    · rfl
  · rw [if_pos safeC, if_neg safeD]
    refine ⟨fun same => .inr ⟨.inr same, .inl safeD⟩, ?_⟩
    rintro (rfl | ⟨unsafeC | same, _⟩)
    · exact absurd safeC safeD
    · exact absurd safeC unsafeC
    · exact same
  · rw [if_neg safeC, if_pos safeD]
    refine ⟨fun same => .inr ⟨.inl safeC, .inr same.symm⟩, ?_⟩
    rintro (rfl | ⟨_, unsafeD | same⟩)
    · exact absurd safeD safeC
    · exact absurd safeD unsafeD
    · exact same.symm
  · rw [if_neg safeC, if_neg safeD]
    exact iff_of_true rfl (.inr ⟨.inl safeC, .inl safeD⟩)

theorem safeByte_kept (safe : SafeByte d) (other : d ≠ 0x5F) : safeByte c = d ↔ c = d := by
  unfold safeByte
  split
  · exact Iff.rfl
  · rename_i unsafeC
    exact iff_of_false (Ne.symm other) fun same => unsafeC (same ▸ safe)

theorem map_safeByte_eq_iff {name name' : Text} :
    name.map safeByte = name'.map safeByte ↔ List.Forall₂ WrittenAlike name name' := by
  rw [← List.forall₂_eq_eq_eq, List.forall₂_map_left_iff, List.forall₂_map_right_iff]
  simp only [safeByte_eq_iff]

theorem map_safeByte_kept {word : Text} (kept : ∀ d ∈ word, SafeByte d ∧ d ≠ 0x5F) {name : Text} :
    name.map safeByte = word ↔ name = word := by
  induction word generalizing name with
  | nil => exact List.map_eq_nil_iff
  | cons d word ih =>
      obtain ⟨⟨safe, other⟩, rest⟩ := List.forall_mem_cons.mp kept
      cases name with
      | nil => exact iff_of_false (fun same => by cases same) fun same => by cases same
      | cons c name => rw [List.map_cons, List.cons.injEq, List.cons.injEq, safeByte_kept safe other,
          ih rest]

theorem take_anonymous : guid.take 63 = anonymousName ↔ guid = anonymousName := by
  constructor
  · intro short
    have size := congrArg List.length short
    rw [List.length_take, show anonymousName.length = 9 from rfl] at size
    rw [List.take_of_length_le (by omega)] at short
    exact short
  · rintro rfl
    rfl

theorem take_safeByte_anonymous :
    (guid.take 63).map safeByte = anonymousName ↔ guid = anonymousName := by
  rw [map_safeByte_kept (by decide +kernel), take_anonymous]

theorem keptGuid_whole (noNul : cString guid = guid) : keptGuid guid = guid.take 63 := by
  rw [keptGuid, strncpyField, noNul]

theorem tlMakeSafeGuid_kept (noNul : cString guid = guid) :
    tlMakeSafeGuid (keptGuid guid) 96 = (guid.take 63).map safeByte := by
  rw [tlMakeSafeGuid, keptGuid_whole noNul, List.take_take]
  rfl

theorem tlProfilePathForGuid_eq_iff (noNul : cString guid = guid) (noNul' : cString guid' = guid') :
    tlProfilePathForGuid (keptGuid guid) = tlProfilePathForGuid (keptGuid guid') ↔
      SharesProfile guid guid' := by
  have empty : ∀ text : Text, (text.take 63).map safeByte = [] ↔ text = [] := by simp
  simp only [tlProfilePathForGuid, tlMakeSafeGuid_kept noNul, tlMakeSafeGuid_kept noNul',
    List.append_cancel_left_eq, List.append_cancel_right_eq, empty, SharesProfile]
  have notEmpty : anonymousName ≠ [] := fun same => by cases same
  by_cases none : guid = [] <;> by_cases none' : guid' = []
  · subst none none'
    exact iff_of_true rfl (.inl .nil)
  · subst none
    rw [if_pos rfl, if_neg none', eq_comm]
    refine take_safeByte_anonymous.trans ⟨fun same => .inr (.inl ⟨rfl, same⟩), ?_⟩
    rintro (alike | ⟨_, same⟩ | ⟨same, _⟩)
    · rw [List.take_nil, List.forall₂_nil_left_iff, List.take_eq_nil_iff] at alike
      exact absurd (alike.resolve_left (by decide)) none'
    · exact same
    · exact absurd same.symm notEmpty
  · subst none'
    rw [if_neg none, if_pos rfl]
    refine take_safeByte_anonymous.trans ⟨fun same => .inr (.inr ⟨same, rfl⟩), ?_⟩
    rintro (alike | ⟨_, same⟩ | ⟨same, _⟩)
    · rw [List.take_nil, List.forall₂_nil_right_iff, List.take_eq_nil_iff] at alike
      exact absurd (alike.resolve_left (by decide)) none
    · exact absurd same.symm notEmpty
    · exact same
  · rw [if_neg none, if_neg none', map_safeByte_eq_iff]
    exact (or_iff_left fun others => others.elim (fun h => none h.1) fun h => none' h.2).symm

theorem helloOf?_whole {bytes : List UInt8} {names : Text × Text}
    (hello : helloOf? bytes = some names) : cString names.1 = names.1 := by
  have event : helloEvent (.envelope ⟨fun _ => none⟩ ⟨0, bytes⟩ : ServiceEvent Binary32) =
      some (names.1, 0) := by
    rw [helloEvent, hello]
    rfl
  exact helloEvent_whole event

/-- The GUIDs of two HELLOs get their slots different profile files exactly if they do not share one. -/
theorem profilePaths_ne_iff [CFloat F] [WireFloat F] (store store' : ProfileStore)
    {bytes bytes' : List UInt8} {names names' : Text × Text} (hello : helloOf? bytes = some names)
    (hello' : helloOf? bytes' = some names') (connectionId connectionId' tick tick' : UInt32)
    (slot slot' : PlayerRuntimeState F) :
    tlProfilePathForGuid
        (fillSlot store names.1 names.2 connectionId tick slot).profileRef.playerGuid ≠
      tlProfilePathForGuid
        (fillSlot store' names'.1 names'.2 connectionId' tick' slot').profileRef.playerGuid ↔
      ¬ SharesProfile names.1 names'.1 := by
  have noNul := helloOf?_whole hello
  have noNul' := helloOf?_whole hello'
  exact not_congr (tlProfilePathForGuid_eq_iff noNul noNul')

end Names

theorem profilePaths_ne_iff_two :
    let store : ProfileStore := ⟨fun _ => none⟩
    let bytes (playerGuid : Text) := packetBytes (F := Binary32) 1 1 .hello 0 (⟨0, 0⟩, playerGuid, [])
    helloOf? (bytes [0x41]) = some ([0x41], []) ∧ helloOf? (bytes [0x42]) = some ([0x42], []) ∧
      tlProfilePathForGuid (fillSlot store [0x41] [] 100 0
          (.zero : PlayerRuntimeState Binary32)).profileRef.playerGuid ≠
        tlProfilePathForGuid (fillSlot store [0x42] [] 101 0
          (.zero : PlayerRuntimeState Binary32)).profileRef.playerGuid := by
  intro store bytes
  have hello : helloOf? (bytes [0x41]) = some ([0x41], []) := by decide +kernel
  have hello' : helloOf? (bytes [0x42]) = some ([0x42], []) := by decide +kernel
  have apart : ¬ SharesProfile [0x41] [0x42] := by
    unfold SharesProfile
    decide
  exact ⟨hello, hello', (profilePaths_ne_iff store store hello hello' 100 101 0 0 .zero .zero).mpr
    apart⟩

/-- `a.b` and `a_b` -/
theorem profilePaths_ne_iff_shared :
    let store : ProfileStore := ⟨fun _ => none⟩
    let bytes (playerGuid : Text) := packetBytes (F := Binary32) 1 1 .hello 0 (⟨0, 0⟩, playerGuid, [])
    helloOf? (bytes [0x61, 0x2E, 0x62]) = some ([0x61, 0x2E, 0x62], []) ∧
      helloOf? (bytes [0x61, 0x5F, 0x62]) = some ([0x61, 0x5F, 0x62], []) ∧
      tlProfilePathForGuid (fillSlot store [0x61, 0x2E, 0x62] [] 100 0
          (.zero : PlayerRuntimeState Binary32)).profileRef.playerGuid =
        tlProfilePathForGuid (fillSlot store [0x61, 0x5F, 0x62] [] 101 0
          (.zero : PlayerRuntimeState Binary32)).profileRef.playerGuid := by
  intro store bytes
  exact ⟨by decide +kernel, by decide +kernel, by decide +kernel⟩

end F4MP.Service
