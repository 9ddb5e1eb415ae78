import F4MP.Library.Search
import F4MP.Service.Transport

/-!
# Profile files

A profile as it is written to its file, and what the loader finds again by searching the text for
each quoted key.
-/

namespace F4MP.Service
open Protocol Search

/-! ## The writer and the loader -/

structure PlayerProfileData extends PlayerProfile where
  playerGuid : Text := []
  displayName : Text := []

def ascii (text : String) : Text := text.toList.map fun c => UInt8.ofNat c.toNat

/-- `pattern[64]` -/
def keyPattern (key : Text) : Text := (ascii "\"" ++ key ++ ascii "\"").take 63

def jsonFindU32 (src key : Text) : Option UInt32 := do
  let pos ← strstr (keyPattern key) src
  let pos ← strchr 0x3A pos
  scanDecimal (pos.tail.dropWhile fun c => c = 0x20 ∨ c = 0x09)

def jsonFindString (src key : Text) (outCap : Nat) : Option Text := do
  let pos ← strstr (keyPattern key) src
  let pos ← strchr 0x3A pos
  let start ← strchr 0x22 pos
  let stop ← strchr 0x22 start.tail
  let len := start.tail.length - stop.length
  if outCap < len + 1 then none else some (start.tail.take len)

def itemKey (i : Fin maxProfileRecords) (name : String) : Text :=
  ascii "item_" ++ decimal i.val ++ ascii name

def perkKey (i : Fin maxProfileRecords) (name : String) : Text :=
  ascii "perk_" ++ decimal i.val ++ ascii name

/-- The indices `i < count && i < 16`. -/
def records (count : UInt16) : List (Fin maxProfileRecords) :=
  (List.finRange maxProfileRecords).filter fun i => i.val < count.toNat

/-- The three lines of an item. -/
def itemText (profile : PlayerProfileData) (i : Fin maxProfileRecords) : Text :=
  ascii "  \"" ++ (itemKey i "_form_id" ++ (ascii "\": " ++
    (decimal (profile.items i).formId.toNat ++
  (ascii ",\n  \"" ++ (itemKey i "_count" ++ (ascii "\": " ++
    (decimal (profile.items i).count.toNat ++
  (ascii ",\n  \"" ++ (itemKey i "_equipped" ++ (ascii "\": " ++
    (decimal (if (profile.items i).equipped ≠ 0 then 1 else 0) ++ ascii ",\n")))))))))))

/-- The two lines of a perk; behind the last one there is no comma. -/
def perkText (profile : PlayerProfileData) (i : Fin maxProfileRecords) : Text :=
  ascii "  \"" ++ (perkKey i "_form_id" ++ (ascii "\": " ++
    (decimal (profile.perks i).perkFormId.toNat ++
  (ascii ",\n  \"" ++ (perkKey i "_rank" ++ (ascii "\": " ++
    (decimal (profile.perks i).rank.toNat ++
      ((if i.val + 1 < profile.perkCount.toNat then ascii "," else []) ++ ascii "\n"))))))))

/-- What `profile_save_json` writes to the file. -/
def profileSaveJson (profile : PlayerProfileData) : Text :=
  ascii "\x7b\n  \"version\": 1,\n  \"player_guid\": \"" ++ (profile.playerGuid ++
  (ascii "\",\n  \"display_name\": \"" ++ (profile.displayName ++
  (ascii "\",\n  \"level\": " ++ (decimal profile.level.toNat ++
  (ascii ",\n  \"xp\": " ++ (decimal profile.xp.toNat ++
  (ascii ",\n  \"equipped_form_id\": " ++ (decimal profile.equippedFormId.toNat ++
  (ascii ",\n  \"caps\": " ++ (decimal profile.caps.toNat ++
  (ascii ",\n  \"special\": \x7b \"str\": " ++ (decimal profile.strStat.toNat ++
  (ascii ", \"per\": " ++ (decimal profile.perStat.toNat ++
  (ascii ", \"end\": " ++ (decimal profile.endStat.toNat ++
  (ascii ", \"cha\": " ++ (decimal profile.chaStat.toNat ++
  (ascii ", \"int\": " ++ (decimal profile.intStat.toNat ++
  (ascii ", \"agi\": " ++ (decimal profile.agiStat.toNat ++
  (ascii ", \"luk\": " ++ (decimal profile.lukStat.toNat ++
  (ascii " \x7d,\n  \"sex\": " ++ (decimal profile.sex.toNat ++
  (ascii ",\n  \"body_preset\": " ++ (decimal profile.bodyPreset.toNat ++
  (ascii ",\n  \"item_count\": " ++ (decimal profile.itemCount.toNat ++
  (ascii ",\n  \"perk_count\": " ++ (decimal profile.perkCount.toNat ++
  (ascii ",\n" ++ ((records profile.itemCount).flatMap (itemText profile) ++
  ((records profile.perkCount).flatMap (perkText profile) ++
    ascii "\x7d\n"))))))))))))))))))))))))))))))))))))

/-- `(uint16_t)((tmp>16)?16:tmp)` -/
def clampCount (count : UInt32) : UInt16 := if 16 < count then 16 else count.toUInt16

theorem clampCount_le (count : UInt32) : (clampCount count).toNat ≤ maxProfileRecords := by
  unfold clampCount
  split
  · exact le_rfl
  · rename_i small
    rw [UInt32.not_lt, UInt32.le_iff_toNat_le] at small
    rw [UInt32.toNat_toUInt16]
    exact (Nat.mod_le _ _).trans small

/-- What `profile_load_json` fills in from the text of a file. -/
def readProfile (buf : Text) : PlayerProfileData :=
  let u32 (key : Text) : UInt32 := (jsonFindU32 buf key).getD 0
  let u8 (key : Text) : UInt8 := (u32 key).toUInt8
  let itemCount := clampCount (u32 (ascii "item_count"))
  let perkCount := clampCount (u32 (ascii "perk_count"))
  { playerGuid := (jsonFindString buf (ascii "player_guid") 64).getD []
    displayName := (jsonFindString buf (ascii "display_name") 64).getD []
    level := u32 (ascii "level")
    xp := u32 (ascii "xp")
    equippedFormId := u32 (ascii "equipped_form_id")
    caps := u32 (ascii "caps")
    strStat := u8 (ascii "str")
    perStat := u8 (ascii "per")
    endStat := u8 (ascii "end")
    chaStat := u8 (ascii "cha")
    intStat := u8 (ascii "int")
    agiStat := u8 (ascii "agi")
    lukStat := u8 (ascii "luk")
    sex := u8 (ascii "sex")
    bodyPreset := u32 (ascii "body_preset")
    itemCount := itemCount
    items := fun i =>
      if i.val < itemCount.toNat then
        { formId := u32 (itemKey i "_form_id")
          count := u32 (itemKey i "_count")
          equipped := if u32 (itemKey i "_equipped") ≠ 0 then 1 else 0 }
      else {}
    perkCount := perkCount
    perks := fun i =>
      if i.val < perkCount.toNat then
        { perkFormId := u32 (perkKey i "_form_id")
          rank := u8 (perkKey i "_rank") }
      else {}
    itemCount_le := clampCount_le _
    perkCount_le := clampCount_le _ }

/-- `profile_load_json`; `none` stands for a file that cannot be read. -/
def profileLoadJson (file : Option Text) : Option PlayerProfileData :=
  match file with
  | none => none
  | some bytes =>
      let outProfile := readProfile (cString bytes)
      if outProfile.playerGuid = [] then none else some outProfile

/-! ## The text as quoted words -/

/-- A number of the profile under its key, and what the loader keeps of a number that it finds. -/
structure ProfileField where
  key : Text
  value : UInt32
  kept : UInt32 → UInt32
  kept_zero : kept 0 = 0
  kept_value : kept value = value

def numberField (key : Text) (value : UInt32) : ProfileField := ⟨key, value, id, rfl, rfl⟩

def keptByte (n : UInt32) : UInt32 := n.toUInt8.toUInt32

def byteField (key : Text) (value : UInt8) : ProfileField :=
  ⟨key, value.toUInt32, keptByte, rfl, by rw [keptByte, UInt8.toUInt8_toUInt32]⟩

def keptFlag (n : UInt32) : UInt32 := if n ≠ 0 then 1 else 0

theorem keptFlag_keptFlag (n : UInt32) : keptFlag (keptFlag n) = keptFlag n := by
  unfold keptFlag
  split <;> rfl

def flagField (key : Text) (value : UInt8) : ProfileField :=
  ⟨key, keptFlag value.toUInt32, keptFlag, rfl, keptFlag_keptFlag _⟩

def keptCount (n : UInt32) : UInt32 := (clampCount n).toUInt32

theorem clampCount_toUInt32 {count : UInt16} (small : count.toNat ≤ maxProfileRecords) :
    clampCount count.toUInt32 = count := by
  have notMore : ¬ 16 < count.toUInt32 := by
    rw [UInt32.not_lt, UInt32.le_iff_toNat_le, UInt16.toNat_toUInt32]
    exact small
  rw [clampCount, if_neg notMore, UInt16.toUInt16_toUInt32]

def countField (key : Text) (value : UInt16) (small : value.toNat ≤ maxProfileRecords) :
    ProfileField :=
  ⟨key, value.toUInt32, keptCount, rfl, by rw [keptCount, clampCount_toUInt32 small]⟩

/-- A field as it is written, up to the character that ends the number. -/
structure ProfileLine where
  before : Text
  field : ProfileField
  stop : UInt8
  behind : Text
  quoteless : 0x22 ∉ before ∧ 0x22 ∉ stop :: behind := by decide
  noNul : 0 ∉ before ∧ 0 ∉ stop :: behind := by decide
  ends : isDigit stop = false := by decide

def ProfileLine.piece (line : ProfileLine) : Piece UInt8 where
  before := line.before
  word := line.field.key
  behind := ascii ": " ++ (decimal line.field.value.toNat ++ line.stop :: line.behind)

/-- A line of its own. -/
def plainLine (field : ProfileField) : ProfileLine where
  before := ascii "  "
  field := field
  stop := 0x2C
  behind := ascii "\n"

def specialLine (key : String) (stat : UInt8) (stop : UInt8) (behind : Text)
    (quoteless : 0x22 ∉ stop :: behind) (noNul : 0 ∉ stop :: behind)
    (ends : isDigit stop = false) : ProfileLine where
  before := []
  field := byteField (ascii key) stat
  stop := stop
  behind := behind
  quoteless := ⟨List.not_mem_nil, quoteless⟩
  noNul := ⟨List.not_mem_nil, noNul⟩
  ends := ends

def headLines (p : PlayerProfileData) : List ProfileLine :=
  [plainLine (numberField (ascii "level") p.level), plainLine (numberField (ascii "xp") p.xp),
    plainLine (numberField (ascii "equipped_form_id") p.equippedFormId), plainLine (numberField (ascii "caps") p.caps)]

def specialLines (p : PlayerProfileData) : List ProfileLine :=
  [("str", p.strStat), ("per", p.perStat), ("end", p.endStat), ("cha", p.chaStat),
    ("int", p.intStat), ("agi", p.agiStat)].map (fun stat =>
      specialLine stat.1 stat.2 0x2C (ascii " ") (by decide) (by decide) (by decide)) ++
  [specialLine "luk" p.lukStat 0x20 (ascii "\x7d,\n") (by decide) (by decide)
    (by decide)]

def countLines (p : PlayerProfileData) : List ProfileLine :=
  [plainLine (byteField (ascii "sex") p.sex),
    plainLine (numberField (ascii "body_preset") p.bodyPreset),
    plainLine (countField (ascii "item_count") p.itemCount p.itemCount_le),
    plainLine (countField (ascii "perk_count") p.perkCount p.perkCount_le)]

def itemLines (p : PlayerProfileData) (i : Fin maxProfileRecords) : List ProfileLine :=
  [plainLine (numberField (itemKey i "_form_id") (p.items i).formId),
    plainLine (numberField (itemKey i "_count") (p.items i).count),
    plainLine (flagField (itemKey i "_equipped") (p.items i).equipped)]

def rankLine (p : PlayerProfileData) (i : Fin maxProfileRecords) : ProfileLine :=
  let field := byteField (perkKey i "_rank") (p.perks i).rank
  if i.val + 1 < p.perkCount.toNat then plainLine field
  else ⟨ascii "  ", field, 0x0A, [], by decide, by decide, by decide⟩

def perkLines (p : PlayerProfileData) (i : Fin maxProfileRecords) : List ProfileLine :=
  [plainLine (numberField (perkKey i "_form_id") (p.perks i).perkFormId), rankLine p i]

def recordLines (p : PlayerProfileData) : List ProfileLine :=
  (records p.itemCount).flatMap (itemLines p) ++ (records p.perkCount).flatMap (perkLines p)

/-- The lines behind the names. -/
def profileLines (p : PlayerProfileData) : List ProfileLine :=
  headLines p ++ (specialLines p ++ (countLines p ++ recordLines p))

/-- The numbers of the profile, under the keys that the loader searches for. -/
def profileFields (p : PlayerProfileData) : List ProfileField :=
  (profileLines p).map ProfileLine.field

def guidPieces (p : PlayerProfileData) : List (Piece UInt8) :=
  [⟨ascii "\x7b\n  ", ascii "version", ascii ": 1,\n"⟩,
    ⟨ascii "  ", ascii "player_guid", ascii ": "⟩, ⟨[], p.playerGuid, ascii ",\n"⟩]

def namePieces (p : PlayerProfileData) : List (Piece UInt8) :=
  [⟨ascii "  ", ascii "display_name", ascii ": "⟩, ⟨[], p.displayName, ascii ",\n"⟩]

def numberPieces (p : PlayerProfileData) : List (Piece UInt8) :=
  (headLines p).map ProfileLine.piece ++
    (⟨ascii "  ", ascii "special", ascii ": \x7b "⟩ ::
      (specialLines p ++ (countLines p ++ recordLines p)).map ProfileLine.piece)

theorem itemText_lines (p : PlayerProfileData) (i : Fin maxProfileRecords) :
    itemText p i = render 0x22 ((itemLines p i).map ProfileLine.piece) := by
  have flag : (keptFlag (p.items i).equipped.toUInt32).toNat =
      if (p.items i).equipped ≠ 0 then 1 else 0 := by
    have zero : (p.items i).equipped.toUInt32 = 0 ↔ (p.items i).equipped = 0 := by
      rw [← UInt8.toUInt32_inj]
      rfl
    unfold keptFlag
    simp only [ne_eq, zero]
    split <;> rfl
  simp only [itemText, ← flag, itemLines, List.map_cons, List.map_nil, render_cons, render_nil,
    ProfileLine.piece, plainLine, numberField, flagField, List.append_assoc, List.append_nil]
  rfl

theorem perkText_lines (p : PlayerProfileData) (i : Fin maxProfileRecords) :
    perkText p i = render 0x22 ((perkLines p i).map ProfileLine.piece) := by
  simp only [perkText, perkLines, List.map_cons, List.map_nil, render_cons, render_nil,
    ProfileLine.piece, plainLine, List.append_assoc, List.append_nil]
  unfold rankLine
  split <;> rfl

set_option maxRecDepth 2000 in
theorem profileSaveJson_pieces (p : PlayerProfileData) :
    profileSaveJson p =
      render 0x22 (guidPieces p ++ (namePieces p ++ numberPieces p)) ++ ascii "\x7d\n" := by
  have items : (records p.itemCount).flatMap (itemText p) =
      render 0x22 (((records p.itemCount).flatMap (itemLines p)).map ProfileLine.piece) := by
    rw [funext (itemText_lines p), render, List.map_flatMap, List.flatMap_assoc]
    rfl
  have perks : (records p.perkCount).flatMap (perkText p) =
      render 0x22 (((records p.perkCount).flatMap (perkLines p)).map ProfileLine.piece) := by
    rw [funext (perkText_lines p), render, List.map_flatMap, List.flatMap_assoc]
    rfl
  rw [profileSaveJson, items, perks]
  simp only [guidPieces, namePieces, numberPieces, headLines, specialLines, countLines, recordLines,
    List.map_cons, List.map_nil, List.map_append, List.cons_append, List.nil_append, render_cons,
    render_append, ProfileLine.piece, plainLine, specialLine, numberField, byteField,
    countField, List.append_assoc, UInt8.toNat_toUInt32, UInt16.toNat_toUInt32]
  rfl

/-! ## Keys -/

/-- Every key under which a number may stand, and `special`. -/
def numberKeys : List Text :=
  ["level", "xp", "equipped_form_id", "caps"].map ascii ++
    (ascii "special" :: (["str", "per", "end", "cha", "int", "agi", "luk", "sex", "body_preset",
      "item_count", "perk_count"].map ascii ++
    ((List.finRange maxProfileRecords).flatMap (fun i =>
        [itemKey i "_form_id", itemKey i "_count", itemKey i "_equipped"]) ++
      (List.finRange maxProfileRecords).flatMap fun i =>
        [perkKey i "_form_id", perkKey i "_rank"])))

/-- No character of a key stands between two quoted words, and the pattern for it is whole. -/
def PlainKey (key : Text) : Prop :=
  (0x22 ∉ key ∧ 0x2C ∉ key ∧ 0x3A ∉ key ∧ 0 ∉ key) ∧ key.length ≤ 61

instance (key : Text) : Decidable (PlainKey key) := inferInstanceAs (Decidable (_ ∧ _))

theorem numberKeys_nodup : numberKeys.Nodup := by decide +kernel

theorem numberKeys_plain : ∀ key ∈ numberKeys, PlainKey key := by decide +kernel

theorem numberKeys_other : ∀ key ∈ numberKeys,
    ascii "version" ≠ key ∧ ascii "player_guid" ≠ key ∧ ascii "display_name" ≠ key := by
  decide +kernel

section Keys
variable {p : PlayerProfileData}

theorem recordLines_keys : (recordLines p).map (fun line => line.field.key) =
    (records p.itemCount).flatMap (fun i =>
        [itemKey i "_form_id", itemKey i "_count", itemKey i "_equipped"]) ++
      (records p.perkCount).flatMap fun i => [perkKey i "_form_id", perkKey i "_rank"] := by
  have rank (i : Fin maxProfileRecords) : (rankLine p i).field.key = perkKey i "_rank" := by
    unfold rankLine
    split <;> rfl
  simp only [recordLines, List.map_append, List.map_flatMap, itemLines, perkLines, List.map_cons,
    List.map_nil, rank]
  rfl

theorem numberPieces_sublist : ((numberPieces p).map Piece.word).Sublist numberKeys := by
  have items : (records p.itemCount).Sublist (List.finRange maxProfileRecords) :=
    List.filter_sublist
  have perks : (records p.perkCount).Sublist (List.finRange maxProfileRecords) :=
    List.filter_sublist
  have words : (numberPieces p).map Piece.word =
      ["level", "xp", "equipped_form_id", "caps"].map ascii ++
        (ascii "special" :: (["str", "per", "end", "cha", "int", "agi", "luk", "sex", "body_preset",
          "item_count", "perk_count"].map ascii ++
            (recordLines p).map fun line => line.field.key)) := by
    simp only [numberPieces, headLines, specialLines, countLines, List.map_cons, List.map_nil,
      List.map_map, List.cons_append, List.nil_append]
    rfl
  rw [words, recordLines_keys]
  refine (List.Sublist.refl _).append (List.Sublist.cons_cons _ ((List.Sublist.refl _).append ?_))
  exact (items.flatMap _).append (perks.flatMap _)

theorem piece_mem {line : ProfileLine} (listed : line ∈ profileLines p) :
    line.piece ∈ numberPieces p := by
  simp only [profileLines, List.mem_append] at listed
  simp only [numberPieces, List.mem_append, List.mem_cons, List.mem_map]
  rcases listed with first | rest
  · exact .inl ⟨line, first, rfl⟩
  · exact .inr (.inr ⟨line, rest, rfl⟩)

theorem profileFields_plain {field : ProfileField} (written : field ∈ profileFields p) :
    field.key ∈ numberKeys := by
  obtain ⟨line, listed, rfl⟩ := List.mem_map.mp written
  exact numberPieces_sublist.subset (List.mem_map_of_mem (piece_mem listed))

end Keys

/-! ## What the loader finds -/

/-- The names hold no quote, no NUL, and fit their fields. -/
structure PlainName (name : Text) : Prop where
  quoteless : 0x22 ∉ name
  noNul : 0 ∉ name
  short : name.length ≤ 63

section Find
variable {p : PlayerProfileData} {key : Text}

theorem quoteless_decimal (n : Nat) : 0x22 ∉ decimal n := by
  intro inside
  have digit := decimal_isDigit n _ inside
  cases digit

theorem noNul_decimal (n : Nat) : 0 ∉ decimal n := by
  intro inside
  have digit := decimal_isDigit n _ inside
  cases digit

theorem ProfileLine.parts (line : ProfileLine) (listed : line.field.key ∈ numberKeys)
    (plain : PlainKey key) : line.piece.Parts 0x22 key where
  before := line.quoteless.1
  word := (numberKeys_plain _ listed).1.1
  behind := by
    rw [ProfileLine.piece, List.mem_append, List.mem_append, not_or, not_or]
    exact ⟨by decide, quoteless_decimal _, line.quoteless.2⟩
  parts := ⟨0x3A, List.mem_append_left _ (by decide), plain.1.2.2.1⟩

theorem pieces_parts (guid : PlainName p.playerGuid) (name : PlainName p.displayName)
    (plain : PlainKey key) :
    ∀ piece ∈ guidPieces p ++ (namePieces p ++ numberPieces p), piece.Parts 0x22 key := by
  have word (before text behind : Text) (quoteless : 0x22 ∉ before ∧ 0x22 ∉ text ∧ 0x22 ∉ behind)
      (c : UInt8) (foreign : c ∉ key) (parts : c ∈ behind) :
      (⟨before, text, behind⟩ : Piece UInt8).Parts 0x22 key :=
    ⟨quoteless.1, quoteless.2.1, quoteless.2.2, c, parts, foreign⟩
  have comma := plain.1.2.1
  have colon := plain.1.2.2.1
  intro piece listed
  simp only [List.mem_append] at listed
  rcases listed with listed | listed | listed
  · simp only [guidPieces, List.mem_cons, List.not_mem_nil, or_false] at listed
    rcases listed with rfl | rfl | rfl
    · exact word _ _ _ (by decide) 0x3A colon (by decide)
    · exact word _ _ _ (by decide) 0x3A colon (by decide)
    · exact word _ _ _ ⟨by decide, guid.quoteless, by decide⟩ 0x2C comma (by decide)
  · simp only [namePieces, List.mem_cons, List.not_mem_nil, or_false] at listed
    rcases listed with rfl | rfl
    · exact word _ _ _ (by decide) 0x3A colon (by decide)
    · exact word _ _ _ ⟨by decide, name.quoteless, by decide⟩ 0x2C comma (by decide)
  · have known := numberPieces_sublist.subset (List.mem_map_of_mem (f := Piece.word) listed)
    simp only [numberPieces, List.mem_append, List.mem_cons, List.mem_map] at listed
    rcases listed with ⟨line, _, rfl⟩ | rfl | ⟨line, _, rfl⟩
    · exact line.parts known plain
    · exact word _ _ _ (by decide) 0x3A colon (by decide)
    · exact line.parts known plain

theorem keyPattern_plain (plain : PlainKey key) : keyPattern key = quoted 0x22 key := by
  have size := plain.2
  have whole : (quoted 0x22 key).length ≤ 63 := by
    simp only [quoted, List.length_cons, List.length_append, List.length_nil]
    omega
  exact List.take_of_length_le whole

/-- Where the search for a quoted key goes on, once its first piece is known. -/
theorem strstr_pieces (guid : PlainName p.playerGuid) (name : PlainName p.displayName)
    (plain : PlainKey key) (front rest : List (Piece UInt8)) (piece : Piece UInt8)
    (text : guidPieces p ++ (namePieces p ++ numberPieces p) = front ++ piece :: rest)
    (earlier : ∀ other ∈ front, other.word ≠ key) (here : piece.word = key) :
    (strstr (keyPattern key) (profileSaveJson p)).bind (strchr 0x3A) =
      strchr 0x3A (piece.behind ++ (render 0x22 rest ++ ascii "\x7d\n")) := by
  have parts := pieces_parts guid name plain
  rw [text] at parts
  rw [keyPattern_plain plain, profileSaveJson_pieces, text,
    strstr_render plain.1.1 (by decide) parts earlier here]
  refine strchr_skip ?_
  simp only [quoted, List.mem_cons, List.mem_append, List.not_mem_nil, or_false, not_or]
  exact ⟨by decide, plain.1.2.2.1, by decide⟩

/-- The number behind the first colon of a text. -/
def numberBehind (pos : Text) : Option UInt32 :=
  scanDecimal (pos.tail.dropWhile fun c => c = 0x20 ∨ c = 0x09)

theorem jsonFindU32_bind (src key : Text) : jsonFindU32 src key =
    ((strstr (keyPattern key) src).bind (strchr 0x3A)).bind numberBehind :=
  (Option.bind_assoc _ _ _).symm

theorem strchr_comma (colonless : 0x3A ∉ key) (t : Text) :
    strchr 0x3A (ascii ",\n" ++ (ascii "  " ++ (0x22 :: (key ++ (0x22 :: (ascii ": " ++ t)))))) =
      some (ascii ": " ++ t) := by
  have absent : 0x3A ∉ ascii ",\n" ++ (ascii "  " ++ (0x22 :: (key ++ [0x22]))) := by
    simp only [List.mem_append, List.mem_cons, List.not_mem_nil, or_false, not_or]
    exact ⟨by decide, by decide, by decide, colonless, by decide⟩
  have found := strchr_first (t := 0x20 :: t) absent
  simp only [List.append_assoc, List.cons_append, List.nil_append] at found
  exact found

theorem numberBehind_decimal (n : UInt32) {c : UInt8} (ends : isDigit c = false) (rest : Text) :
    numberBehind (ascii ": " ++ (decimal n.toNat ++ c :: rest)) = some n := by
  obtain ⟨d, ds, text⟩ := List.exists_cons_of_ne_nil (decimal_ne_nil n.toNat)
  have plain := isDigit_blank d (decimal_isDigit n.toNat d (text ▸ List.mem_cons_self))
  have found := scanDecimal_decimal n ends rest
  rw [text] at found ⊢
  have blank : numberBehind (ascii ": " ++ (d :: ds ++ c :: rest)) =
      scanDecimal ((0x20 :: d :: (ds ++ c :: rest)).dropWhile fun c => c = 0x20 ∨ c = 0x09) := rfl
  rw [blank, List.dropWhile_cons_of_pos (by decide), List.dropWhile_cons_of_neg (by simpa using plain)]
  exact found

/-- A GUID that is a key hides the number: a quote stands behind the next colon. -/
theorem jsonFindU32_guid (guid : PlainName p.playerGuid) (name : PlainName p.displayName)
    (listed : key ∈ numberKeys) (same : p.playerGuid = key) :
    jsonFindU32 (profileSaveJson p) key = none := by
  obtain ⟨version, playerGuid, _⟩ := numberKeys_other key listed
  have search := strstr_pieces guid name (numberKeys_plain key listed)
    (guidPieces p).dropLast (namePieces p ++ numberPieces p) ⟨[], p.playerGuid, ascii ",\n"⟩ rfl
    (by
      intro other inside
      simp only [guidPieces, List.dropLast_cons_cons, List.dropLast_singleton, List.mem_cons,
        List.not_mem_nil, or_false] at inside
      rcases inside with rfl | rfl
      · exact version
      · exact playerGuid) same
  rw [namePieces, List.cons_append, render_cons] at search
  simp only [List.append_assoc, List.cons_append] at search
  rw [strchr_comma (by decide)] at search
  rw [jsonFindU32_bind, search]
  rfl

/-- A display name that is a key has the level behind the next colon. -/
theorem jsonFindU32_name (guid : PlainName p.playerGuid) (name : PlainName p.displayName)
    (listed : key ∈ numberKeys) (apart : p.playerGuid ≠ key) (same : p.displayName = key) :
    jsonFindU32 (profileSaveJson p) key = some p.level := by
  obtain ⟨version, playerGuid, displayName⟩ := numberKeys_other key listed
  have search := strstr_pieces guid name (numberKeys_plain key listed)
    (guidPieces p ++ (namePieces p).dropLast) (numberPieces p) ⟨[], p.displayName, ascii ",\n"⟩ rfl
    (by
      intro other inside
      simp only [guidPieces, namePieces, List.dropLast_cons_cons, List.dropLast_singleton,
        List.cons_append, List.nil_append, List.mem_cons, List.not_mem_nil, or_false] at inside
      rcases inside with rfl | rfl | rfl | rfl
      · exact version
      · exact playerGuid
      · exact apart
      · exact displayName) same
  simp only [numberPieces, headLines, List.map_cons, List.cons_append, render_cons,
    ProfileLine.piece, plainLine, numberField, List.append_assoc] at search
  rw [strchr_comma (by decide)] at search
  rw [jsonFindU32_bind, search]
  exact numberBehind_decimal p.level (by decide) _

theorem jsonFindU32_own (guid : PlainName p.playerGuid) (name : PlainName p.displayName)
    {field : ProfileField} (written : field ∈ profileFields p) (apart : p.playerGuid ≠ field.key)
    (apart' : p.displayName ≠ field.key) :
    jsonFindU32 (profileSaveJson p) field.key = some field.value := by
  have listed := profileFields_plain written
  obtain ⟨version, playerGuid, displayName⟩ := numberKeys_other _ listed
  obtain ⟨line, member, rfl⟩ := List.mem_map.mp written
  obtain ⟨front, rest, split⟩ := List.append_of_mem (piece_mem member)
  have distinct := numberKeys_nodup.sublist (numberPieces_sublist (p := p))
  rw [split, List.map_append, List.map_cons, List.nodup_append] at distinct
  have search := strstr_pieces guid name (numberKeys_plain _ listed)
    (guidPieces p ++ (namePieces p ++ front)) rest line.piece (by rw [split]; simp)
    (by
      intro other inside
      simp only [guidPieces, namePieces, List.cons_append, List.nil_append, List.mem_cons] at inside
      rcases inside with rfl | rfl | rfl | rfl | rfl | inside
      · exact version
      · exact playerGuid
      · exact apart
      · exact displayName
      · exact apart'
      · exact distinct.2.2 _ (List.mem_map_of_mem inside) _ List.mem_cons_self) rfl
  rw [jsonFindU32_bind, search]
  simp only [ProfileLine.piece, List.append_assoc, List.cons_append]
  exact numberBehind_decimal line.field.value line.ends _

/-- The names do not get in the way of a field: it is 0 where the GUID is its key, and the level
where the display name is. -/
def ProfileField.Kept (p : PlayerProfileData) (field : ProfileField) : Prop :=
  (p.playerGuid = field.key → field.value = 0) ∧
    (p.playerGuid ≠ field.key → p.displayName = field.key → field.value = field.kept p.level)

theorem ProfileField.kept_iff (guid : PlainName p.playerGuid) (name : PlainName p.displayName)
    {field : ProfileField} (written : field ∈ profileFields p) :
    field.kept ((jsonFindU32 (profileSaveJson p) field.key).getD 0) = field.value ↔
      field.Kept p := by
  have listed := profileFields_plain written
  unfold ProfileField.Kept
  by_cases same : p.playerGuid = field.key
  · rw [jsonFindU32_guid guid name listed same, Option.getD_none, field.kept_zero]
    exact ⟨fun zero => ⟨fun _ => zero.symm, fun apart => absurd same apart⟩,
      fun kept => (kept.1 same).symm⟩
  by_cases same' : p.displayName = field.key
  · rw [jsonFindU32_name guid name listed same same', Option.getD_some]
    exact ⟨fun level => ⟨fun h => absurd h same, fun _ _ => level.symm⟩,
      fun kept => (kept.2 same same').symm⟩
  · rw [jsonFindU32_own guid name written same same', Option.getD_some]
    exact iff_of_true field.kept_value ⟨fun h => absurd h same, fun _ h => absurd h same'⟩

theorem jsonFindString_behind (src : Text) {word : Text} (plain : PlainName word) {t : Text}
    (found : (strstr (keyPattern key) src).bind (strchr 0x3A) =
      some (ascii ": " ++ (0x22 :: (word ++ (0x22 :: t))))) :
    jsonFindString src key 64 = some word := by
  have bind : jsonFindString src key 64 =
      ((strstr (keyPattern key) src).bind (strchr 0x3A)).bind fun pos =>
        (strchr 0x22 pos).bind fun start => (strchr 0x22 start.tail).bind fun stop =>
          if 64 < start.tail.length - stop.length + 1 then none
          else some (start.tail.take (start.tail.length - stop.length)) :=
    (Option.bind_assoc _ _ _).symm
  have start : strchr 0x22 (ascii ": " ++ (0x22 :: (word ++ (0x22 :: t)))) =
      some (0x22 :: (word ++ (0x22 :: t))) := strchr_first (by decide)
  have stop : strchr 0x22 (word ++ (0x22 :: t)) = some (0x22 :: t) := strchr_first plain.quoteless
  have size : (word ++ (0x22 :: t)).length - (0x22 :: t).length = word.length := by simp
  have short := plain.short
  simp only [bind, found, Option.bind_some, start, List.tail_cons, stop, size, List.take_left]
  rw [if_neg (by omega)]

theorem playerGuid_found (guid : PlainName p.playerGuid) (name : PlainName p.displayName) :
    jsonFindString (profileSaveJson p) (ascii "player_guid") 64 = some p.playerGuid := by
  have plain : PlainKey (ascii "player_guid") := by decide
  have search := strstr_pieces guid name plain
    ((guidPieces p).take 1) (⟨[], p.playerGuid, ascii ",\n"⟩ :: (namePieces p ++ numberPieces p))
    ⟨ascii "  ", ascii "player_guid", ascii ": "⟩ rfl
    (by
      intro other inside
      simp only [guidPieces, List.take_succ_cons, List.take_zero, List.mem_singleton] at inside
      rw [inside]
      decide) rfl
  rw [render_cons] at search
  simp only [List.nil_append, List.cons_append, List.append_assoc] at search
  exact jsonFindString_behind _ guid search

theorem displayName_found (guid : PlainName p.playerGuid) (name : PlainName p.displayName) :
    jsonFindString (profileSaveJson p) (ascii "display_name") 64 = some p.displayName := by
  have plain : PlainKey (ascii "display_name") := by decide
  have other : ∀ piece ∈ (guidPieces p).dropLast, piece.word ≠ ascii "display_name" := by
    intro piece inside
    simp only [guidPieces, List.dropLast_cons_cons, List.dropLast_singleton, List.mem_cons,
      List.not_mem_nil, or_false] at inside
    rcases inside with rfl | rfl
    · show ascii "version" ≠ ascii "display_name"
      decide
    · show ascii "player_guid" ≠ ascii "display_name"
      decide
  by_cases same : p.playerGuid = ascii "display_name"
  · have search := strstr_pieces guid name plain
      (guidPieces p).dropLast (namePieces p ++ numberPieces p) ⟨[], p.playerGuid, ascii ",\n"⟩ rfl
      other same
    rw [namePieces, List.cons_append, render_cons] at search
    simp only [List.append_assoc, List.cons_append, List.nil_append] at search
    rw [strchr_comma (by decide), render_cons] at search
    simp only [List.nil_append, List.cons_append, List.append_assoc] at search
    exact jsonFindString_behind _ name search
  · have search := strstr_pieces guid name plain
      (guidPieces p) (⟨[], p.displayName, ascii ",\n"⟩ :: numberPieces p)
      ⟨ascii "  ", ascii "display_name", ascii ": "⟩ rfl
      (by
        intro piece inside
        rcases List.mem_append.mp (show piece ∈ (guidPieces p).dropLast ++ _ from inside) with
          early | last
        · exact other piece early
        · rw [List.mem_singleton.mp last]
          exact same) rfl
    rw [render_cons] at search
    simp only [List.nil_append, List.cons_append, List.append_assoc] at search
    exact jsonFindString_behind _ name search

theorem noNul_profileSaveJson (guid : PlainName p.playerGuid) (name : PlainName p.displayName) :
    0 ∉ profileSaveJson p := by
  have number (line : ProfileLine) (listed : line.field.key ∈ numberKeys) :
      0 ∉ line.before ∧ 0 ∉ line.field.key ∧ 0 ∉ line.piece.behind := by
    refine ⟨line.noNul.1, (numberKeys_plain _ listed).1.2.2.2, ?_⟩
    rw [ProfileLine.piece, List.mem_append, List.mem_append, not_or, not_or]
    exact ⟨by decide, noNul_decimal _, line.noNul.2⟩
  have comma : 0 ∉ ascii ",\n" := by decide
  rw [profileSaveJson_pieces, List.mem_append, not_or]
  refine ⟨absent_render (by decide) fun piece listed => ?_, by decide⟩
  simp only [List.mem_append] at listed
  rcases listed with listed | listed | listed
  · simp only [guidPieces, List.mem_cons, List.not_mem_nil, or_false] at listed
    rcases listed with rfl | rfl | rfl
    · exact ⟨by decide, by decide, by decide⟩
    · exact ⟨by decide, by decide, by decide⟩
    · exact ⟨List.not_mem_nil, guid.noNul, comma⟩
  · simp only [namePieces, List.mem_cons, List.not_mem_nil, or_false] at listed
    rcases listed with rfl | rfl
    · exact ⟨by decide, by decide, by decide⟩
    · exact ⟨List.not_mem_nil, name.noNul, comma⟩
  · have known := numberPieces_sublist.subset (List.mem_map_of_mem (f := Piece.word) listed)
    simp only [numberPieces, List.mem_append, List.mem_cons, List.mem_map] at listed
    rcases listed with ⟨line, _, rfl⟩ | rfl | ⟨line, _, rfl⟩
    · exact number line known
    · exact ⟨by decide, by decide, by decide⟩
    · exact number line known

end Find

/-! ## The round trip -/

/-- Two profiles with the same fields, and the same items and perks up to their counts. -/
structure SameProfile (p q : PlayerProfileData) : Prop where
  playerGuid : q.playerGuid = p.playerGuid
  displayName : q.displayName = p.displayName
  level : q.level = p.level
  xp : q.xp = p.xp
  equippedFormId : q.equippedFormId = p.equippedFormId
  caps : q.caps = p.caps
  strStat : q.strStat = p.strStat
  perStat : q.perStat = p.perStat
  endStat : q.endStat = p.endStat
  chaStat : q.chaStat = p.chaStat
  intStat : q.intStat = p.intStat
  agiStat : q.agiStat = p.agiStat
  lukStat : q.lukStat = p.lukStat
  sex : q.sex = p.sex
  bodyPreset : q.bodyPreset = p.bodyPreset
  itemCount : q.itemCount = p.itemCount
  items : ∀ i : Fin maxProfileRecords, i.val < p.itemCount.toNat → q.items i = p.items i
  perkCount : q.perkCount = p.perkCount
  perks : ∀ i : Fin maxProfileRecords, i.val < p.perkCount.toNat → q.perks i = p.perks i

section RoundTrip
variable {p : PlayerProfileData}

theorem keptByte_eq_iff {n : UInt32} {value : UInt8} :
    keptByte n = value.toUInt32 ↔ n.toUInt8 = value := UInt8.toUInt32_inj

theorem keptCount_eq_iff {n : UInt32} {value : UInt16} :
    keptCount n = value.toUInt32 ↔ clampCount n = value := UInt16.toUInt32_inj

theorem keptFlag_eq_iff {n : UInt32} {value : UInt8} (flag : value = 0 ∨ value = 1) :
    keptFlag n = keptFlag value.toUInt32 ↔ (if n ≠ 0 then 1 else 0) = value := by
  unfold keptFlag
  rcases flag with rfl | rfl <;> split <;> decide

theorem mem_records {count : UInt16} {i : Fin maxProfileRecords} :
    i ∈ records count ↔ i.val < count.toNat := by
  simp [records]

attribute [ext] ProfileItem ProfilePerk

/-- The text holds a field as the loader keeps it. -/
def Reads (text : Text) (field : ProfileField) : Prop :=
  field.kept ((jsonFindU32 text field.key).getD 0) = field.value

theorem reads_head {text : Text} : (∀ line ∈ headLines p, Reads text line.field) ↔
    (readProfile text).level = p.level ∧ (readProfile text).xp = p.xp ∧
      (readProfile text).equippedFormId = p.equippedFormId ∧ (readProfile text).caps = p.caps := by
  simp only [headLines, List.forall_mem_cons, List.not_mem_nil, false_implies, implies_true, and_true]
  exact Iff.rfl

theorem reads_special {text : Text} : (∀ line ∈ specialLines p, Reads text line.field) ↔
    (readProfile text).strStat = p.strStat ∧ (readProfile text).perStat = p.perStat ∧
      (readProfile text).endStat = p.endStat ∧ (readProfile text).chaStat = p.chaStat ∧
      (readProfile text).intStat = p.intStat ∧ (readProfile text).agiStat = p.agiStat ∧
      (readProfile text).lukStat = p.lukStat := by
  simp only [specialLines, List.map_cons, List.map_nil, List.cons_append, List.nil_append,
    List.forall_mem_cons, List.not_mem_nil, false_implies, implies_true, and_true, Reads,
    specialLine, byteField, keptByte_eq_iff]
  exact Iff.rfl

theorem reads_count {text : Text} : (∀ line ∈ countLines p, Reads text line.field) ↔
    (readProfile text).sex = p.sex ∧ (readProfile text).bodyPreset = p.bodyPreset ∧
      (readProfile text).itemCount = p.itemCount ∧ (readProfile text).perkCount = p.perkCount := by
  simp only [countLines, List.forall_mem_cons, List.not_mem_nil, false_implies, implies_true,
    and_true, Reads, plainLine, byteField, numberField, countField, keptByte_eq_iff,
    keptCount_eq_iff]
  exact Iff.rfl

theorem reads_items {text : Text} (counted : (readProfile text).itemCount = p.itemCount)
    (flags : ∀ i : Fin maxProfileRecords, i.val < p.itemCount.toNat →
      (p.items i).equipped = 0 ∨ (p.items i).equipped = 1) :
    (∀ line ∈ (records p.itemCount).flatMap (itemLines p), Reads text line.field) ↔
      ∀ i : Fin maxProfileRecords, i.val < p.itemCount.toNat →
        (readProfile text).items i = p.items i := by
  rw [List.forall_mem_flatMap]
  refine forall_congr' fun i => ?_
  rw [mem_records]
  refine forall_congr' fun inside => ?_
  have loaded : (readProfile text).items i =
      { formId := (jsonFindU32 text (itemKey i "_form_id")).getD 0
        count := (jsonFindU32 text (itemKey i "_count")).getD 0
        equipped := if (jsonFindU32 text (itemKey i "_equipped")).getD 0 ≠ 0 then 1 else 0 } :=
    if_pos (counted.symm ▸ inside : i.val < (readProfile text).itemCount.toNat)
  rw [loaded, ProfileItem.ext_iff]
  simp only [itemLines, List.forall_mem_cons, List.not_mem_nil, false_implies, implies_true,
    and_true, Reads, plainLine, numberField, flagField, keptFlag_eq_iff (flags i inside)]
  exact Iff.rfl

theorem reads_perks {text : Text} (counted : (readProfile text).perkCount = p.perkCount) :
    (∀ line ∈ (records p.perkCount).flatMap (perkLines p), Reads text line.field) ↔
      ∀ i : Fin maxProfileRecords, i.val < p.perkCount.toNat →
        (readProfile text).perks i = p.perks i := by
  rw [List.forall_mem_flatMap]
  refine forall_congr' fun i => ?_
  rw [mem_records]
  refine forall_congr' fun inside => ?_
  have loaded : (readProfile text).perks i =
      { perkFormId := (jsonFindU32 text (perkKey i "_form_id")).getD 0
        rank := ((jsonFindU32 text (perkKey i "_rank")).getD 0).toUInt8 } :=
    if_pos (counted.symm ▸ inside : i.val < (readProfile text).perkCount.toNat)
  have rank : (rankLine p i).field = byteField (perkKey i "_rank") (p.perks i).rank := by
    unfold rankLine
    split <;> rfl
  rw [loaded, ProfilePerk.ext_iff]
  simp only [perkLines, List.forall_mem_cons, List.not_mem_nil, false_implies, implies_true,
    and_true, Reads, rank, plainLine, numberField, byteField, keptByte_eq_iff]
  exact Iff.rfl

/-- What the loader keeps under every key is what was written there. -/
theorem sameProfile_iff (guid : PlainName p.playerGuid) (name : PlainName p.displayName)
    (flags : ∀ i : Fin maxProfileRecords, i.val < p.itemCount.toNat →
      (p.items i).equipped = 0 ∨ (p.items i).equipped = 1) :
    SameProfile p (readProfile (profileSaveJson p)) ↔
      ∀ field ∈ profileFields p, Reads (profileSaveJson p) field := by
  simp only [profileFields, List.forall_mem_map, profileLines, recordLines,
    List.forall_mem_append, reads_head, reads_special, reads_count]
  constructor
  · intro same
    exact ⟨⟨same.level, same.xp, same.equippedFormId, same.caps⟩,
      ⟨same.strStat, same.perStat, same.endStat, same.chaStat, same.intStat, same.agiStat,
        same.lukStat⟩, ⟨same.sex, same.bodyPreset, same.itemCount, same.perkCount⟩,
      (reads_items same.itemCount flags).mpr same.items,
      (reads_perks same.perkCount).mpr same.perks⟩
  · rintro ⟨⟨level, xp, equippedFormId, caps⟩, ⟨str, per, end', cha, int, agi, luk⟩,
      ⟨sex, bodyPreset, itemCount, perkCount⟩, items, perks⟩
    have playerGuid : (readProfile (profileSaveJson p)).playerGuid = p.playerGuid := by
      show (jsonFindString _ _ _).getD [] = _
      rw [playerGuid_found guid name, Option.getD_some]
    have displayName : (readProfile (profileSaveJson p)).displayName = p.displayName := by
      show (jsonFindString _ _ _).getD [] = _
      rw [displayName_found guid name, Option.getD_some]
    exact ⟨playerGuid, displayName, level, xp, equippedFormId, caps, str, per, end', cha, int, agi,
      luk, sex, bodyPreset, itemCount, (reads_items itemCount flags).mp items, perkCount,
      (reads_perks perkCount).mp perks⟩

/-- A saved profile is loaded as it was exactly if its names do not get in the way of a field. -/
theorem profileLoadJson_saved_iff (p : PlayerProfileData) (named : p.playerGuid ≠ [])
    (guid : PlainName p.playerGuid) (name : PlainName p.displayName)
    (flags : ∀ i : Fin maxProfileRecords, i.val < p.itemCount.toNat →
      (p.items i).equipped = 0 ∨ (p.items i).equipped = 1) :
    (∃ q, profileLoadJson (some (profileSaveJson p)) = some q ∧ SameProfile p q) ↔
      ∀ field ∈ profileFields p, field.Kept p := by
  have whole : cString (profileSaveJson p) = profileSaveJson p :=
    cString_whole (noNul_profileSaveJson guid name)
  have found : (readProfile (profileSaveJson p)).playerGuid ≠ [] := by
    show (jsonFindString _ _ _).getD [] ≠ _
    rw [playerGuid_found guid name, Option.getD_some]
    exact named
  have loaded : profileLoadJson (some (profileSaveJson p)) =
      some (readProfile (profileSaveJson p)) := by
    simp only [profileLoadJson, whole]
    exact if_neg found
  have reads : (∃ q, profileLoadJson (some (profileSaveJson p)) = some q ∧ SameProfile p q) ↔
      SameProfile p (readProfile (profileSaveJson p)) := by
    simp only [loaded, Option.some.injEq, exists_eq_left']
  rw [reads, sameProfile_iff guid name flags]
  exact forall₂_congr fun field written => ProfileField.kept_iff guid name written

end RoundTrip

/-! ## The service's profile files -/

/-- A store that reads its profiles from files. -/
def fileStore (files : Text → Option Text) : ProfileStore where
  profileLoadJson path := (profileLoadJson (files path)).map PlayerProfileData.toPlayerProfile

theorem tlLoadProfileIntoPlayer_saved {F : Type} (files : Text → Option Text)
    (slot : PlayerRuntimeState F) (p : PlayerProfileData)
    (saved : files (tlProfilePathForGuid slot.profileRef.playerGuid) = some (profileSaveJson p))
    (named : p.playerGuid ≠ []) (guid : PlainName p.playerGuid) (name : PlainName p.displayName)
    (flags : ∀ i : Fin maxProfileRecords, i.val < p.itemCount.toNat →
      (p.items i).equipped = 0 ∨ (p.items i).equipped = 1)
    (kept : ∀ field ∈ profileFields p, field.Kept p) :
    SameProfile p ⟨(tlLoadProfileIntoPlayer (fileStore files) slot).profileSnapshot.toPlayerProfile,
      p.playerGuid, p.displayName⟩ := by
  obtain ⟨q, loaded, same⟩ := (profileLoadJson_saved_iff p named guid name flags).mpr kept
  have stored : (fileStore files).profileLoadJson
      (tlProfilePathForGuid slot.profileRef.playerGuid) = some q.toPlayerProfile := by
    simp only [fileStore, saved, loaded, Option.map_some]
  have profile : ((fileStore files).profileLoadJson
      (tlProfilePathForGuid slot.profileRef.playerGuid)).getD profileMakeDefault =
        q.toPlayerProfile := by
    rw [stored, Option.getD_some]
  simp only [tlLoadProfileIntoPlayer, profile]
  refine ⟨rfl, rfl, same.level, same.xp, same.equippedFormId, same.caps, same.strStat,
    same.perStat, same.endStat, same.chaStat, same.intStat, same.agiStat, same.lukStat, same.sex,
    same.bodyPreset, same.itemCount, fun i inside => ?_, same.perkCount, fun i inside => ?_⟩
  · rw [← same.items i inside]
    exact if_pos (same.itemCount.symm ▸ inside)
  · rw [← same.perks i inside]
    exact if_pos (same.perkCount.symm ▸ inside)

/-- `profile_make_default` for the GUID `A` and the name `B` -/
theorem profileLoadJson_saved_iff_default :
    let p : PlayerProfileData :=
      { profileMakeDefault with playerGuid := ascii "A", displayName := ascii "B" }
    ∃ q, profileLoadJson (some (profileSaveJson p)) = some q ∧ SameProfile p q := by
  intro p
  have guid : PlainName p.playerGuid := ⟨by decide, by decide, by decide⟩
  have name : PlainName p.displayName := ⟨by decide, by decide, by decide⟩
  have flags : ∀ i : Fin maxProfileRecords, i.val < p.itemCount.toNat →
      (p.items i).equipped = 0 ∨ (p.items i).equipped = 1 := by decide +kernel
  have free : ∀ key ∈ numberKeys, ascii "A" ≠ key ∧ ascii "B" ≠ key := by decide +kernel
  refine (profileLoadJson_saved_iff p (by decide) guid name flags).mpr fun field written => ?_
  obtain ⟨notGuid, notName⟩ := free _ (profileFields_plain written)
  exact ⟨fun same => absurd same notGuid, fun _ same => absurd same notName⟩

/-- The GUID `level` -/
theorem profileLoadJson_saved_iff_level :
    let p : PlayerProfileData :=
      { profileMakeDefault with playerGuid := ascii "level", displayName := ascii "B" }
    ¬ ∃ q, profileLoadJson (some (profileSaveJson p)) = some q ∧ SameProfile p q := by
  intro p
  rintro ⟨q, loaded, same⟩
  have level : (profileLoadJson (some (profileSaveJson p))).map (fun q => q.level) = some 0 := by
    decide +kernel
  rw [loaded, Option.map_some, same.level] at level
  cases level

end F4MP.Service
