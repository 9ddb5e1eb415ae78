import F4MP.Service.ProfileJson

/-!
# The workshop whitelist

`workshop_whitelist.c`: the entries loaded from a JSON text. The loader takes a turn at each
`"editor_id"` and searches for every field from there to the end of the text.
-/

namespace F4MP.Service
open Protocol Search

/-! ## The loader -/

structure WorkshopWhitelistEntry where
  formId : UInt32
  editorId : Text
  movable : Bool
  scrappable : Bool
  snapEnabled : Bool
  animated : Bool
  scripted : Bool
  deriving DecidableEq

/-- `F4MP_MAX_WORKSHOP_WHITELIST` -/
def maxWorkshopWhitelist : Nat := 256

/-- `workshop_whitelist_init_default` -/
def workshopWhitelistDefault : List WorkshopWhitelistEntry :=
  [⟨0xAAAAAAAA, ascii "WoodWall01", true, true, true, false, false⟩,
    ⟨0xAAAAAAAB, ascii "WoodWallWindow01", true, true, true, false, false⟩,
    ⟨0xBBBBBBBB, ascii "WoodFloor01", true, true, true, false, false⟩,
    ⟨0xCCCCCCCC, ascii "WoodRoofFlat01", true, true, true, false, false⟩,
    ⟨0xDDDDDDDD, ascii "WoodStairs01", true, true, true, false, false⟩,
    ⟨0xEEEEEEEE, ascii "FenceWire01", true, true, true, false, false⟩,
    ⟨0xFFFFFFFF, ascii "SandbagWall01", true, true, false, false, false⟩]

/-- `find_json_key`, with `needle[96]` -/
def findJsonKey (start key : Text) : Option Text :=
  strstr ((ascii "\"" ++ key ++ ascii "\"").take 95) start

/-- `parse_string_field`: a value that does not fit is cut. -/
def parseStringField (obj key : Text) (outCap : Nat) : Option Text := do
  let p ← findJsonKey obj key
  let p ← strchr 0x3A p
  match p.tail.dropWhile isSpace with
  | [] => none
  | c :: p =>
      if c ≠ 0x22 then none
      else
        let q ← strchr 0x22 p
        let len := p.length - q.length
        some (p.take (if outCap ≤ len then outCap - 1 else len))

def parseHexField (obj key : Text) : Option UInt32 := do
  let buf ← parseStringField obj key 64
  let value ← strtoul buf
  some value.toUInt32

def parseBoolField (obj key : Text) : Option Bool := do
  let p ← findJsonKey obj key
  let p ← strchr 0x3A p
  some ((ascii "true").isPrefixOf (p.tail.dropWhile isSpace))

/-- The entry that the loader reads from where it stands. -/
def parseEntry (p : Text) : Option WorkshopWhitelistEntry := do
  let editorId ← parseStringField p (ascii "editor_id") 64
  let formId ← parseHexField p (ascii "form_id_hex")
  let movable ← parseBoolField p (ascii "movable")
  let scrappable ← parseBoolField p (ascii "scrappable")
  let snapEnabled ← parseBoolField p (ascii "snap_enabled")
  let animated ← parseBoolField p (ascii "animated")
  let scripted ← parseBoolField p (ascii "scripted")
  some ⟨formId, editorId, movable, scrappable, snapEnabled, animated, scripted⟩

/-- What the turns of the loader read. A turn moves on by ten characters, so that a text has fewer
turns than characters. -/
def whitelistTurns : Nat → Text → List (Option WorkshopWhitelistEntry)
  | 0, _ => []
  | turns + 1, p =>
      match strstr (ascii "\"editor_id\"") p with
      | none => []
      | some p => parseEntry p :: whitelistTurns turns (p.drop 10)

/-- `workshop_whitelist_load_json_file`; `none` stands for a file that cannot be read. -/
def workshopWhitelistLoadJsonFile (file : Option Text) (entries : List WorkshopWhitelistEntry) :
    Bool × List WorkshopWhitelistEntry :=
  match file with
  | none => (false, entries)
  | some [] => (false, entries)
  | some bytes =>
      let buf := cString bytes
      let loaded := ((whitelistTurns buf.length buf).filterMap id).take maxWorkshopWhitelist
      if loaded = [] then (false, workshopWhitelistDefault) else (true, loaded)

/-! ## Texts -/

/-- JSON white space. -/
abbrev Blank := { s : Text // ∀ c ∈ s, c = 0x20 ∨ c = 0x09 ∨ c = 0x0A ∨ c = 0x0D }

inductive WhitelistFlag
  | movable | scrappable | snapEnabled | animated | scripted
  deriving DecidableEq

def WhitelistFlag.key : WhitelistFlag → Text
  | .movable => ascii "movable"
  | .scrappable => ascii "scrappable"
  | .snapEnabled => ascii "snap_enabled"
  | .animated => ascii "animated"
  | .scripted => ascii "scripted"

def whitelistKeys : List Text :=
  [ascii "editor_id", ascii "form_id_hex", ascii "movable", ascii "scrappable",
    ascii "snap_enabled", ascii "animated", ascii "scripted"]

/-- A string without escapes that is no key. -/
structure EditorId where
  word : Text
  plain : ∀ c ∈ word, 0x20 ≤ c ∧ c ≠ 0x22 ∧ c ≠ 0x5C
  noKey : word ∉ whitelistKeys

/-- A form id as `0x` and up to eight digits. -/
structure FormIdHex where
  digits : Text
  digits_ne : digits ≠ []
  short : digits.length ≤ 8
  hex : ∀ c ∈ digits, digitValue c < 16

/-- A key with a value of its kind. -/
inductive WhitelistMember
  | editorId (id : EditorId)
  | formIdHex (id : FormIdHex)
  | flag (which : WhitelistFlag) (value : Bool)

namespace WhitelistMember

def key : WhitelistMember → Text
  | editorId _ => ascii "editor_id"
  | formIdHex _ => ascii "form_id_hex"
  | flag which _ => which.key

/-- The value as it is written. -/
def text : WhitelistMember → Text
  | editorId id => quoted 0x22 id.word
  | formIdHex id => quoted 0x22 (0x30 :: 0x78 :: id.digits)
  | flag _ true => ascii "true"
  | flag _ false => ascii "false"

end WhitelistMember

structure WrittenMember where
  before : Blank
  member : WhitelistMember
  beforeColon : Blank
  behindColon : Blank
  after : Blank

def WrittenMember.text (m : WrittenMember) : Text :=
  m.before.val ++ (quoted 0x22 m.member.key ++ (m.beforeColon.val ++
    0x3A :: (m.behindColon.val ++ (m.member.text ++ m.after.val))))

def commaSeparated : List Text → Text
  | [] => []
  | [t] => t
  | t :: ts => t ++ 0x2C :: commaSeparated ts

/-- A flat object, no key of which is given twice. -/
structure WrittenObject where
  before : Blank
  members : List WrittenMember
  inside : Blank
  after : Blank
  distinct : (members.map (·.member.key)).Nodup

def WrittenObject.text (o : WrittenObject) : Text :=
  o.before.val ++ 0x7B :: (commaSeparated (o.members.map (·.text)) ++
    (o.inside.val ++ 0x7D :: o.after.val))

def WrittenObject.fields (o : WrittenObject) : List WhitelistMember := o.members.map (·.member)

/-- An array of flat objects. -/
structure WhitelistJson where
  before : Blank
  objects : List WrittenObject
  inside : Blank
  after : Blank

def WhitelistJson.text (json : WhitelistJson) : Text :=
  json.before.val ++ 0x5B :: (commaSeparated (json.objects.map (·.text)) ++
    (json.inside.val ++ 0x5D :: json.after.val))

/-! ## Values -/

inductive WhitelistValue
  | text (word : Text)
  | formId (id : UInt32)
  | flag (value : Bool)
  deriving DecidableEq

def WhitelistMember.value : WhitelistMember → WhitelistValue
  | editorId id => .text id.word
  | formIdHex id => .formId (UInt32.ofNat (ofDigits 16 id.digits))
  | flag _ value => .flag value

/-- The first member under a key. -/
def firstOf (key : Text) (ms : List WhitelistMember) : Option WhitelistMember :=
  ms.find? fun m => m.key = key

def valueOf (key : Text) (ms : List WhitelistMember) : Option WhitelistValue :=
  (firstOf key ms).map (·.value)

def textOf (key : Text) (ms : List WhitelistMember) : Option Text :=
  match valueOf key ms with
  | some (.text word) => some word
  | _ => none

def formIdOf (key : Text) (ms : List WhitelistMember) : Option UInt32 :=
  match valueOf key ms with
  | some (.formId id) => some id
  | _ => none

def flagOf (key : Text) (ms : List WhitelistMember) : Option Bool :=
  match valueOf key ms with
  | some (.flag value) => some value
  | _ => none

/-- The entry that the first values under the seven keys make up, if there are all seven. -/
def given (ms : List WhitelistMember) : Option WorkshopWhitelistEntry := do
  let editorId ← textOf (ascii "editor_id") ms
  let formId ← formIdOf (ascii "form_id_hex") ms
  let movable ← flagOf (ascii "movable") ms
  let scrappable ← flagOf (ascii "scrappable") ms
  let snapEnabled ← flagOf (ascii "snap_enabled") ms
  let animated ← flagOf (ascii "animated") ms
  let scripted ← flagOf (ascii "scripted") ms
  some ⟨formId, editorId, movable, scrappable, snapEnabled, animated, scripted⟩

/-- `editor_id[64]` -/
def WorkshopWhitelistEntry.cut (entry : WorkshopWhitelistEntry) : WorkshopWhitelistEntry :=
  { entry with editorId := entry.editorId.take 63 }

/-! ## Keys in a text -/

theorem key_mem (m : WhitelistMember) : m.key ∈ whitelistKeys := by
  have flags : ∀ which : WhitelistFlag, which.key ∈ whitelistKeys := by
    intro which
    cases which <;> decide
  cases m with
  | editorId id => exact List.mem_cons_self
  | formIdHex id => exact List.mem_cons_of_mem _ List.mem_cons_self
  | flag which value => exact flags which

theorem key_plain : ∀ key ∈ whitelistKeys, 0x22 ∉ key ∧ 0x3A ∉ key ∧ key.length ≤ 93 := by decide

theorem blank_plain (s : Blank) : 0x22 ∉ s.val ∧ 0x3A ∉ s.val ∧ 0 ∉ s.val := by
  refine ⟨fun inside => ?_, fun inside => ?_, fun inside => ?_⟩
  all_goals
    have := s.property _ inside
    revert this
    decide

theorem findJsonKey_eq {key : Text} (known : key ∈ whitelistKeys) (start : Text) :
    findJsonKey start key = strstr (quoted 0x22 key) start := by
  have short := (key_plain key known).2.2
  rw [findJsonKey, List.take_of_length_le]
  · rfl
  · simp only [List.length_append, show (ascii "\"").length = 1 from rfl]
    omega

/-- What stands between two words: no quotes, and something that is in no key. -/
structure Gap (s : Text) : Prop where
  quoteless : 0x22 ∉ s
  foreign : ∃ c ∈ s, ∀ key ∈ whitelistKeys, c ∉ key

theorem Gap.apart {s key : Text} (gap : Gap s) (known : key ∈ whitelistKeys) : key ≠ s := by
  rintro rfl
  obtain ⟨c, inside, foreign⟩ := gap.foreign
  exact foreign key known inside

theorem Gap.append {s t : Text} (gap : Gap t) (quoteless : 0x22 ∉ s) : Gap (s ++ t) := by
  obtain ⟨c, inside, foreign⟩ := gap.foreign
  refine ⟨?_, c, List.mem_append_right s inside, foreign⟩
  rw [List.mem_append, not_or]
  exact ⟨quoteless, gap.quoteless⟩

theorem Gap.cons {c : UInt8} {s : Text} (quoteless : 0x22 ∉ s)
    (structural : c = 0x3A ∨ c = 0x2C ∨ c = 0x7B ∨ c = 0x7D ∨ c = 0x5B ∨ c = 0x5D) :
    Gap (c :: s) := by
  have foreign : c ≠ 0x22 ∧ ∀ key ∈ whitelistKeys, c ∉ key := by
    rcases structural with rfl | rfl | rfl | rfl | rfl | rfl <;> decide
  refine ⟨?_, c, List.mem_cons_self, foreign.2⟩
  rw [List.mem_cons, not_or]
  exact ⟨Ne.symm foreign.1, quoteless⟩

/-- A text that starts at a key or is at its end, and the members that stand in it. -/
inductive Spells : List WhitelistMember → Text → Prop
  | nil : Spells [] []
  | cons (m : WhitelistMember) (l r : Blank) {gap t : Text} {ms : List WhitelistMember} :
      Gap gap → Spells ms t → Spells (m :: ms)
        (quoted 0x22 m.key ++ (l.val ++ 0x3A :: (r.val ++ (m.text ++ (gap ++ t)))))

theorem Spells.starts {ms : List WhitelistMember} {t : Text} (spells : Spells ms t) :
    t = [] ∨ ∃ rest, t = 0x22 :: rest := by
  cases spells with
  | nil => exact .inl rfl
  | cons m l r gap rest => exact .inr ⟨_, rfl⟩

section Find
variable {key t gap word : Text} {ms : List WhitelistMember}

theorem strstr_word (known : key ∈ whitelistKeys) (plain : 0x22 ∉ word) (apart : key ≠ word)
    (between : Gap gap) (next : t = [] ∨ ∃ rest, t = 0x22 :: rest) :
    strstr (quoted 0x22 key) (quoted 0x22 word ++ (gap ++ t)) = strstr (quoted 0x22 key) t := by
  have quoteless := (key_plain key known).1
  have text : quoted 0x22 word ++ (gap ++ t) = 0x22 :: (word ++ 0x22 :: (gap ++ t)) := by
    simp [quoted]
  rw [text, strstr_other quoteless plain apart]
  exact strstr_between quoteless between.quoteless (between.apart known) next

theorem editorId_plain (id : EditorId) : 0x22 ∉ id.word := fun inside => (id.plain _ inside).2.1 rfl

theorem digit_ne_quote : ∀ c : UInt8, digitValue c < 16 → c ≠ 0x22 ∧ c ≠ 0 := by decide +kernel

theorem formIdHex_plain (id : FormIdHex) : (0x22 : UInt8) ∉ (0x30 :: 0x78 :: id.digits : Text) := by
  intro inside
  rcases List.mem_cons.mp inside with same | inside
  · exact absurd same (by decide)
  · rcases List.mem_cons.mp inside with same | inside
    · exact absurd same (by decide)
    · exact (digit_ne_quote _ (id.hex _ inside)).1 rfl

theorem formIdHex_noKey (digits : Text) :
    (0x30 :: 0x78 :: digits : Text) ∉ whitelistKeys := by
  intro inside
  have first : ∀ key ∈ whitelistKeys, key.head? ≠ some 0x30 := by decide
  exact first _ inside rfl

theorem strstr_value (known : key ∈ whitelistKeys) (m : WhitelistMember) (l r : Blank)
    (between : Gap gap) (next : t = [] ∨ ∃ rest, t = 0x22 :: rest) :
    strstr (quoted 0x22 key) (0x22 :: (l.val ++ 0x3A :: (r.val ++ (m.text ++ (gap ++ t))))) =
      strstr (quoted 0x22 key) t := by
  have quoteless := (key_plain key known).1
  have colon : ∀ behind : Text, 0x22 ∉ behind → Gap (l.val ++ 0x3A :: (r.val ++ behind)) :=
    fun behind plain => .append (.cons (by simp [(blank_plain r).1, plain]) (.inl rfl))
      (blank_plain l).1
  have string : ∀ word : Text, 0x22 ∉ word → word ∉ whitelistKeys →
      strstr (quoted 0x22 key)
          (0x22 :: (l.val ++ 0x3A :: (r.val ++ (quoted 0x22 word ++ (gap ++ t))))) =
        strstr (quoted 0x22 key) t := by
    intro word plain noKey
    have passed := colon [] List.not_mem_nil
    have text : l.val ++ 0x3A :: (r.val ++ (quoted 0x22 word ++ (gap ++ t))) =
        (l.val ++ 0x3A :: (r.val ++ [])) ++ (quoted 0x22 word ++ (gap ++ t)) := by simp
    rw [text]
    refine (strstr_between quoteless passed.quoteless (passed.apart known) (.inr ⟨_, rfl⟩)).trans ?_
    exact strstr_word known plain (fun same => noKey (same ▸ known)) between next
  cases m with
  | editorId id => exact string id.word (editorId_plain id) id.noKey
  | formIdHex id => exact string _ (formIdHex_plain id) (formIdHex_noKey id.digits)
  | flag which value =>
      obtain ⟨word, wordIs, plain⟩ : ∃ word, (WhitelistMember.flag which value).text = word ∧
          0x22 ∉ word := by
        cases value with
        | true => exact ⟨ascii "true", rfl, by decide⟩
        | false => exact ⟨ascii "false", rfl, by decide⟩
      have passed := colon (word ++ gap) (by simp [plain, between.quoteless])
      have text : l.val ++ 0x3A :: (r.val ++ (word ++ (gap ++ t))) =
          (l.val ++ 0x3A :: (r.val ++ (word ++ gap))) ++ t := by simp
      rw [wordIs, text]
      exact strstr_between quoteless passed.quoteless (passed.apart known) next

theorem strstr_member (known : key ∈ whitelistKeys) (m : WhitelistMember) (apart : m.key ≠ key)
    (l r : Blank) (between : Gap gap) (next : t = [] ∨ ∃ rest, t = 0x22 :: rest) :
    strstr (quoted 0x22 key)
        (quoted 0x22 m.key ++ (l.val ++ 0x3A :: (r.val ++ (m.text ++ (gap ++ t))))) =
      strstr (quoted 0x22 key) t := by
  have quoteless := (key_plain key known).1
  have plain := (key_plain m.key (key_mem m)).1
  have text : ∀ behind : Text, quoted 0x22 m.key ++ behind = 0x22 :: (m.key ++ 0x22 :: behind) := by
    intro behind
    simp [quoted]
  rw [text, strstr_other quoteless plain (Ne.symm apart)]
  exact strstr_value known m l r between next

/-- The search for a key ends at the first member under it. -/
theorem Spells.find (spells : Spells ms t) (known : key ∈ whitelistKeys) :
    firstOf key ms = none ∧ findJsonKey t key = none ∨
      ∃ m ∈ ms, ∃ (l r : Blank) (gap rest : Text), firstOf key ms = some m ∧ m.key = key ∧
        0x22 ∉ gap ∧ findJsonKey t key =
          some (quoted 0x22 key ++ (l.val ++ 0x3A :: (r.val ++ (m.text ++ (gap ++ rest))))) := by
  rw [findJsonKey_eq known]
  induction spells with
  | nil => exact .inl ⟨rfl, strstr_unquoted List.not_mem_nil⟩
  | cons m l r between spells ih =>
      by_cases here : m.key = key
      · subst here
        refine .inr ⟨m, List.mem_cons_self, l, r, _, _, ?_, rfl, between.quoteless,
          strstr_here (List.prefix_append _ _)⟩
        rw [firstOf, List.find?_cons_of_pos (by simp)]
      · rw [strstr_member known m here l r between spells.starts, firstOf,
          List.find?_cons_of_neg (by simpa using here)]
        rcases ih with missing | ⟨found, listed, rest⟩
        · exact .inl missing
        · exact .inr ⟨found, List.mem_cons_of_mem m listed, rest⟩

end Find

/-! ## Fields -/

section Fields
variable {key obj t : Text} {ms : List WhitelistMember}

theorem skip_blank (r : Blank) {c : UInt8} (solid : isSpace c = false) (s : Text) :
    (r.val ++ c :: s).dropWhile isSpace = c :: s := by
  have blank : ∀ d ∈ r.val, isSpace d = true := by
    intro d inside
    rcases r.property d inside with rfl | rfl | rfl | rfl <;> rfl
  rw [List.dropWhile_append_of_pos blank, List.dropWhile_cons_of_neg (by simp [solid])]

theorem strchr_colon (known : key ∈ whitelistKeys) (l : Blank) (s : Text) :
    strchr 0x3A (quoted 0x22 key ++ (l.val ++ 0x3A :: s)) = some (0x3A :: s) := by
  have absent : 0x3A ∉ quoted 0x22 key ++ l.val := by
    have plain := (key_plain key known).2.1
    simp [quoted, plain, (blank_plain l).2.1]
  rw [← List.append_assoc]
  exact strchr_first absent

theorem parseStringField_found (known : key ∈ whitelistKeys) {word gap rest : Text}
    (plain : 0x22 ∉ word) (l r : Blank) (found : findJsonKey obj key =
      some (quoted 0x22 key ++ (l.val ++ 0x3A :: (r.val ++ (quoted 0x22 word ++ (gap ++ rest)))))) :
    parseStringField obj key 64 = some (word.take 63) := by
  have text : quoted 0x22 word ++ (gap ++ rest) = 0x22 :: (word ++ 0x22 :: (gap ++ rest)) := by
    simp [quoted]
  have stop : strchr 0x22 (word ++ 0x22 :: (gap ++ rest)) = some (0x22 :: (gap ++ rest)) :=
    strchr_first plain
  have length : (word ++ 0x22 :: (gap ++ rest)).length - (0x22 :: (gap ++ rest)).length =
      word.length := by
    rw [List.length_append]
    omega
  have solid : isSpace 0x22 = false := rfl
  rw [text] at found
  simp only [parseStringField, found, Option.bind_eq_bind, Option.bind_some, strchr_colon known,
    List.tail_cons, skip_blank r solid, ne_eq, not_true_eq_false, if_false, stop, length]
  split
  · rename_i long
    rw [List.take_append_of_le_length (by omega)]
  · rename_i short
    rw [List.take_append_of_le_length le_rfl, List.take_length, List.take_of_length_le (by omega)]

theorem parseStringField_missing (missing : findJsonKey obj key = none) (outCap : Nat) :
    parseStringField obj key outCap = none := by
  simp only [parseStringField, missing, Option.bind_eq_bind, Option.bind_none]

theorem parseBoolField_found (known : key ∈ whitelistKeys) {which : WhitelistFlag} {value : Bool}
    {gap rest : Text} (l r : Blank) (found : findJsonKey obj key = some (quoted 0x22 key ++
      (l.val ++ 0x3A :: (r.val ++ ((WhitelistMember.flag which value).text ++ (gap ++ rest)))))) :
    parseBoolField obj key = some value := by
  simp only [parseBoolField, found, Option.bind_eq_bind, Option.bind_some, strchr_colon known,
    List.tail_cons]
  cases value with
  | true =>
      have skipped := skip_blank r (show isSpace 0x74 = false from rfl)
        (ascii "rue" ++ (gap ++ rest))
      exact congrArg (fun s => some ((ascii "true").isPrefixOf s)) skipped
  | false =>
      have skipped := skip_blank r (show isSpace 0x66 = false from rfl)
        (ascii "alse" ++ (gap ++ rest))
      exact congrArg (fun s => some ((ascii "true").isPrefixOf s)) skipped

theorem flag_key (which : WhitelistFlag) : which.key ≠ ascii "editor_id" ∧
    which.key ≠ ascii "form_id_hex" ∧ ∀ other, which.key = WhitelistFlag.key other → which = other := by
  refine ⟨?_, ?_, fun other => ?_⟩
  · cases which <;> decide
  · cases which <;> decide
  · cases which <;> cases other <;> decide

theorem editorId_of_key {m : WhitelistMember} (same : m.key = ascii "editor_id") :
    ∃ id, m = .editorId id := by
  cases m with
  | editorId id => exact ⟨id, rfl⟩
  | formIdHex id => exact absurd same (by decide : ascii "form_id_hex" ≠ ascii "editor_id")
  | flag which value => exact absurd same (flag_key which).1

theorem formIdHex_of_key {m : WhitelistMember} (same : m.key = ascii "form_id_hex") :
    ∃ id, m = .formIdHex id := by
  cases m with
  | editorId id => exact absurd same (by decide : ascii "editor_id" ≠ ascii "form_id_hex")
  | formIdHex id => exact ⟨id, rfl⟩
  | flag which value => exact absurd same (flag_key which).2.1

theorem flag_of_key {m : WhitelistMember} {which : WhitelistFlag} (same : m.key = which.key) :
    ∃ value, m = .flag which value := by
  cases m with
  | editorId id => exact absurd same.symm (flag_key which).1
  | formIdHex id => exact absurd same.symm (flag_key which).2.1
  | flag other value =>
      obtain rfl := (flag_key other).2.2 which same
      exact ⟨value, rfl⟩

theorem parse_editorId (spells : Spells ms t) : parseStringField t (ascii "editor_id") 64 =
    (textOf (ascii "editor_id") ms).map (·.take 63) := by
  have known : ascii "editor_id" ∈ whitelistKeys := List.mem_cons_self
  rcases spells.find known with ⟨absent, missing⟩ | ⟨m, _, l, r, gap, rest, first, same, _, found⟩
  · rw [parseStringField_missing missing, textOf, valueOf, absent]
    rfl
  · obtain ⟨id, rfl⟩ := editorId_of_key same
    rw [parseStringField_found known (editorId_plain id) l r found, textOf, valueOf, first]
    rfl

theorem parse_formIdHex (spells : Spells ms t) :
    parseHexField t (ascii "form_id_hex") = formIdOf (ascii "form_id_hex") ms := by
  have known : ascii "form_id_hex" ∈ whitelistKeys := List.mem_cons_of_mem _ List.mem_cons_self
  rcases spells.find known with ⟨absent, missing⟩ | ⟨m, _, l, r, gap, rest, first, same, _, found⟩
  · rw [parseHexField, parseStringField_missing missing, formIdOf, valueOf, absent]
    rfl
  · obtain ⟨id, rfl⟩ := formIdHex_of_key same
    have short := id.short
    have read := parseStringField_found known (formIdHex_plain id) l r found
    rw [List.take_of_length_le (by simp; omega)] at read
    have number := strtoul_hex id.digits_ne (by omega) id.hex
    simp only [parseHexField, read, Option.bind_eq_bind, Option.bind_some, number, formIdOf, valueOf,
      first, Option.map_some, WhitelistMember.value]
    rw [UInt64.toUInt32_ofNat']

theorem parse_flag (spells : Spells ms t) (which : WhitelistFlag) :
    parseBoolField t which.key = flagOf which.key ms := by
  have known : which.key ∈ whitelistKeys := key_mem (.flag which true)
  rcases spells.find known with ⟨absent, missing⟩ | ⟨m, _, l, r, gap, rest, first, same, _, found⟩
  · rw [flagOf, valueOf, absent, parseBoolField, missing]
    rfl
  · obtain ⟨value, rfl⟩ := flag_of_key same
    rw [parseBoolField_found known l r found, flagOf, valueOf, first]
    rfl

theorem parseEntry_spells (spells : Spells ms t) : parseEntry t = (given ms).map (·.cut) := by
  have movable := parse_flag spells .movable
  have scrappable := parse_flag spells .scrappable
  have snapEnabled := parse_flag spells .snapEnabled
  have animated := parse_flag spells .animated
  have scripted := parse_flag spells .scripted
  simp only [WhitelistFlag.key] at movable scrappable snapEnabled animated scripted
  simp only [parseEntry, given, parse_editorId spells, parse_formIdHex spells, movable, scrappable,
    snapEnabled, animated, scripted, Option.bind_eq_bind, Option.bind_map, Option.map_bind,
    Function.comp_def, Option.map_some]
  rfl

end Fields

/-! ## Turns -/

/-- A turn at each editor id, with the first values from there on. -/
def turnsOf : List WhitelistMember → List (Option WorkshopWhitelistEntry)
  | [] => []
  | m :: ms =>
      if m.key = ascii "editor_id" then (given (m :: ms)).map (·.cut) :: turnsOf ms else turnsOf ms

theorem whitelistTurns_congr {p p' : Text} (turns : Nat)
    (same : strstr (ascii "\"editor_id\"") p = strstr (ascii "\"editor_id\"") p') :
    whitelistTurns turns p = whitelistTurns turns p' := by
  cases turns with
  | zero => rfl
  | succ turns => rw [whitelistTurns, whitelistTurns, same]

theorem whitelistTurns_spells {ms : List WhitelistMember} {t : Text} (spells : Spells ms t)
    {turns : Nat} (enough : t.length ≤ turns) : whitelistTurns turns t = turnsOf ms := by
  have known : ascii "editor_id" ∈ whitelistKeys := List.mem_cons_self
  have needle : ascii "\"editor_id\"" = quoted 0x22 (ascii "editor_id") := rfl
  induction spells generalizing turns with
  | nil =>
      cases turns with
      | zero => rfl
      | succ turns =>
          rw [whitelistTurns, needle, strstr_unquoted List.not_mem_nil]
          rfl
  | @cons m l r gap t ms between spells ih =>
      rw [turnsOf]
      split
      · rename_i editor
        cases turns with
        | zero => simp [quoted] at enough
        | succ turns =>
            have turn := parseEntry_spells (.cons m l r between spells)
            rw [editor] at turn enough ⊢
            rw [whitelistTurns, needle, strstr_here (List.prefix_append _ _)]
            dsimp only
            rw [turn]
            refine congrArg _ ?_
            have past := strstr_value known m l r between spells.starts
            refine (whitelistTurns_congr turns past).trans (ih ?_)
            simp only [quoted, List.length_append, List.length_cons] at enough
            omega
      · rename_i other
        have past := strstr_member known m other l r between spells.starts
        refine (whitelistTurns_congr turns past).trans (ih ?_)
        simp only [List.length_append, List.length_cons] at enough
        omega

/-! ## Arrays of objects -/

/-- A text that comes to the members behind something that is no word. -/
def Leads (ms : List WhitelistMember) (s : Text) : Prop :=
  ∃ start t, s = start ++ t ∧ Gap start ∧ Spells ms t

section Arrays
variable {ms : List WhitelistMember} {s : Text}

theorem Leads.append (leads : Leads ms s) {x : Text} (quoteless : 0x22 ∉ x) : Leads ms (x ++ s) := by
  obtain ⟨start, t, rfl, gap, spells⟩ := leads
  exact ⟨x ++ start, t, by simp, gap.append quoteless, spells⟩

theorem Leads.member (leads : Leads ms s) (m : WrittenMember) {c : UInt8}
    (structural : c = 0x3A ∨ c = 0x2C ∨ c = 0x7B ∨ c = 0x7D ∨ c = 0x5B ∨ c = 0x5D) :
    Leads (m.member :: ms) (c :: (m.text ++ s)) := by
  obtain ⟨start, t, rfl, gap, spells⟩ := leads
  have between := gap.append (blank_plain m.after).1
  refine ⟨c :: m.before.val, _, ?_, .cons (blank_plain m.before).1 structural,
    .cons m.member m.beforeColon m.behindColon between spells⟩
  simp [WrittenMember.text]

theorem Leads.members (leads : Leads ms s) (members : List WrittenMember) {c : UInt8}
    (structural : c = 0x3A ∨ c = 0x2C ∨ c = 0x7B ∨ c = 0x7D ∨ c = 0x5B ∨ c = 0x5D) :
    Leads (members.map (·.member) ++ ms) (c :: (commaSeparated (members.map (·.text)) ++ s)) := by
  induction members generalizing c with
  | nil =>
      obtain ⟨start, t, rfl, gap, spells⟩ := leads
      exact ⟨c :: start, t, rfl, .cons gap.quoteless structural, spells⟩
  | cons m members ih =>
      cases members with
      | nil => exact leads.member m structural
      | cons next members =>
          have later := (ih (.inr (.inl rfl))).member m structural
          simpa [commaSeparated] using later

theorem Leads.object (leads : Leads ms s) (o : WrittenObject) :
    Leads (o.fields ++ ms) (o.text ++ s) := by
  obtain ⟨start, t, rfl, gap, spells⟩ := leads
  have closed : Leads ms (o.inside.val ++ 0x7D :: (o.after.val ++ (start ++ t))) := by
    refine Leads.append ⟨0x7D :: (o.after.val ++ start), t, by simp, ?_, spells⟩ (blank_plain o.inside).1
    exact .cons (gap.append (blank_plain o.after).1).quoteless (.inr (.inr (.inr (.inl rfl))))
  have opened := (closed.members o.members (.inr (.inr (.inl rfl)))).append (blank_plain o.before).1
  simpa [WrittenObject.text, WrittenObject.fields] using opened

theorem Leads.objects (leads : Leads ms s) (objects : List WrittenObject) :
    Leads (objects.flatMap (·.fields) ++ ms) (commaSeparated (objects.map (·.text)) ++ s) := by
  induction objects with
  | nil => exact leads
  | cons o objects ih =>
      cases objects with
      | nil => simpa [commaSeparated] using leads.object o
      | cons next objects =>
          have comma : Leads _ ([0x2C] ++ _) := ih.append (x := [0x2C]) (by decide)
          simpa [commaSeparated] using comma.object o

def WhitelistJson.fields (json : WhitelistJson) : List WhitelistMember :=
  json.objects.flatMap (·.fields)

/-- The text of an array is its members, behind something that is no word. -/
theorem WhitelistJson.leads (json : WhitelistJson) : Leads json.fields json.text := by
  have ends : Leads [] (json.inside.val ++ 0x5D :: json.after.val) :=
    Leads.append ⟨0x5D :: json.after.val, [], by simp,
      .cons (blank_plain json.after).1 (.inr (.inr (.inr (.inr (.inr rfl))))), .nil⟩
      (blank_plain json.inside).1
  have opened := (ends.objects json.objects).append (x := json.before.val ++ [0x5B])
    (by simp [(blank_plain json.before).1])
  simpa [WhitelistJson.text, WhitelistJson.fields] using opened

end Arrays

/-! ### The text as a C string -/

theorem key_noNul : ∀ key ∈ whitelistKeys, 0 ∉ key := by decide

theorem WhitelistMember.text_noNul (m : WhitelistMember) : 0 ∉ m.text := by
  cases m with
  | editorId id =>
      have plain : 0 ∉ id.word := fun inside => absurd (id.plain 0 inside).1 (by decide)
      simp [text, quoted, plain]
  | formIdHex id =>
      have plain : 0 ∉ id.digits := fun inside => (digit_ne_quote 0 (id.hex 0 inside)).2 rfl
      simp [text, quoted, plain]
  | flag which value =>
      cases value with
      | true => exact (by decide : 0 ∉ ascii "true")
      | false => exact (by decide : 0 ∉ ascii "false")

theorem commaSeparated_noNul {ts : List Text} (all : ∀ t ∈ ts, 0 ∉ t) : 0 ∉ commaSeparated ts := by
  induction ts with
  | nil => exact List.not_mem_nil
  | cons t ts ih =>
      obtain ⟨first, rest⟩ := List.forall_mem_cons.mp all
      cases ts with
      | nil => exact first
      | cons next ts => simp [commaSeparated, first, ih rest]

theorem WrittenMember.text_noNul (m : WrittenMember) : 0 ∉ m.text := by
  simp [text, quoted, key_noNul _ (key_mem m.member), m.member.text_noNul, (blank_plain m.before).2.2,
    (blank_plain m.beforeColon).2.2, (blank_plain m.behindColon).2.2, (blank_plain m.after).2.2]

theorem WrittenObject.text_noNul (o : WrittenObject) : 0 ∉ o.text := by
  have members : 0 ∉ commaSeparated (o.members.map (·.text)) := by
    apply commaSeparated_noNul
    rintro t listed
    obtain ⟨m, _, rfl⟩ := List.mem_map.mp listed
    exact m.text_noNul
  simp [text, members, (blank_plain o.before).2.2, (blank_plain o.inside).2.2,
    (blank_plain o.after).2.2]

theorem WhitelistJson.text_noNul (json : WhitelistJson) : 0 ∉ json.text := by
  have objects : 0 ∉ commaSeparated (json.objects.map (·.text)) := by
    apply commaSeparated_noNul
    rintro t listed
    obtain ⟨o, _, rfl⟩ := List.mem_map.mp listed
    exact o.text_noNul
  simp [text, objects, (blank_plain json.before).2.2, (blank_plain json.inside).2.2,
    (blank_plain json.after).2.2]

theorem WhitelistJson.turns (json : WhitelistJson) :
    whitelistTurns json.text.length json.text = turnsOf json.fields := by
  obtain ⟨start, t, text, gap, spells⟩ := json.leads
  have needle : ascii "\"editor_id\"" = quoted 0x22 (ascii "editor_id") := rfl
  have past : strstr (ascii "\"editor_id\"") (start ++ t) = strstr (ascii "\"editor_id\"") t := by
    rw [needle]
    exact strstr_skip gap.quoteless
  rw [text]
  refine (whitelistTurns_congr _ past).trans (whitelistTurns_spells spells ?_)
  rw [List.length_append]
  omega

/-! ## Objects -/

/-- The members of an object from its editor id on. -/
def fromEditorId (o : List WhitelistMember) : List WhitelistMember :=
  o.dropWhile fun m => m.key ≠ ascii "editor_id"

def hasEditorId (o : List WhitelistMember) : Bool := o.any fun m => m.key = ascii "editor_id"

section Editor
variable {m : WhitelistMember} {o : List WhitelistMember} {key : Text}

theorem firstOf_here (here : m.key = key) : firstOf key (m :: o) = some m :=
  List.find?_cons_of_pos (by simpa using here)

theorem firstOf_later (other : m.key ≠ key) : firstOf key (m :: o) = firstOf key o :=
  List.find?_cons_of_neg (by simpa using other)

theorem hasEditorId_here (editor : m.key = ascii "editor_id") : hasEditorId (m :: o) = true := by
  rw [hasEditorId, List.any_cons, decide_eq_true editor, Bool.true_or]

theorem hasEditorId_later (other : m.key ≠ ascii "editor_id") :
    hasEditorId (m :: o) = hasEditorId o := by
  rw [hasEditorId, List.any_cons, decide_eq_false other, Bool.false_or, hasEditorId]

theorem fromEditorId_here (editor : m.key = ascii "editor_id") : fromEditorId (m :: o) = m :: o :=
  List.dropWhile_cons_of_neg (by simpa using editor)

theorem fromEditorId_later (other : m.key ≠ ascii "editor_id") :
    fromEditorId (m :: o) = fromEditorId o :=
  List.dropWhile_cons_of_pos (by simpa using other)

theorem turnsOf_skip (none : hasEditorId o = false) (rest : List WhitelistMember) :
    turnsOf (o ++ rest) = turnsOf rest := by
  induction o with
  | nil => rfl
  | cons m o ih =>
      by_cases editor : m.key = ascii "editor_id"
      · rw [hasEditorId_here editor] at none
        cases none
      · rw [hasEditorId_later editor] at none
        rw [List.cons_append, turnsOf, if_neg editor]
        exact ih none

theorem turnsOf_object (distinct : (o.map (·.key)).Nodup) (rest : List WhitelistMember) :
    turnsOf (o ++ rest) =
      if hasEditorId o then (given (fromEditorId o ++ rest)).map (·.cut) :: turnsOf rest
      else turnsOf rest := by
  induction o with
  | nil => rfl
  | cons m o ih =>
      rw [List.map_cons, List.nodup_cons] at distinct
      by_cases editor : m.key = ascii "editor_id"
      · have other : hasEditorId o = false := by
          rw [hasEditorId, List.any_eq_false]
          intro n listed same
          refine distinct.1 (List.mem_map.mpr ⟨n, listed, ?_⟩)
          rw [editor]
          simpa using same
        rw [List.cons_append, turnsOf, if_pos editor, turnsOf_skip other,
          if_pos (hasEditorId_here editor), fromEditorId_here editor, List.cons_append]
      · rw [List.cons_append, turnsOf, if_neg editor, ih distinct.2, hasEditorId_later editor,
          fromEditorId_later editor]

theorem firstOf_fromEditorId (has : hasEditorId o = true) (rest : List WhitelistMember) :
    firstOf (ascii "editor_id") (fromEditorId o ++ rest) = firstOf (ascii "editor_id") o := by
  induction o with
  | nil => cases has
  | cons m o ih =>
      by_cases editor : m.key = ascii "editor_id"
      · rw [fromEditorId_here editor, List.cons_append, firstOf_here editor, firstOf_here editor]
      · rw [hasEditorId_later editor] at has
        rw [fromEditorId_later editor, firstOf_later editor]
        exact ih has

end Editor

/-! ## Values of an entry -/

def WorkshopWhitelistEntry.values (entry : WorkshopWhitelistEntry) : List WhitelistValue :=
  [.text entry.editorId, .formId entry.formId, .flag entry.movable, .flag entry.scrappable,
    .flag entry.snapEnabled, .flag entry.animated, .flag entry.scripted]

section Given
variable {ms : List WhitelistMember} {key : Text}

theorem textOf_eq_some {word : Text} : textOf key ms = some word ↔ valueOf key ms = some (.text word) := by
  rw [textOf]
  split <;> simp_all

theorem formIdOf_eq_some {id : UInt32} :
    formIdOf key ms = some id ↔ valueOf key ms = some (.formId id) := by
  rw [formIdOf]
  split <;> simp_all

theorem flagOf_eq_some {value : Bool} :
    flagOf key ms = some value ↔ valueOf key ms = some (.flag value) := by
  rw [flagOf]
  cases value <;> split <;> simp_all

theorem given_eq_some {entry : WorkshopWhitelistEntry} :
    given ms = some entry ↔ whitelistKeys.map (valueOf · ms) = entry.values.map some := by
  simp only [given, Option.bind_eq_bind, Option.bind_eq_some_iff, textOf_eq_some, formIdOf_eq_some,
    flagOf_eq_some, Option.some.injEq, whitelistKeys, WorkshopWhitelistEntry.values, List.map_cons,
    List.map_nil, List.cons.injEq, and_true]
  constructor
  · rintro ⟨_, a, _, b, _, c, _, d, _, e, _, f, _, g, rfl⟩
    exact ⟨a, b, c, d, e, f, g⟩
  · rintro ⟨a, b, c, d, e, f, g⟩
    exact ⟨_, a, _, b, _, c, _, d, _, e, _, f, _, g, rfl⟩

theorem firstOf_some {m : WhitelistMember} (found : firstOf key ms = some m) : m.key = key := by
  simpa using List.find?_some found

theorem valueOf_kind {value : WhitelistValue} (found : valueOf key ms = some value) :
    (key = ascii "editor_id" → ∃ word, value = .text word) ∧
      (key = ascii "form_id_hex" → ∃ id, value = .formId id) ∧
      ∀ which : WhitelistFlag, key = which.key → ∃ flag, value = .flag flag := by
  obtain ⟨m, first, rfl⟩ := Option.map_eq_some_iff.mp found
  have under := firstOf_some first
  refine ⟨fun same => ?_, fun same => ?_, fun which same => ?_⟩
  · obtain ⟨id, rfl⟩ := editorId_of_key (under.trans same)
    exact ⟨_, rfl⟩
  · obtain ⟨id, rfl⟩ := formIdHex_of_key (under.trans same)
    exact ⟨_, rfl⟩
  · obtain ⟨flag, rfl⟩ := flag_of_key (under.trans same)
    exact ⟨_, rfl⟩

theorem given_eq_none : given ms = none ↔ ∃ key ∈ whitelistKeys, valueOf key ms = none := by
  constructor
  · intro nothing
    by_contra whole
    have all : ∀ key ∈ whitelistKeys, ∃ value, valueOf key ms = some value := by
      intro key known
      refine Option.ne_none_iff_exists'.mp fun missing => whole ⟨key, known, missing⟩
    have flag (which : WhitelistFlag) : ∃ flag, valueOf which.key ms = some (.flag flag) := by
      obtain ⟨value, found⟩ := all _ (key_mem (.flag which true))
      obtain ⟨flag, rfl⟩ := (valueOf_kind found).2.2 which rfl
      exact ⟨flag, found⟩
    obtain ⟨editor, editorFound⟩ := all (ascii "editor_id") (by decide)
    obtain ⟨word, rfl⟩ := (valueOf_kind editorFound).1 rfl
    obtain ⟨form, formFound⟩ := all (ascii "form_id_hex") (by decide)
    obtain ⟨id, rfl⟩ := (valueOf_kind formFound).2.1 rfl
    obtain ⟨movable, a⟩ := flag .movable
    obtain ⟨scrappable, b⟩ := flag .scrappable
    obtain ⟨snapEnabled, c⟩ := flag .snapEnabled
    obtain ⟨animated, d⟩ := flag .animated
    obtain ⟨scripted, e⟩ := flag .scripted
    simp only [WhitelistFlag.key] at a b c d e
    have entry := @given_eq_some ms ⟨id, word, movable, scrappable, snapEnabled, animated, scripted⟩
    rw [nothing] at entry
    have values := entry.mpr (by simp [whitelistKeys, WorkshopWhitelistEntry.values, *])
    cases values
  · rintro ⟨key, known, missing⟩
    cases entry : given ms with
    | none => rfl
    | some e =>
        have values := given_eq_some.mp entry
        have listed : valueOf key ms ∈ e.values.map some :=
          values ▸ List.mem_map.mpr ⟨key, known, rfl⟩
        rw [missing] at listed
        simp at listed

end Given

/-! ## What is loaded -/

/-- Where the loader stands at the editor id of an object, it finds the values of that object: if the
object is whole, each first value from there on is its own, and its editor id is not cut; if it is not,
one of the seven keys does not come up again. -/
def Stays (o later : List WhitelistMember) : Prop :=
  match given o with
  | some entry => entry.editorId.length ≤ 63 ∧
      ∀ key ∈ whitelistKeys, valueOf key (fromEditorId o ++ later) = valueOf key o
  | none => ∃ key ∈ whitelistKeys, valueOf key (fromEditorId o ++ later) = none

/-- Every object with an editor id keeps its turn within itself. -/
def KeptApart (objects : List WrittenObject) : Prop :=
  ∀ front o later, objects = front ++ o :: later → hasEditorId o.fields = true →
    Stays o.fields (later.flatMap (·.fields))

/-- The entries of the whole objects. -/
def ownEntries (objects : List WrittenObject) : List WorkshopWhitelistEntry :=
  objects.filterMap fun o => given o.fields

/-- The turns as they should be: at each object with an editor id its own entry, if it is whole. -/
def ownTurns (objects : List WrittenObject) : List (Option WorkshopWhitelistEntry) :=
  (objects.filter fun o => hasEditorId o.fields).map fun o => given o.fields

/-- The table takes the entry of every whole object, and no other object contributes one. -/
structure LoadsOwn (json : WhitelistJson) (entries : List WorkshopWhitelistEntry) : Prop where
  table : workshopWhitelistLoadJsonFile (some json.text) entries = (true, ownEntries json.objects)
  turns : whitelistTurns json.text.length json.text = ownTurns json.objects

/-- No two objects have one editor id, as far as it is stored. -/
def DistinctIds (objects : List WrittenObject) : Prop :=
  (objects.filterMap fun o => (textOf (ascii "editor_id") o.fields).map (·.take 63)).Nodup

section Loaded
variable {o later : List WhitelistMember}

theorem given_editorId {ms : List WhitelistMember} {entry : WorkshopWhitelistEntry}
    (made : given ms = some entry) : textOf (ascii "editor_id") ms = some entry.editorId := by
  have values := given_eq_some.mp made
  rw [whitelistKeys, WorkshopWhitelistEntry.values, List.map_cons, List.map_cons] at values
  exact textOf_eq_some.mpr (List.cons.inj values).1

theorem textOf_fromEditorId (has : hasEditorId o = true) (rest : List WhitelistMember) :
    textOf (ascii "editor_id") (fromEditorId o ++ rest) = textOf (ascii "editor_id") o := by
  rw [textOf, textOf, valueOf, valueOf, firstOf_fromEditorId has]

/-- The turn of an object reads what it should exactly if it stays within the object. -/
theorem turn_eq_iff (has : hasEditorId o = true) :
    (given (fromEditorId o ++ later)).map (·.cut) = given o ↔ Stays o later := by
  rw [Stays]
  cases own : given o with
  | none =>
      rw [Option.map_eq_none_iff]
      exact given_eq_none
  | some entry =>
      dsimp only
      rw [Option.map_eq_some_iff]
      constructor
      · rintro ⟨read, made, cut⟩
        have same : read.editorId = entry.editorId := by
          have first := given_editorId made
          rw [textOf_fromEditorId has, given_editorId own] at first
          exact (Option.some.inj first).symm
        have short : entry.editorId.length ≤ 63 := by
          have kept := congrArg (fun e : WorkshopWhitelistEntry => e.editorId.length) cut
          simp only [WorkshopWhitelistEntry.cut, same, List.length_take] at kept
          omega
        have whole : read.cut = read := by
          rw [WorkshopWhitelistEntry.cut, List.take_of_length_le (same ▸ short)]
        obtain rfl : read = entry := whole.symm.trans cut
        refine ⟨short, fun key known => ?_⟩
        exact List.map_inj_left.mp
          ((given_eq_some.mp made).trans (given_eq_some.mp own).symm) key known
      · rintro ⟨short, same⟩
        refine ⟨entry, given_eq_some.mpr ?_, ?_⟩
        · exact (List.map_congr_left same).trans (given_eq_some.mp own)
        · rw [WorkshopWhitelistEntry.cut, List.take_of_length_le short]

theorem keptApart_cons {o : WrittenObject} {later : List WrittenObject} : KeptApart (o :: later) ↔
    (hasEditorId o.fields = true → Stays o.fields (later.flatMap (·.fields))) ∧ KeptApart later := by
  constructor
  · intro kept
    exact ⟨kept [] o later rfl, fun front p rest split => kept (o :: front) p rest (by rw [split]; rfl)⟩
  · rintro ⟨first, rest⟩ front p behind split
    cases front with
    | nil =>
        obtain ⟨rfl, rfl⟩ := List.cons.inj split
        exact first
    | cons q front => exact rest front p behind (List.cons.inj split).2

theorem turnsOf_cons (o : WrittenObject) (later : List WrittenObject) :
    turnsOf ((o :: later).flatMap (·.fields)) = if hasEditorId o.fields then
      (given (fromEditorId o.fields ++ later.flatMap (·.fields))).map (·.cut) ::
        turnsOf (later.flatMap (·.fields)) else turnsOf (later.flatMap (·.fields)) := by
  have distinct : (o.fields.map (·.key)).Nodup := by
    rw [WrittenObject.fields, List.map_map]
    exact o.distinct
  rw [List.flatMap_cons, turnsOf_object distinct]

theorem turnsOf_own_iff (objects : List WrittenObject) :
    turnsOf (objects.flatMap (·.fields)) = ownTurns objects ↔ KeptApart objects := by
  induction objects with
  | nil =>
      refine iff_of_true rfl fun front o later split => ?_
      cases front <;> cases split
  | cons o later ih =>
      rw [turnsOf_cons, keptApart_cons, ← ih, ownTurns]
      cases has : hasEditorId o.fields with
      | true =>
          rw [if_pos rfl, List.filter_cons_of_pos (by simpa using has), List.map_cons,
            List.cons_eq_cons, turn_eq_iff has, ownTurns]
          exact and_congr_left fun _ => ⟨fun stays _ => stays, fun stays => stays rfl⟩
      | false =>
          rw [if_neg Bool.false_ne_true, List.filter_cons_of_neg (by simp [has]), ownTurns]
          simp

theorem given_none {ms : List WhitelistMember} (lacks : hasEditorId ms = false) :
    given ms = none := by
  refine given_eq_none.mpr ⟨ascii "editor_id", by decide, ?_⟩
  rw [valueOf, firstOf, List.find?_eq_none.mpr]
  · rfl
  · exact List.any_eq_false.mp lacks

theorem ownTurns_entries (objects : List WrittenObject) :
    (ownTurns objects).filterMap id = ownEntries objects := by
  induction objects with
  | nil => rfl
  | cons o later ih =>
      rw [ownTurns, ownEntries] at ih ⊢
      cases has : hasEditorId o.fields with
      | true =>
          rw [List.filter_cons_of_pos (by simpa using has), List.map_cons, List.filterMap_cons,
            List.filterMap_cons, ih]
          rfl
      | false =>
          rw [List.filter_cons_of_neg (by simp [has]), List.filterMap_cons, given_none has, ih]

theorem turnsOf_length (objects : List WrittenObject) :
    (turnsOf (objects.flatMap (·.fields))).length ≤ objects.length := by
  induction objects with
  | nil => exact le_rfl
  | cons o later ih =>
      rw [turnsOf_cons, List.length_cons]
      split
      · rw [List.length_cons]
        omega
      · omega

theorem load_table (json : WhitelistJson) (entries : List WorkshopWhitelistEntry)
    (fits : json.objects.length ≤ maxWorkshopWhitelist) :
    workshopWhitelistLoadJsonFile (some json.text) entries =
      if (turnsOf json.fields).filterMap id = [] then (false, workshopWhitelistDefault)
      else (true, (turnsOf json.fields).filterMap id) := by
  have short : ((turnsOf json.fields).filterMap id).length ≤ maxWorkshopWhitelist :=
    (List.length_filterMap_le _ _).trans ((turnsOf_length json.objects).trans fits)
  obtain ⟨c, text, cons⟩ : ∃ c text, json.text = c :: text :=
    List.exists_cons_of_ne_nil (by simp [WhitelistJson.text])
  have turns := json.turns
  rw [cons] at turns
  have whole : cString (c :: text) = c :: text := by
    rw [← cons]
    exact cString_whole json.text_noNul
  simp only [cons, workshopWhitelistLoadJsonFile, whole, turns, List.take_of_length_le short]

/-- The editor id of an object, as it is stored. -/
def storedId (o : List WhitelistMember) : Option Text :=
  (textOf (ascii "editor_id") o).map (·.take 63)

theorem turn_editorId (has : hasEditorId o = true) {read : WorkshopWhitelistEntry}
    (turn : (given (fromEditorId o ++ later)).map (·.cut) = some read) :
    storedId o = some read.editorId := by
  obtain ⟨whole, made, rfl⟩ := Option.map_eq_some_iff.mp turn
  rw [storedId, ← textOf_fromEditorId has later, given_editorId made]
  rfl

theorem mem_turnsOf {objects : List WrittenObject} {read : WorkshopWhitelistEntry}
    (listed : read ∈ (turnsOf (objects.flatMap (·.fields))).filterMap id) :
    ∃ p ∈ objects, storedId p.fields = some read.editorId := by
  induction objects with
  | nil => cases listed
  | cons o later ih =>
      rw [turnsOf_cons] at listed
      cases has : hasEditorId o.fields with
      | true =>
          rw [if_pos has, List.mem_filterMap] at listed
          obtain ⟨turn, member, rfl⟩ := listed
          rcases List.mem_cons.mp member with first | rest
          · exact ⟨o, List.mem_cons_self, turn_editorId has first.symm⟩
          · obtain ⟨p, inside, stored⟩ := ih (List.mem_filterMap.mpr ⟨_, rest, rfl⟩)
            exact ⟨p, List.mem_cons_of_mem o inside, stored⟩
      | false =>
          rw [has, if_neg Bool.false_ne_true] at listed
          obtain ⟨p, inside, stored⟩ := ih listed
          exact ⟨p, List.mem_cons_of_mem o inside, stored⟩

theorem mem_ownEntries {objects : List WrittenObject} {own : WorkshopWhitelistEntry}
    (listed : own ∈ ownEntries objects) :
    ∃ p ∈ objects, storedId p.fields = some (own.editorId.take 63) := by
  obtain ⟨p, inside, made⟩ := List.mem_filterMap.mp listed
  refine ⟨p, inside, ?_⟩
  rw [storedId, given_editorId made, Option.map_some]

/-- Under distinct editor ids the table tells whether the objects are kept apart. -/
theorem keptApart_of_table {objects : List WrittenObject}
    (distinct : (objects.filterMap fun o => storedId o.fields).Nodup)
    (table : (turnsOf (objects.flatMap (·.fields))).filterMap id = ownEntries objects) :
    KeptApart objects := by
  induction objects with
  | nil => exact (turnsOf_own_iff []).mp rfl
  | cons o later ih =>
      rw [turnsOf_cons, ownEntries, List.filterMap_cons] at table
      rw [keptApart_cons]
      have fresh : ∀ id, storedId o.fields = some id → ∀ p ∈ later, storedId p.fields ≠ some id := by
        intro id stored p inside same
        rw [List.filterMap_cons, stored] at distinct
        exact (List.nodup_cons.mp distinct).1 (List.mem_filterMap.mpr ⟨p, inside, same⟩)
      have rest : (later.filterMap fun p => storedId p.fields).Nodup := by
        rw [List.filterMap_cons] at distinct
        split at distinct
        · exact distinct
        · exact (List.nodup_cons.mp distinct).2
      cases has : hasEditorId o.fields with
      | false =>
          rw [has, if_neg Bool.false_ne_true, given_none has] at table
          exact ⟨fun lacks => (by cases lacks), ih rest table⟩
      | true =>
          rw [if_pos has] at table
          rw [← turn_eq_iff has]
          cases turn : (given (fromEditorId o.fields ++ later.flatMap (·.fields))).map (·.cut) with
          | none =>
              rw [turn] at table
              cases own : given o.fields with
              | none =>
                  rw [own] at table
                  exact ⟨fun _ => rfl, ih rest table⟩
              | some entry =>
                  -- The entry would be read at a later object.
                  rw [own] at table
                  have listed : entry ∈ (turnsOf (later.flatMap (·.fields))).filterMap id :=
                    table ▸ List.mem_cons_self
                  obtain ⟨p, inside, stored⟩ := mem_turnsOf listed
                  obtain ⟨word, _, cut⟩ := Option.map_eq_some_iff.mp stored
                  refine absurd stored (fresh _ ?_ p inside)
                  rw [storedId, given_editorId own, Option.map_some, ← cut, List.take_take, min_self]
          | some read =>
              have stored := turn_editorId has turn
              rw [turn] at table
              cases own : given o.fields with
              | none =>
                  -- The entry that was read would be that of a later object.
                  rw [own] at table
                  have first : read :: _ = ownEntries later := table
                  have listed : read ∈ ownEntries later := first ▸ List.mem_cons_self
                  obtain ⟨p, inside, same⟩ := mem_ownEntries listed
                  obtain ⟨word, _, cut⟩ := Option.map_eq_some_iff.mp stored
                  refine absurd same (fresh _ ?_ p inside)
                  rw [stored, ← cut, List.take_take, min_self]
              | some entry =>
                  rw [own] at table
                  obtain ⟨rfl, later_table⟩ := List.cons.inj table
                  exact ⟨fun _ => rfl, ih rest later_table⟩

end Loaded

/-- The loader takes the entries of the whole objects, each at its own object, exactly if every object
with an editor id keeps its turn within itself; where no two objects have one editor id, the table
alone tells. -/
theorem workshopWhitelistLoadJsonFile_iff (json : WhitelistJson)
    (entries : List WorkshopWhitelistEntry) (fits : json.objects.length ≤ maxWorkshopWhitelist)
    (whole : ∃ o ∈ json.objects, (given o.fields).isSome = true) :
    (LoadsOwn json entries ↔ KeptApart json.objects) ∧
      (DistinctIds json.objects →
        (workshopWhitelistLoadJsonFile (some json.text) entries = (true, ownEntries json.objects) ↔
          KeptApart json.objects)) := by
  have nonempty : ownEntries json.objects ≠ [] := by
    obtain ⟨o, inside, made⟩ := whole
    obtain ⟨entry, own⟩ := Option.isSome_iff_exists.mp made
    exact List.ne_nil_of_mem (List.mem_filterMap.mpr ⟨o, inside, own⟩)
  have table (kept : KeptApart json.objects) :
      workshopWhitelistLoadJsonFile (some json.text) entries = (true, ownEntries json.objects) := by
    have turns := (turnsOf_own_iff json.objects).mpr kept
    rw [load_table json entries fits, WhitelistJson.fields, turns, ownTurns_entries, if_neg nonempty]
  refine ⟨⟨fun loads => ?_, fun kept => ⟨table kept, ?_⟩⟩, fun distinct => ⟨fun loads => ?_, table⟩⟩
  · exact (turnsOf_own_iff json.objects).mp (json.turns.symm.trans loads.turns)
  · exact json.turns.trans ((turnsOf_own_iff json.objects).mpr kept)
  · rw [load_table json entries fits] at loads
    split at loads
    · cases congrArg Prod.fst loads
    · exact keptApart_of_table distinct (congrArg Prod.snd loads)

/-! ## An example -/

def noBlank : Blank := ⟨[], fun _ inside => by cases inside⟩

/-- An object without white space. -/
def plainObject (members : List WhitelistMember) (distinct : (members.map (·.key)).Nodup) :
    WrittenObject :=
  ⟨noBlank, members.map fun m => ⟨noBlank, m, noBlank, noBlank, noBlank⟩, noBlank, noBlank,
    by simpa [Function.comp_def] using distinct⟩

def sampleEditorId : WhitelistMember := .editorId ⟨ascii "WoodWall01", by decide +kernel, by decide⟩

def sampleFormId : WhitelistMember := .formIdHex ⟨ascii "1a", by decide, by decide, by decide +kernel⟩

def sampleFlags : List WhitelistMember :=
  [.flag .movable true, .flag .scrappable true, .flag .snapEnabled true, .flag .animated false,
    .flag .scripted false]

/-- A whole object that starts with its editor id. -/
def sampleObject : WrittenObject :=
  plainObject (sampleEditorId :: sampleFormId :: sampleFlags) (by decide)

theorem workshopWhitelistLoadJsonFile_one :
    let json : WhitelistJson := ⟨noBlank, [sampleObject], noBlank, noBlank⟩
    (LoadsOwn json [] ↔ KeptApart json.objects) ∧
      (DistinctIds json.objects →
        (workshopWhitelistLoadJsonFile (some json.text) [] = (true, ownEntries json.objects) ↔
          KeptApart json.objects)) :=
  workshopWhitelistLoadJsonFile_iff ⟨noBlank, [sampleObject], noBlank, noBlank⟩ [] (by decide)
    ⟨sampleObject, List.mem_cons_self, by decide +kernel⟩

/-- An object that starts with its form id takes that of the object behind it. -/
theorem workshopWhitelistLoadJsonFile_stray :
    let first := plainObject (.formIdHex ⟨ascii "2b", by decide, by decide, by decide +kernel⟩ ::
      .editorId ⟨ascii "WoodFloor01", by decide +kernel, by decide⟩ :: sampleFlags) (by decide)
    let json : WhitelistJson := ⟨noBlank, [first, sampleObject], noBlank, noBlank⟩
    (∃ o ∈ json.objects, (given o.fields).isSome = true) ∧
      workshopWhitelistLoadJsonFile (some json.text) [] ≠ (true, ownEntries json.objects) := by
  intro first json
  refine ⟨⟨sampleObject, List.mem_cons_of_mem first List.mem_cons_self, ?_⟩, ?_⟩
  · decide +kernel
  · decide +kernel

end F4MP.Service
