import F4MP.Service.ProfileJson
import F4MP.Client.LiveClient
import F4MP.Client.SceneBackend
import F4MP.Library.Lines

/-!
# The configuration file of the live transport

`plugin_live_transport_config.c`: an INI file that is read into a buffer of 512 characters. A file may
set a field again and again; what counts is the last value that can be read.
-/

namespace F4MP.Client
open SoftFloat CFloat Protocol Service Search Lines

variable {F : Type}

/-! ## The configuration -/

structure MovementLiveClientBridgeConfig (F : Type) where
  heartbeatIntervalTicks : UInt32
  autoStepRemoteBackend : Bool
  ownsRemoteBackend : Bool
  remoteBackendStepCount : UInt32
  applySceneBackendInterpConfig : Bool
  sceneInterpConfig : Fo4SceneProxyInterpolationConfig F

structure F4mpLiveTransportConfig (F : Type) where
  devEnabled : Bool
  hostIpv4 : Text
  port : UInt16
  playerGuid : Text
  playerName : Text
  buildHash : UInt32
  bridge : MovementLiveClientBridgeConfig F

/-- The platform that the plugin is built for. -/
inductive Platform
  | windows | posix
  deriving DecidableEq

/-- The bits of an `unsigned long`. -/
def Platform.longBits : Platform → Nat
  | windows => 32
  | posix => 64

inductive ValueKind
  | flag | text (cap : Nat) | u16 | u32 | float

abbrev ValueKind.Value (F : Type) : ValueKind → Type
  | flag => Bool
  | text _ => Text
  | u16 => UInt16
  | u32 => UInt32
  | float => F

inductive ConfigField
  | devEnabled | hostIpv4 | port | playerGuid | playerName | buildHash
  | heartbeatIntervalTicks | autoStepRemoteBackend | ownsRemoteBackend | remoteBackendStepCount
  | applySceneBackendInterpConfig | interpEnabled | positionAlpha | rotationAlpha
  deriving DecidableEq

/-- The type of a field; a text has the size of its array. -/
abbrev ConfigField.kind : ConfigField → ValueKind
  | devEnabled => .flag
  | hostIpv4 => .text 64
  | port => .u16
  | playerGuid => .text 65
  | playerName => .text 65
  | buildHash => .u32
  | heartbeatIntervalTicks => .u32
  | autoStepRemoteBackend => .flag
  | ownsRemoteBackend => .flag
  | remoteBackendStepCount => .u32
  | applySceneBackendInterpConfig => .flag
  | interpEnabled => .flag
  | positionAlpha => .float
  | rotationAlpha => .float

abbrev ConfigField.Value (F : Type) (field : ConfigField) : Type := field.kind.Value F

namespace F4mpLiveTransportConfig

def get (cfg : F4mpLiveTransportConfig F) : (field : ConfigField) → field.Value F
  | .devEnabled => cfg.devEnabled
  | .hostIpv4 => cfg.hostIpv4
  | .port => cfg.port
  | .playerGuid => cfg.playerGuid
  | .playerName => cfg.playerName
  | .buildHash => cfg.buildHash
  | .heartbeatIntervalTicks => cfg.bridge.heartbeatIntervalTicks
  | .autoStepRemoteBackend => cfg.bridge.autoStepRemoteBackend
  | .ownsRemoteBackend => cfg.bridge.ownsRemoteBackend
  | .remoteBackendStepCount => cfg.bridge.remoteBackendStepCount
  | .applySceneBackendInterpConfig => cfg.bridge.applySceneBackendInterpConfig
  | .interpEnabled => cfg.bridge.sceneInterpConfig.enabled
  | .positionAlpha => cfg.bridge.sceneInterpConfig.positionAlpha
  | .rotationAlpha => cfg.bridge.sceneInterpConfig.rotationAlpha

def set (cfg : F4mpLiveTransportConfig F) :
    (field : ConfigField) → field.Value F → F4mpLiveTransportConfig F
  | .devEnabled, b => { cfg with devEnabled := b }
  | .hostIpv4, t => { cfg with hostIpv4 := t }
  | .port, n => { cfg with port := n }
  | .playerGuid, t => { cfg with playerGuid := t }
  | .playerName, t => { cfg with playerName := t }
  | .buildHash, n => { cfg with buildHash := n }
  | .heartbeatIntervalTicks, n => { cfg with bridge.heartbeatIntervalTicks := n }
  | .autoStepRemoteBackend, b => { cfg with bridge.autoStepRemoteBackend := b }
  | .ownsRemoteBackend, b => { cfg with bridge.ownsRemoteBackend := b }
  | .remoteBackendStepCount, n => { cfg with bridge.remoteBackendStepCount := n }
  | .applySceneBackendInterpConfig, b => { cfg with bridge.applySceneBackendInterpConfig := b }
  | .interpEnabled, b => { cfg with bridge.sceneInterpConfig.enabled := b }
  | .positionAlpha, x => { cfg with bridge.sceneInterpConfig.positionAlpha := x }
  | .rotationAlpha, x => { cfg with bridge.sceneInterpConfig.rotationAlpha := x }

end F4mpLiveTransportConfig

/-- `fltcfg_set_defaults` -/
def fltcfgSetDefaults [CFloat F] : F4mpLiveTransportConfig F where
  devEnabled := false
  hostIpv4 := ascii "127.0.0.1"
  port := 7777
  playerGuid := ascii "dev-guid-local"
  playerName := ascii "DevPlayer"
  buildHash := 0x12345678
  bridge := {
    heartbeatIntervalTicks := 10
    autoStepRemoteBackend := true
    ownsRemoteBackend := true
    remoteBackendStepCount := 2
    applySceneBackendInterpConfig := false
    sceneInterpConfig := ⟨true, lit 35 100, lit 1 2⟩ }

/-! ## Values -/

def oneOf (names : List String) (text : Text) : Bool := names.any fun name => ascii name == text

/-- `copy_text` into an array of `cap` -/
def copyText (cap : Nat) (src : Text) : Text := src.take (cap - 1)

def parseBoolValue (value : Text) : Option Bool :=
  if oneOf ["1", "true", "yes", "on"] value then some true
  else if oneOf ["0", "false", "no", "off"] value then some false
  else none

def parseU16Value (platform : Platform) (value : Text) : Option UInt16 := do
  let (n, rest) ← strtoulEnd platform.longBits value
  if trim rest ≠ [] ∨ 65535 < n then none else some (UInt16.ofNat n)

def parseU32Value (platform : Platform) (value : Text) : Option UInt32 := do
  let (n, rest) ← strtoulEnd platform.longBits value
  if trim rest ≠ [] then none else some (UInt32.ofNat n)

section Parse
variable (strtod : Text → Option (F × Text)) (platform : Platform)

/-- `parse_float_value`; `strtod` gives the number, as a `float`, and what stands behind it. -/
def parseFloatValue (value : Text) : Option F := do
  let (x, rest) ← strtod value
  if trim rest ≠ [] then none else some x

/-- What the text gives a field, if it can be read. -/
def readValue (value : Text) : (kind : ValueKind) → Option (kind.Value F)
  | .flag => parseBoolValue value
  | .text cap => some (copyText cap value)
  | .u16 => parseU16Value platform value
  | .u32 => parseU32Value platform value
  | .float => parseFloatValue strtod value

/-! ## The file -/

/-- The sections before which `parse_key_value` looks for a field, and the keys that it takes for it. -/
def comparisons : List (List String × List String × ConfigField) :=
  let transport := ["", "live_transport"]
  let bridge := ["bridge", "live_transport"]
  let scene := ["scene_interpolation", "bridge", "live_transport"]
  [(transport, ["enabled", "dev_enabled", "dev_live_transport"], .devEnabled),
    (transport, ["host", "host_ipv4"], .hostIpv4),
    (transport, ["port"], .port),
    (transport, ["player_guid"], .playerGuid),
    (transport, ["player_name"], .playerName),
    (transport, ["build_hash"], .buildHash),
    (bridge, ["heartbeat_interval_ticks"], .heartbeatIntervalTicks),
    (bridge, ["auto_step_remote_backend"], .autoStepRemoteBackend),
    (bridge, ["owns_remote_backend"], .ownsRemoteBackend),
    (bridge, ["remote_backend_step_count"], .remoteBackendStepCount),
    (bridge, ["apply_scene_backend_interp_config"], .applySceneBackendInterpConfig),
    (scene, ["scene_interp_enabled", "enabled"], .interpEnabled),
    (scene, ["scene_interp_position_alpha", "position_alpha"], .positionAlpha),
    (scene, ["scene_interp_rotation_alpha", "rotation_alpha"], .rotationAlpha)]

/-- The field that a key stands for in a section, by the first comparison that holds. -/
def fieldNamed (section_ key : Text) : Option ConfigField :=
  (comparisons.find? fun c => oneOf c.1 section_ && oneOf c.2.1 key).map (·.2.2)

/-- The key and the value of a line. -/
def splitKeyValue (line : Text) : Option (Text × Text) := do
  let eq ← strchr 0x3D line
  let key := trim (line.take (line.length - eq.length))
  if key = [] then none else some (key, trim eq.tail)

def parseKeyValue (cfg : F4mpLiveTransportConfig F) (section_ line : Text) :
    Bool × F4mpLiveTransportConfig F :=
  match splitKeyValue line with
  | none => (false, cfg)
  | some (key, value) =>
      match fieldNamed section_ key with
      | none => (true, cfg)
      | some field =>
          match readValue strtod platform value field.kind with
          | none => (true, cfg)
          | some v => (true, cfg.set field v)

/-- The turn of the loop in `fltcfg_load_file` for a line in its buffer. -/
def readLine (s : Text × F4mpLiveTransportConfig F) (line : Text) :
    Text × F4mpLiveTransportConfig F :=
  let text := trim (cString line)
  if text = [] ∨ text.head? = some 0x3B ∨ text.head? = some 0x23 then s
  else if 2 ≤ text.length ∧ text.head? = some 0x5B ∧ text.getLast? = some 0x5D then
    (copyText 64 (trim text.tail.dropLast), s.2)
  else (s.1, (parseKeyValue strtod platform s.2 s.1 text).2)

/-- `fltcfg_load_file`; `none` stands for a file that cannot be opened. -/
def fltcfgLoadFile [CFloat F] (file : Option Text) : Option (F4mpLiveTransportConfig F) :=
  file.map fun bytes =>
    ((fgetsLines 0x0A 512 bytes).foldl (readLine strtod platform) ([], fltcfgSetDefaults)).2

/-- `F4MP_LIVE_CONFIG_PATH_CAP` -/
def liveConfigPathCap : Nat := 260

def kCandidates : List Text :=
  [ascii "f4mp_live.ini", ascii "F4SE/f4mp_live.ini", ascii "Data/F4SE/Plugins/f4mp_live.ini"]

/-- The path in `F4MP_LIVE_CONFIG`, if it is taken. -/
def envPath (env : Option Text) : Option Text := do
  let path ← env
  if path = [] ∨ platform = .windows ∧ liveConfigPathCap ≤ path.length then none else some path

/-- `fltcfg_load_default`: if a file was loaded, its path and the configuration. -/
def fltcfgLoadDefault [CFloat F] (env : Option Text) (files : Text → Option Text) (outPathCap : Nat) :
    Bool × Text × F4mpLiveTransportConfig F :=
  let found := ((envPath platform env).toList ++ kCandidates).findSome? fun path =>
    (fltcfgLoadFile strtod platform (files path)).map fun cfg => (path, cfg)
  match found with
  | some (path, cfg) => (true, copyText outPathCap path, cfg)
  | none => (false, [], fltcfgSetDefaults)

end Parse

/-! ## What a file says -/

/-- An assignment to a field. -/
abbrev Assignment (F : Type) := Σ field : ConfigField, field.Value F

inductive ConfigLine
  | nothing
  | heading (name : Text)
  | entry (key value : Text)

/-- A line of a file, out of its buffer. -/
def configLine (line : Text) : ConfigLine :=
  let text := trim (cString line)
  if text = [] ∨ text.head? = some 0x3B ∨ text.head? = some 0x23 then .nothing
  else if 2 ≤ text.length ∧ text.head? = some 0x5B ∧ text.getLast? = some 0x5D then
    .heading (trim text.tail.dropLast)
  else
    match splitKeyValue text with
    | none => .nothing
    | some (key, value) => .entry key value

/-- The keys and their values, each with the section that it stands in. -/
def entriesFrom (section_ : Text) : List ConfigLine → List (Text × Text × Text)
  | [] => []
  | .nothing :: lines => entriesFrom section_ lines
  | .heading name :: lines => entriesFrom (copyText 64 name) lines
  | .entry key value :: lines => (section_, key, value) :: entriesFrom section_ lines

section Meaning
variable (strtod : Text → Option (F × Text)) (platform : Platform)

/-- What an entry sets, if its key stands for a field and its value can be read. -/
def assignmentOf (e : Text × Text × Text) : Option (Assignment F) := do
  let field ← fieldNamed e.1 e.2.1
  let v ← readValue strtod platform e.2.2 field.kind
  some ⟨field, v⟩

def assignments (lines : List ConfigLine) : List (Assignment F) :=
  (entriesFrom [] lines).filterMap (assignmentOf strtod platform)

/-- What the file holds, buffer by buffer. -/
def fileLines (bytes : Text) : List ConfigLine := (fgetsLines 0x0A 512 bytes).map configLine

end Meaning

theorem get_set (cfg : F4mpLiveTransportConfig F) (field : ConfigField) (v : field.Value F) :
    (cfg.set field v).get = Function.update cfg.get field v := by
  funext other
  by_cases same : other = field
  · subst same
    rw [Function.update_self]
    cases other <;> rfl
  · rw [Function.update_of_ne same]
    cases field <;> cases other <;> first | rfl | exact absurd rfl same

section Load
variable {strtod : Text → Option (F × Text)} {platform : Platform}

theorem readLine_eq (s : Text × F4mpLiveTransportConfig F) (line : Text) :
    readLine strtod platform s line =
      match configLine line with
      | .nothing => s
      | .heading name => (copyText 64 name, s.2)
      | .entry key value => (s.1,
          match assignmentOf strtod platform (s.1, key, value) with
          | none => s.2
          | some a => s.2.set a.1 a.2) := by
  unfold readLine configLine
  dsimp only
  split_ifs with skipped heading
  · rfl
  · rfl
  · unfold parseKeyValue
    cases splitKeyValue (trim (cString line)) with
    | none => rfl
    | some entry =>
        obtain ⟨key, value⟩ := entry
        refine Prod.ext rfl ?_
        simp only [assignmentOf]
        cases fieldNamed s.1 key with
        | none => rfl
        | some field =>
            simp only [Option.bind_eq_bind, Option.bind_some]
            cases readValue strtod platform value field.kind <;> rfl

theorem foldl_readLine (lines : List Text) (section_ : Text) (cfg : F4mpLiveTransportConfig F) :
    (lines.foldl (readLine strtod platform) (section_, cfg)).2 =
      ((entriesFrom section_ (lines.map configLine)).filterMap (assignmentOf strtod platform)).foldl
        (fun cfg a => cfg.set a.1 a.2) cfg := by
  induction lines generalizing section_ cfg with
  | nil => rfl
  | cons line lines ih =>
      rw [List.foldl_cons, readLine_eq, List.map_cons]
      cases configLine line with
      | nothing => exact ih section_ cfg
      | heading name => exact ih _ cfg
      | entry key value =>
          simp only [ih, entriesFrom, List.filterMap_cons]
          cases assignmentOf strtod platform (section_, key, value) <;> rfl

/-- What counts of a file is the last value of each field that can be read, in a section and under a
key that stand for it. -/
theorem fltcfgLoadFile_get [CFloat F] (strtod : Text → Option (F × Text)) (platform : Platform)
    (bytes : Text) : ∃ cfg : F4mpLiveTransportConfig F,
    fltcfgLoadFile strtod platform (some bytes) = some cfg ∧
      ∀ field, cfg.get field = lastFor field (fltcfgSetDefaults.get field)
        (assignments strtod platform (fileLines bytes)) := by
  refine ⟨_, rfl, fun field => ?_⟩
  show ((fgetsLines 0x0A 512 bytes).foldl (readLine strtod platform) ([], fltcfgSetDefaults)).2.get
    field = _
  rw [foldl_readLine]
  exact foldl_assign (fun s k v => get_set s k v) _ _ field

end Load

/-! ## Written files -/

/-- White space inside a line. -/
abbrev LineSpace := { s : Text // ∀ c ∈ s, isSpace c = true ∧ c ≠ 0x0A }

/-- A text that starts and ends with no space, in one line. -/
structure IniWord where
  word : Text
  trimmed : Trimmed word
  plain : ∀ c ∈ word, c ≠ 0 ∧ c ≠ 0x0A

/-- A word that starts no heading and no comment, without an equals sign. -/
structure IniKey extends IniWord where
  starts : ∃ c, word.head? = some c ∧ c ≠ 0x3B ∧ c ≠ 0x23 ∧ c ≠ 0x5B
  equalless : 0x3D ∉ word

structure IniComment where
  mark : UInt8
  isMark : mark = 0x3B ∨ mark = 0x23
  text : Text
  plain : ∀ c ∈ text, c ≠ 0 ∧ c ≠ 0x0A

inductive IniLine
  | blank (space : LineSpace)
  | comment (before : LineSpace) (comment : IniComment)
  | heading (before inside : LineSpace) (name : IniWord) (behind after : LineSpace)
  | entry (before : LineSpace) (key : IniKey) (behind inside : LineSpace) (value : IniWord)
      (after : LineSpace)

namespace IniLine

def text : IniLine → Text
  | blank space => space.val
  | comment before c => before.val ++ c.mark :: c.text
  | heading before inside name behind after =>
      before.val ++ ((0x5B :: (inside.val ++ (name.word ++ (behind.val ++ [0x5D])))) ++ after.val)
  | entry before key behind inside value after =>
      before.val ++ (key.word ++ (behind.val ++ 0x3D :: (inside.val ++ (value.word ++ after.val))))

def reading : IniLine → ConfigLine
  | blank _ => .nothing
  | comment _ _ => .nothing
  | heading _ _ name _ _ => .heading name.word
  | entry _ key _ _ value _ => .entry key.word value.word

end IniLine

/-- Lines that fit the buffer. -/
abbrev IniFile := List { line : IniLine // line.text.length < 511 }

def IniFile.text (file : IniFile) : Text := file.flatMap fun line => line.val.text ++ [0x0A]

def IniFile.entries (file : IniFile) : List (Text × Text × Text) :=
  entriesFrom [] (file.map (·.val.reading))

theorem space_ne_zero : ∀ c : UInt8, isSpace c = true → c ≠ 0 := by decide +kernel

theorem LineSpace.spaces (s : LineSpace) : Spaces s.val := fun c inside => (s.property c inside).1

theorem LineSpace.plain (s : LineSpace) : ∀ c ∈ s.val, c ≠ 0 ∧ c ≠ 0x0A := fun c inside =>
  ⟨space_ne_zero c (s.property c inside).1, (s.property c inside).2⟩

theorem newline_spaces : Spaces [0x0A] := List.forall_mem_singleton.mpr rfl

theorem IniLine.plain (line : IniLine) : ∀ c ∈ line.text, c ≠ 0 ∧ c ≠ 0x0A := by
  cases line with
  | blank space => exact space.plain
  | comment before c =>
      refine List.forall_mem_append.mpr ⟨before.plain, List.forall_mem_cons.mpr ⟨?_, c.plain⟩⟩
      rcases c.isMark with mark | mark <;> rw [mark] <;> decide
  | heading before inside name behind after =>
      refine List.forall_mem_append.mpr ⟨before.plain, List.forall_mem_append.mpr ⟨?_, after.plain⟩⟩
      refine List.forall_mem_cons.mpr ⟨by decide, List.forall_mem_append.mpr ⟨inside.plain, ?_⟩⟩
      refine List.forall_mem_append.mpr ⟨name.plain, List.forall_mem_append.mpr ⟨behind.plain, ?_⟩⟩
      exact List.forall_mem_singleton.mpr (by decide)
  | entry before key behind inside value after =>
      refine List.forall_mem_append.mpr ⟨before.plain, List.forall_mem_append.mpr ⟨key.plain, ?_⟩⟩
      refine List.forall_mem_append.mpr ⟨behind.plain, List.forall_mem_cons.mpr ⟨by decide, ?_⟩⟩
      refine List.forall_mem_append.mpr ⟨inside.plain, ?_⟩
      exact List.forall_mem_append.mpr ⟨value.plain, after.plain⟩

theorem cString_line (line : IniLine) : cString (line.text ++ [0x0A]) = line.text ++ [0x0A] := by
  refine List.takeWhile_eq_self_iff.mpr fun c listed => ?_
  rcases List.mem_append.mp listed with inside | inside
  · simpa using (line.plain c inside).1
  · obtain rfl := List.mem_singleton.mp inside
    rfl

/-! ## Written lines -/

section Lines
variable {line front rest : Text} {c : UInt8}

theorem configLine_blank (trimmed : trim (cString line) = []) : configLine line = .nothing := by
  unfold configLine
  rw [trimmed]
  rfl

theorem configLine_comment (trimmed : trim (cString line) = c :: rest) (mark : c = 0x3B ∨ c = 0x23) :
    configLine line = .nothing := by
  unfold configLine
  rw [trimmed]
  simp only [List.head?_cons, Option.some.injEq, mark, or_true, if_true]

theorem configLine_heading (trimmed : trim (cString line) = 0x5B :: (front ++ [0x5D])) :
    configLine line = .heading (trim front) := by
  have last : (0x5B :: (front ++ [0x5D])).getLast? = some 0x5D := by
    rw [← List.cons_append, List.getLast?_append]
    rfl
  have unmarked : ¬ ((0x5B : UInt8) = 0x3B ∨ (0x5B : UInt8) = 0x23) := by decide
  unfold configLine
  rw [trimmed]
  simp only [List.head?_cons, Option.some.injEq, reduceCtorEq, unmarked, false_or, if_false, last,
    List.length_cons, List.length_append, List.length_nil, Nat.le_add_left, and_self, if_true,
    List.tail_cons, List.dropLast_concat]

theorem splitKeyValue_eq (equalless : 0x3D ∉ front) (keyed : trim front ≠ []) :
    splitKeyValue (front ++ 0x3D :: rest) = some (trim front, trim rest) := by
  have len : (front ++ 0x3D :: rest).length - (0x3D :: rest).length = front.length := by
    rw [List.length_append, Nat.add_sub_cancel_right]
  simp only [splitKeyValue, strchr_first equalless, Option.bind_eq_bind, Option.bind_some, len,
    List.take_left, if_neg keyed, List.tail_cons]

theorem configLine_entry (trimmed : trim (cString line) = front ++ 0x3D :: rest)
    (head : front.head? = some c) (starts : c ≠ 0x3B ∧ c ≠ 0x23 ∧ c ≠ 0x5B)
    (equalless : 0x3D ∉ front) (keyed : trim front ≠ []) :
    configLine line = .entry (trim front) (trim rest) := by
  have first : (front ++ 0x3D :: rest).head? = some c := by
    rw [List.head?_append, head]
    rfl
  have some_ : front ++ 0x3D :: rest ≠ [] := List.append_ne_nil_of_right_ne_nil _ (List.cons_ne_nil _ _)
  unfold configLine
  rw [trimmed]
  simp only [first, Option.some.injEq, some_, starts.1, starts.2.1, starts.2.2, or_self, if_false,
    false_and, and_false, splitKeyValue_eq equalless keyed]

end Lines

theorem IniKey.word_cons (key : IniKey) : ∃ c rest, key.word = c :: rest ∧ isSpace c = false ∧
    c ≠ 0x3B ∧ c ≠ 0x23 ∧ c ≠ 0x5B := by
  obtain ⟨c, head, starts⟩ := key.starts
  obtain ⟨rest, word⟩ := List.head?_eq_some_iff.mp head
  exact ⟨c, rest, word, key.trimmed.1 c head, starts⟩

theorem IniKey.trim_word (key : IniKey) (behind : LineSpace) :
    trim (key.word ++ behind.val) = key.word :=
  trim_around (l := []) (fun _ inside => (List.not_mem_nil inside).elim) key.trimmed behind.spaces

/-- A written line is read for what it says. -/
theorem configLine_text (line : IniLine) : configLine (line.text ++ [0x0A]) = line.reading := by
  have whole := cString_line line
  cases line with
  | blank space =>
      refine configLine_blank ?_
      rw [whole]
      exact trim_spaces (List.forall_mem_append.mpr ⟨space.spaces, newline_spaces⟩)
  | comment before comment =>
      have solid : isSpace comment.mark = false := by
        rcases comment.isMark with mark | mark <;> rw [mark] <;> rfl
      have trimmed := trim_solid before.spaces solid (comment.text ++ [0x0A])
      refine configLine_comment (Eq.trans ?_ trimmed) comment.isMark
      rw [whole, IniLine.text, List.append_assoc, List.cons_append]
  | heading before inside name behind after =>
      have ends := rdropWhile_behind (c := 0x5D) rfl (inside.val ++ (name.word ++ behind.val))
        (after.val ++ [0x0A])
      have spaces : Spaces (after.val ++ [0x0A]) :=
        List.forall_mem_append.mpr ⟨after.spaces, newline_spaces⟩
      rw [List.rdropWhile_eq_nil_iff.mpr spaces] at ends
      have trimmed := trim_solid before.spaces (c := 0x5B) rfl
        (inside.val ++ (name.word ++ behind.val) ++ 0x5D :: (after.val ++ [0x0A]))
      rw [ends] at trimmed
      have text : trim ((IniLine.heading before inside name behind after).text ++ [0x0A]) =
          0x5B :: (inside.val ++ (name.word ++ behind.val) ++ [0x5D]) := by
        rw [← trimmed]
        simp only [IniLine.text, List.append_assoc, List.cons_append, List.nil_append]
      rw [configLine_heading (whole.symm ▸ text),
        trim_around inside.spaces name.trimmed behind.spaces]
      rfl
  | entry before key behind inside value after =>
      obtain ⟨c, ks, word, solid, starts⟩ := key.word_cons
      have spaces : Spaces (after.val ++ [0x0A]) :=
        List.forall_mem_append.mpr ⟨after.spaces, newline_spaces⟩
      have equalless : 0x3D ∉ key.word ++ behind.val := fun listed => by
        rcases List.mem_append.mp listed with inside | inside
        · exact key.equalless inside
        · exact absurd (behind.spaces _ inside) (by decide)
      have text : trim ((IniLine.entry before key behind inside value after).text ++ [0x0A]) =
          (key.word ++ behind.val) ++
            0x3D :: (inside.val ++ (value.word ++ (after.val ++ [0x0A]))).rdropWhile isSpace := by
        simp only [IniLine.text, word, List.append_assoc, List.cons_append,
          trim_solid before.spaces solid]
        rw [← List.append_assoc ks, rdropWhile_behind (c := 0x3D) rfl, List.append_assoc]
      have read := configLine_entry (whole.symm ▸ text) (by rw [word]; rfl) starts equalless
        (by rw [key.trim_word, word]; exact List.cons_ne_nil _ _)
      rw [read, key.trim_word, trim_rdropWhile inside.spaces value.trimmed spaces]
      rfl

/-! ## Written files -/

theorem fileLines_text (file : IniFile) : fileLines file.text = file.map (·.val.reading) := by
  have lines : file.text = (file.map (·.val.text)).flatMap (· ++ [0x0A]) := by
    rw [IniFile.text, List.flatMap_map]
  have short : ∀ line ∈ file.map (·.val.text), (0x0A : UInt8) ∉ line ∧ line.length + 1 < 512 := by
    intro line listed
    obtain ⟨l, -, rfl⟩ := List.mem_map.mp listed
    exact ⟨fun inside => (l.val.plain _ inside).2 rfl, Nat.succ_lt_succ l.property⟩
  rw [fileLines, lines, fgetsLines_lines short, List.map_map, List.map_map]
  exact List.map_congr_left fun l _ => configLine_text l.val

/-- The sections and the keys that stand for a field. -/
def ConfigField.places : ConfigField → List (String × String)
  | devEnabled => ["", "live_transport"] ×ˢ ["enabled", "dev_enabled", "dev_live_transport"]
  | hostIpv4 => ["", "live_transport"] ×ˢ ["host", "host_ipv4"]
  | port => ["", "live_transport"] ×ˢ ["port"]
  | playerGuid => ["", "live_transport"] ×ˢ ["player_guid"]
  | playerName => ["", "live_transport"] ×ˢ ["player_name"]
  | buildHash => ["", "live_transport"] ×ˢ ["build_hash"]
  | heartbeatIntervalTicks => ["bridge", "live_transport"] ×ˢ ["heartbeat_interval_ticks"]
  | autoStepRemoteBackend => ["bridge", "live_transport"] ×ˢ ["auto_step_remote_backend"]
  | ownsRemoteBackend => ["bridge", "live_transport"] ×ˢ ["owns_remote_backend"]
  | remoteBackendStepCount => ["bridge", "live_transport"] ×ˢ ["remote_backend_step_count"]
  | applySceneBackendInterpConfig =>
      ["bridge", "live_transport"] ×ˢ ["apply_scene_backend_interp_config"]
  | interpEnabled =>
      ["scene_interpolation", "bridge", "live_transport"] ×ˢ ["scene_interp_enabled"] ++
        ["scene_interpolation", "bridge"] ×ˢ ["enabled"]
  | positionAlpha => ["scene_interpolation", "bridge", "live_transport"] ×ˢ
      ["scene_interp_position_alpha", "position_alpha"]
  | rotationAlpha => ["scene_interpolation", "bridge", "live_transport"] ×ˢ
      ["scene_interp_rotation_alpha", "rotation_alpha"]

/-- The key stands for the field in the section. -/
def ConfigField.Named (field : ConfigField) (section_ key : Text) : Prop :=
  ∃ p ∈ field.places, ascii p.1 = section_ ∧ ascii p.2 = key

theorem oneOf_iff {names : List String} {text : Text} :
    oneOf names text = true ↔ ∃ name ∈ names, ascii name = text := by
  simp [oneOf]

theorem named_fieldNamed : ∀ field : ConfigField, ∀ p ∈ field.places,
    fieldNamed (ascii p.1) (ascii p.2) = some field := by
  intro field
  cases field <;> decide +kernel

theorem comparisons_named : ∀ c ∈ comparisons, ∀ a ∈ c.1, ∀ b ∈ c.2.1,
    (fieldNamed (ascii a) (ascii b)).all fun field => decide ((a, b) ∈ field.places) := by
  decide +kernel

theorem fieldNamed_iff {section_ key : Text} {field : ConfigField} :
    fieldNamed section_ key = some field ↔ field.Named section_ key := by
  constructor
  · intro named
    obtain ⟨c, found, -⟩ := Option.map_eq_some_iff.mp named
    have holds : (oneOf c.1 section_ && oneOf c.2.1 key) = true := by
      have := List.find?_some found
      simpa only using this
    obtain ⟨sections, keys⟩ := Bool.and_eq_true_iff.mp holds
    obtain ⟨a, inSections, rfl⟩ := oneOf_iff.mp sections
    obtain ⟨b, inKeys, rfl⟩ := oneOf_iff.mp keys
    have placed := comparisons_named c (List.mem_of_find?_eq_some found) a inSections b inKeys
    rw [named] at placed
    exact ⟨(a, b), of_decide_eq_true placed, rfl, rfl⟩
  · rintro ⟨p, listed, rfl, rfl⟩
    exact named_fieldNamed field p listed

/-- The text stands for the value. -/
def Spelled (strtod : Text → Option (F × Text)) : (kind : ValueKind) → kind.Value F → Text → Prop
  | .flag, b, t =>
      ∃ word ∈ (if b then ["1", "true", "yes", "on"] else ["0", "false", "no", "off"]), ascii word = t
  | .text cap, word, t => t = word ∧ word.length < cap
  | .u16, n, t => NumberSpelled n.toNat t
  | .u32, n, t => NumberSpelled n.toNat t
  | .float, x, t => strtod t = some (x, [])

section Values
variable {strtod : Text → Option (F × Text)} {platform : Platform}

theorem longBits_ge (platform : Platform) : 2 ^ 32 ≤ 2 ^ platform.longBits := by
  cases platform <;> decide

theorem parseBoolValue_word : ∀ b : Bool,
    ∀ word ∈ (if b then ["1", "true", "yes", "on"] else ["0", "false", "no", "off"]),
      parseBoolValue (ascii word) = some b := by
  decide +kernel

theorem readValue_spelled {kind : ValueKind} {v : kind.Value F} {t : Text}
    (spelled : Spelled strtod kind v t) : readValue strtod platform t kind = some v := by
  have wide := longBits_ge platform
  cases kind with
  | flag =>
      obtain ⟨word, listed, rfl⟩ := spelled
      exact parseBoolValue_word v word listed
  | text cap =>
      obtain ⟨rfl, fits⟩ := spelled
      rw [readValue, copyText, List.take_of_length_le (Nat.le_sub_one_of_lt fits)]
  | u16 =>
      have small := UInt16.toNat_lt v
      have number : NumberSpelled (UInt16.toNat v) t := spelled
      have read := strtoulEnd_spelled number (Nat.lt_of_lt_of_le (by omega) wide)
      simp only [readValue, parseU16Value, read, Option.bind_eq_bind, Option.bind_some,
        show trim [] = [] from rfl, ne_eq, not_true_eq_false, false_or,
        if_neg (show ¬ 65535 < UInt16.toNat v by omega), UInt16.ofNat_toNat]
  | u32 =>
      have small := UInt32.toNat_lt v
      have number : NumberSpelled (UInt32.toNat v) t := spelled
      have read := strtoulEnd_spelled number (Nat.lt_of_lt_of_le small wide)
      simp only [readValue, parseU32Value, read, Option.bind_eq_bind, Option.bind_some,
        show trim [] = [] from rfl, ne_eq, not_true_eq_false, if_false, UInt32.ofNat_toNat]
  | float =>
      simp only [readValue, parseFloatValue, show strtod t = some (v, []) from spelled,
        Option.bind_eq_bind, Option.bind_some, show trim [] = [] from rfl, ne_eq, not_true_eq_false,
        if_false]

theorem assignmentOf_field {e : Text × Text × Text} {a : Assignment F}
    (set : assignmentOf strtod platform e = some a) : a.1.Named e.1 e.2.1 := by
  obtain ⟨field, named, set⟩ := Option.bind_eq_some_iff.mp set
  obtain ⟨v, -, same⟩ := Option.bind_eq_some_iff.mp set
  cases same
  exact fieldNamed_iff.mp named

theorem assignmentOf_spelled {section_ key t : Text} {field : ConfigField} {v : field.Value F}
    (named : field.Named section_ key) (spelled : Spelled strtod field.kind v t) :
    assignmentOf strtod platform (section_, key, t) = some ⟨field, v⟩ := by
  simp only [assignmentOf, fieldNamed_iff.mpr named, Option.bind_eq_bind, Option.bind_some,
    readValue_spelled spelled]

/-- The configuration is what the entries say, each in its section: of a field what is said last, and
the default if nothing is said of it. A value that cannot be read says nothing. -/
structure Says (strtod : Text → Option (F × Text)) (platform : Platform) [CFloat F]
    (entries : List (Text × Text × Text)) (cfg : F4mpLiveTransportConfig F) : Prop where
  counts : ∀ field, cfg.get field = lastFor field (fltcfgSetDefaults.get field)
    (entries.filterMap (assignmentOf strtod platform))
  last : ∀ before after section_ key t (field : ConfigField) (v : field.Value F),
    entries = before ++ (section_, key, t) :: after → field.Named section_ key →
      Spelled strtod field.kind v t → (∀ e ∈ after, ¬ field.Named e.1 e.2.1) → cfg.get field = v
  default : ∀ field : ConfigField, (∀ e ∈ entries, ¬ field.Named e.1 e.2.1) →
    cfg.get field = fltcfgSetDefaults.get field

theorem unnamed_assignments {entries : List (Text × Text × Text)} {field : ConfigField}
    (unnamed : ∀ e ∈ entries, ¬ field.Named e.1 e.2.1) :
    ∀ a ∈ entries.filterMap (assignmentOf strtod platform), a.1 ≠ field := by
  rintro a listed rfl
  obtain ⟨e, inside, set⟩ := List.mem_filterMap.mp listed
  exact unnamed e inside (assignmentOf_field set)

/-- A written file is loaded for what it says, however it is laid out: indented or not, with blank lines
and comments, with any space around keys, values and headings. -/
theorem fltcfgLoadFile_written [CFloat F] (strtod : Text → Option (F × Text)) (platform : Platform)
    (file : IniFile) : ∃ cfg : F4mpLiveTransportConfig F,
      fltcfgLoadFile strtod platform (some file.text) = some cfg ∧
        Says strtod platform file.entries cfg := by
  obtain ⟨cfg, loaded, counts⟩ := fltcfgLoadFile_get strtod platform file.text
  simp only [assignments, fileLines_text] at counts
  refine ⟨cfg, loaded, counts, ?_, ?_⟩
  · intro before after section_ key t field v split named spelled unnamed
    rw [counts, ← IniFile.entries, split, List.filterMap_append, List.filterMap_cons,
      assignmentOf_spelled named spelled]
    exact lastFor_last _ v (unnamed_assignments unnamed)
  · intro field unnamed
    rw [counts]
    exact lastFor_none _ (unnamed_assignments unnamed)

end Values

end F4MP.Client
