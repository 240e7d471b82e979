import BerPiNbiot.Text.Search

/-!
# Control messages

A control message is a JSON text whose members set the control variables of
`nb_callback.c`.  The tree that `cJSON_Parse` builds is modelled by its values;
a number carries the integer `valueint` that cJSON computed for it.  Looking a
member up compares names without regard to case and returns a null pointer when
nothing matches, in particular for every root that is not an object.

The extraction reads `object->type` before it knows that there is an object.
It runs to its end exactly on the messages that carry all ten names, and then
decodes them exactly.
-/

namespace BerPiNbiot.Cloud

open BerPiNbiot.Text

/-! ## cJSON trees -/

/-- A parsed JSON value. -/
inductive CJson
  | false
  | true
  | null
  | number (valueint : Int)
  | string (valuestring : Bytes)
  | array (items : List CJson)
  | object (members : List (Bytes × CJson))

/-- The list behind `child`, with the field `string` of every entry. -/
def CJson.child : CJson → List (Option Bytes × CJson)
  | .array items => items.map fun item => (none, item)
  | .object members => members.map fun member => (some member.1, member.2)
  | _ => []

/-- `tolower` on ASCII. -/
def toLower (byte : UInt8) : UInt8 :=
  if 65 ≤ byte ∧ byte ≤ 90 then byte + 32 else byte

/-- `cJSON_strcasecmp(name, key) == 0` for a name that may be null. -/
def cJsonStrcasecmp (name : Option Bytes) (key : Bytes) : Bool :=
  match name with
  | none => false
  | some name => name.map toLower = key.map toLower

/-- `cJSON_GetObjectItem` -/
def cJsonGetObjectItem (object : CJson) (key : Bytes) : Option CJson :=
  (object.child.find? fun entry => cJsonStrcasecmp entry.1 key).map (·.2)

/-- `valueint` of an item whose type is `cJSON_Number`. -/
def CJson.number? : CJson → Option Int
  | .number valueint => some valueint
  | _ => none

/-! ## Control variables -/

/-- The members of a control message, in the order of extraction. -/
inductive Key
  | isAuto
  | lightSw
  | smLight
  | setLux
  | setAdc
  | doolOp
  | k210Flag
  | fengshanSw
  | pwmLed
  | nbConnect
  deriving DecidableEq, Repr

/-- The name that is looked up for a key. -/
def Key.name : Key → Bytes
  | .isAuto => ascii "is_auto"
  | .lightSw => ascii "light_sw"
  | .smLight => ascii "sm_light"
  | .setLux => ascii "set_lux"
  | .setAdc => ascii "set_adc"
  | .doolOp => ascii "dool_op"
  | .k210Flag => ascii "k210_flag"
  | .fengshanSw => ascii "fengshan_sw"
  | .pwmLed => ascii "pwm_led"
  | .nbConnect => ascii "nb_connect"

/-- The extraction steps in the order of the source. -/
def keys : List Key :=
  [.isAuto, .lightSw, .smLight, .setLux, .setAdc, .doolOp, .k210Flag, .fengshanSw, .pwmLed,
    .nbConnect]

/-- The variables that the extraction assigns, with their initial values. -/
structure Control where
  isAuto : UInt8 := 1
  lightSw : UInt8 := 0
  smLight : UInt8 := 0
  luxValue : UInt16 := 0
  mqValue : UInt8 := 0
  dool : UInt8 := 0
  k210Flag : UInt8 := 22
  fan : UInt8 := 0
  pwmLed : UInt16 := 0
  connectSta : UInt8 := 0
  deriving DecidableEq, Repr

/-- The assignment of an `int` to the variable of a key; the conversion keeps
the low bits. -/
def Control.assign (control : Control) (key : Key) (valueint : Int) : Control :=
  match key with
  | .isAuto => { control with isAuto := UInt8.ofInt valueint }
  | .lightSw => { control with lightSw := UInt8.ofInt valueint }
  | .smLight => { control with smLight := UInt8.ofInt valueint }
  | .setLux => { control with luxValue := UInt16.ofInt valueint }
  | .setAdc => { control with mqValue := UInt8.ofInt valueint }
  | .doolOp => { control with dool := UInt8.ofInt valueint }
  | .k210Flag => { control with k210Flag := UInt8.ofInt valueint }
  | .fengshanSw => { control with fan := UInt8.ofInt valueint }
  | .pwmLed => { control with pwmLed := UInt16.ofInt valueint }
  | .nbConnect => { control with connectSta := UInt8.ofInt valueint }

/-- The variable of a key, read as an integer. -/
def Control.read (control : Control) : Key → Int
  | .isAuto => control.isAuto.toNat
  | .lightSw => control.lightSw.toNat
  | .smLight => control.smLight.toNat
  | .setLux => control.luxValue.toNat
  | .setAdc => control.mqValue.toNat
  | .doolOp => control.dool.toNat
  | .k210Flag => control.k210Flag.toNat
  | .fengshanSw => control.fan.toNat
  | .pwmLed => control.pwmLed.toNat
  | .nbConnect => control.connectSta.toNat

/-- The number of values of a key's variable. -/
def Key.modulus : Key → Int
  | .setLux | .pwmLed => 65536
  | _ => 256

/-! ## Extraction -/

/-- One extraction step; the error names the key whose null item is
dereferenced. -/
def extractKey (root : CJson) (control : Control) (key : Key) : Except Key Control :=
  match cJsonGetObjectItem root key.name with
  | none => .error key
  | some object =>
      match object.number? with
      | none => .ok control
      | some valueint => .ok (control.assign key valueint)

/-- The extraction phase of `qsdk_mqtt_data_callback`. -/
def extract (root : CJson) (control : Control) : Except Key Control :=
  keys.foldlM (extractKey root) control

/-- The number that a message carries for a key. -/
def CJson.numeric (root : CJson) (key : Key) : Option Int :=
  (cJsonGetObjectItem root key.name).bind CJson.number?

/-- The value that the variable of a key should have after extraction. -/
def decodedValue (root : CJson) (control : Control) (key : Key) : Int :=
  match root.numeric key with
  | none => control.read key
  | some valueint => valueint % key.modulus

/-- Every key has an item in the message. -/
def Complete (root : CJson) : Prop :=
  ∀ key ∈ keys, cJsonGetObjectItem root key.name ≠ none

theorem mem_keys (key : Key) : key ∈ keys := by
  cases key <;> decide

private theorem toNat_ofInt8 (valueint : Int) :
    ((UInt8.ofInt valueint).toNat : Int) = valueint % 256 := by
  have truncated : (UInt8.ofInt valueint).toNat = (valueint % 256).toNat % 256 := by
    rw [UInt8.ofInt, UInt8.toNat_ofNat']
    rfl
  omega

private theorem toNat_ofInt16 (valueint : Int) :
    ((UInt16.ofInt valueint).toNat : Int) = valueint % 65536 := by
  have truncated : (UInt16.ofInt valueint).toNat = (valueint % 65536).toNat % 65536 := by
    rw [UInt16.ofInt, UInt16.toNat_ofNat']
    rfl
  omega

/-- An assignment sets its own variable to the truncated value. -/
theorem read_assign_self (control : Control) (key : Key) (valueint : Int) :
    (control.assign key valueint).read key = valueint % key.modulus := by
  cases key <;> simp only [Control.assign, Control.read, Key.modulus, toNat_ofInt8, toNat_ofInt16]

/-- An assignment leaves the other variables alone. -/
theorem read_assign_of_ne {key other : Key} (differs : other ≠ key) (control : Control)
    (valueint : Int) : (control.assign key valueint).read other = control.read other := by
  cases key <;> cases other <;> first | rfl | contradiction

/-- A successful step decodes its own variable and no other. -/
theorem extractKey_eq_ok {root : CJson} {control after : Control} {key : Key}
    (step : extractKey root control key = .ok after) :
    after.read key = decodedValue root control key ∧
      ∀ other, other ≠ key → after.read other = control.read other := by
  unfold extractKey at step
  split at step
  · contradiction
  · rename_i object found
    split at step
    · rename_i notNumber
      cases step
      simp [decodedValue, CJson.numeric, found, notNumber]
    · rename_i valueint number
      cases step
      refine ⟨?_, fun other differs => read_assign_of_ne differs control valueint⟩
      simp [decodedValue, CJson.numeric, found, number, read_assign_self]

/-- A row of steps on distinct keys decodes exactly those keys. -/
theorem foldlM_extractKey_eq_ok {root : CJson} (steps : List Key) (distinct : steps.Nodup)
    {control after : Control} (run : steps.foldlM (extractKey root) control = .ok after)
    (key : Key) :
    after.read key = if key ∈ steps then decodedValue root control key else control.read key := by
  induction steps generalizing control with
  | nil =>
      cases run
      simp
  | cons first rest ih =>
      rw [List.nodup_cons] at distinct
      rw [List.foldlM_cons] at run
      cases step : extractKey root control first with
      | error missing =>
          rw [step] at run
          contradiction
      | ok middle =>
          rw [step] at run
          rcases extractKey_eq_ok step with ⟨own, others⟩
          have later := ih distinct.2 run
          by_cases first_eq : key = first
          · subst key
            simp [later, distinct.1, own]
          · have unchanged := others key first_eq
            simp [later, first_eq, unchanged, decodedValue]

/-- Extraction reaches its end exactly when no looked-up item is missing. -/
theorem foldlM_extractKey_isOk_iff (root : CJson) (steps : List Key) (control : Control) :
    (∃ after, steps.foldlM (extractKey root) control = .ok after) ↔
      ∀ key ∈ steps, cJsonGetObjectItem root key.name ≠ none := by
  induction steps generalizing control with
  | nil => exact ⟨fun _ _ member => absurd member List.not_mem_nil, fun _ => ⟨control, rfl⟩⟩
  | cons first rest ih =>
      rw [List.foldlM_cons, List.forall_mem_cons]
      cases found : cJsonGetObjectItem root first.name with
      | none =>
          have step : extractKey root control first = .error first := by
            simp [extractKey, found]
          rw [step]
          constructor
          · rintro ⟨after, run⟩
            contradiction
          · rintro ⟨present, _⟩
            contradiction
      | some object =>
          have step : ∃ middle, extractKey root control first = .ok middle := by
            cases number : object.number? with
            | none => exact ⟨control, by simp [extractKey, found, number]⟩
            | some valueint =>
                exact ⟨control.assign first valueint, by simp [extractKey, found, number]⟩
          rcases step with ⟨middle, step⟩
          rw [step]
          have later := ih middle
          simp only [ne_eq, reduceCtorEq, not_false_eq_true, true_and]
          exact later

/-- Extraction of a complete message succeeds and decodes every variable. -/
theorem extract_of_complete {root : CJson} (complete : Complete root) (control : Control) :
    ∃ after, extract root control = .ok after ∧
      ∀ key, after.read key = decodedValue root control key := by
  rcases (foldlM_extractKey_isOk_iff root keys control).mpr complete with ⟨after, run⟩
  refine ⟨after, run, fun key => ?_⟩
  have decoded := foldlM_extractKey_eq_ok keys (by decide) run key
  rwa [if_pos (mem_keys key)] at decoded

/-- For every text that parses, the extraction dereferences no null item and
sets every variable to the truncated number of its key, or leaves it alone
where the message carries no number, if and only if the message has an item for
each of the ten keys. -/
theorem extract_exact_iff_complete (cJsonParse : Bytes → Option CJson) (mesg : Bytes)
    (root : CJson) (parsed : cJsonParse mesg = some root) (control : Control) :
    (∃ after, (cJsonParse mesg).map (extract · control) = some (.ok after) ∧
      ∀ key, after.read key = decodedValue root control key) ↔ Complete root := by
  rw [parsed, Option.map_some]
  constructor
  · rintro ⟨after, run, _⟩
    exact (foldlM_extractKey_isOk_iff root keys control).mp ⟨after, Option.some.inj run⟩
  · intro complete
    rcases extract_of_complete complete control with ⟨after, run, decoded⟩
    exact ⟨after, congrArg some run, decoded⟩

/-- The text of an object with all ten keys, given the text of each value. -/
def objectText (value : Key → Bytes) : Bytes :=
  let members := keys.map fun key => ascii "\"" ++ key.name ++ ascii "\":" ++ value key
  ascii "\x7b" ++ (members.intersperse (ascii ",")).flatten ++ ascii "\x7d"

/-- A message with all ten keys; only the door command is a number. -/
def doorMessage : CJson :=
  .object (keys.map fun key => (key.name, if key = .doolOp then .number 1 else .null))

/-- The text of this message. -/
def doorText : Bytes :=
  objectText fun key => if key = .doolOp then ascii "1" else ascii "null"

/-- A message with all ten keys and no number. -/
def idleMessage : CJson :=
  .object (keys.map fun key => (key.name, .null))

/-- The text of this message. -/
def idleText : Bytes :=
  objectText fun _ => ascii "null"

/-- `cJSON_Parse` on the two texts above. -/
def sampleParse (mesg : Bytes) : Option CJson :=
  if mesg = doorText then some doorMessage
  else if mesg = idleText then some idleMessage
  else none

theorem doorText_parsed : sampleParse doorText = some doorMessage :=
  if_pos rfl

theorem idleText_parsed : sampleParse idleText = some idleMessage := by
  have differs : idleText ≠ doorText := by
    decide
  rw [sampleParse, if_neg differs, if_pos rfl]

theorem doorMessage_complete : Complete doorMessage := by
  intro key _
  cases key <;> simp [doorMessage, cJsonGetObjectItem, CJson.child, keys, cJsonStrcasecmp]

theorem idleMessage_complete : Complete idleMessage := by
  intro key _
  cases key <;> simp [idleMessage, cJsonGetObjectItem, CJson.child, keys, cJsonStrcasecmp]

theorem doorMessage_extracted :
    ∃ after, (sampleParse doorText).map (extract · {}) = some (.ok after) ∧
      ∀ key, after.read key = decodedValue doorMessage {} key :=
  (extract_exact_iff_complete sampleParse doorText doorMessage doorText_parsed {}).mpr
    doorMessage_complete

/-- A message that sets the door command and nothing else. -/
def bareDoorMessage : CJson :=
  .object [(Key.name .doolOp, .number 1)]

/-- A message without the key `is_auto` makes the extraction dereference a null
pointer. -/
theorem bareDoorMessage_null_item :
    extract bareDoorMessage {} = .error .isAuto ∧
      ¬ ∀ (root : CJson) (control : Control), ∃ after, extract root control = .ok after ∧
        ∀ key, after.read key = decodedValue root control key := by
  have missing : extract bareDoorMessage {} = .error .isAuto := by
    rfl
  constructor
  · exact missing
  · intro always
    rcases always bareDoorMessage {} with ⟨after, run, _⟩
    rw [missing] at run
    contradiction

end BerPiNbiot.Cloud
