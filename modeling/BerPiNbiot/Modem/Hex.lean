import BerPiNbiot.Modem.Mqtt
import BerPiNbiot.Text.Memory

/-!
# Hex coding of the payload

`string_to_hex` prints every byte with `%02X`, so each call of `rt_sprintf` stores
two digits and a terminator that the next call overwrites.  `hexstring_to_string`
reads two digits for every byte and builds the byte in place.  With an unsigned
`char` the two are inverse to each other up to the case of the digits.
-/

namespace BerPiNbiot.Modem

open BerPiNbiot.Resumption
open BerPiNbiot.Text

/-! ## `%02X` -/

/-- The digits that `print_number` collects in `tmp`, the last one first.  A
32-bit number has at most eight. -/
def hexDigits : Nat → Nat → Bytes
  | 0, _ => []
  | fuel + 1, num =>
      if num = 0 then []
      else (ascii "0123456789ABCDEF").getD (num % 16) 0 :: hexDigits fuel (num / 16)

/-- `print_number` with base 16, the field width and the flags `ZEROPAD` and
`LARGE`. -/
def printNumber (num size : Nat) : Bytes :=
  let tmp := if num = 0 then [48] else hexDigits 8 num
  List.replicate (size - tmp.length) 48 ++ tmp.reverse

/-! ## The functions -/

/-- The stores of the first turns of the loop of `string_to_hex`. -/
def hexStores (pString : Memory) (pHex : Nat) : Nat → List Store
  | 0 => []
  | i + 1 =>
      hexStores pString pHex i ++ sprintfAt (pHex + i * 2) (printNumber (pString i).toNat 2)

/-- `string_to_hex`: `none` is `RT_ERROR`, without any store. -/
def stringToHexAt (pString : Option Memory) (len : Int) (pHex : Option Nat) :
    Option (List Store) :=
  match pString, pHex with
  | some text, some target => if len ≤ 0 then none else some (hexStores text target len.toNat)
  | _, _ => none

/-- The conversion of one digit; other bytes stay as they are. -/
def hexValue (temp : UInt8) : UInt8 :=
  if temp ≤ 70 ∧ temp ≥ 65 then temp - 65 + 10
  else if temp ≤ 102 ∧ temp ≥ 97 then temp - 97 + 10
  else if temp ≥ 48 ∧ temp ≤ 57 then temp - 48
  else temp

/-- The stores of the first turns of the loop of `hexstring_to_string`, two for
every byte. -/
def hexstringToString (pHex : Memory) : Nat → List Store
  | 0 => []
  | i + 1 =>
      let high := hexValue (pHex (i * 2)) <<< 4
      hexstringToString pHex i ++ [(i, high), (i, high ||| hexValue (pHex (i * 2 + 1)))]

/-! ## Bytes -/

/-- Upper case of a hex digit. -/
def toUpper (byte : UInt8) : UInt8 :=
  if 97 ≤ byte ∧ byte ≤ 102 then byte - 32 else byte

/-- The digits that `%02X` prints. -/
def isUpperHex (byte : UInt8) : Bool :=
  isHexDigit byte && toUpper byte = byte

theorem forall_byte {motive : UInt8 → Prop} (all : ∀ n < 256, motive (UInt8.ofNat n))
    (byte : UInt8) : motive byte := by
  have same : UInt8.ofNat byte.toNat = byte := UInt8.ofNat_toNat
  rw [← same]
  exact all byte.toNat byte.toNat_lt

/-- A byte is printed with two digits. -/
theorem printNumber_byte (byte : UInt8) :
    printNumber byte.toNat 2 = [hexDigit (byte / 16), hexDigit (byte % 16)] := by
  apply @forall_byte fun byte =>
    printNumber byte.toNat 2 = [hexDigit (byte / 16), hexDigit (byte % 16)]
  decide +kernel

theorem isUpperHex_hexDigit (byte : UInt8) :
    isUpperHex (hexDigit (byte / 16)) = true ∧ isUpperHex (hexDigit (byte % 16)) = true := by
  apply @forall_byte fun byte =>
    isUpperHex (hexDigit (byte / 16)) = true ∧ isUpperHex (hexDigit (byte % 16)) = true
  decide +kernel

/-- The byte is put together from its digits. -/
theorem hexValue_hexDigit (byte : UInt8) :
    hexValue (hexDigit (byte / 16)) <<< 4 ||| hexValue (hexDigit (byte % 16)) = byte := by
  apply @forall_byte fun byte =>
    hexValue (hexDigit (byte / 16)) <<< 4 ||| hexValue (hexDigit (byte % 16)) = byte
  decide +kernel

theorem hexValue_of_isHexDigit {byte : UInt8} (digit : isHexDigit byte = true) :
    (hexValue byte).toNat < 16 ∧ hexDigit (hexValue byte) = toUpper byte := by
  revert digit
  apply @forall_byte fun byte => isHexDigit byte = true →
    (hexValue byte).toNat < 16 ∧ hexDigit (hexValue byte) = toUpper byte
  decide +kernel

theorem div_mod_of_nibbles {high low : UInt8} (highSmall : high.toNat < 16)
    (lowSmall : low.toNat < 16) :
    (high <<< 4 ||| low) / 16 = high ∧ (high <<< 4 ||| low) % 16 = low := by
  have all : ∀ m < 16, ∀ n < 16,
      (UInt8.ofNat m <<< 4 ||| UInt8.ofNat n) / 16 = UInt8.ofNat m ∧
        (UInt8.ofNat m <<< 4 ||| UInt8.ofNat n) % 16 = UInt8.ofNat n := by
    decide +kernel
  have both := all high.toNat highSmall low.toNat lowSmall
  rwa [UInt8.ofNat_toNat, UInt8.ofNat_toNat] at both

/-! ## Encoding -/

theorem stringToHex_concat (text : Bytes) (byte : UInt8) :
    stringToHex (text ++ [byte]) =
      stringToHex text ++ [hexDigit (byte / 16), hexDigit (byte % 16)] := by
  rw [stringToHex, List.flatMap_append, List.flatMap_singleton]
  rfl

theorem length_stringToHex (text : Bytes) : (stringToHex text).length = 2 * text.length := by
  induction text using List.reverseRecOn with
  | nil => rfl
  | append_singleton text byte ih =>
      rw [stringToHex_concat, List.length_append, List.length_append, ih]
      simp only [List.length_cons, List.length_nil]
      omega

theorem load_succ (memory : Memory) (count : Nat) :
    memory.load 0 (count + 1) = memory.load 0 count ++ [memory count] := by
  rw [Memory.load_add, Nat.zero_add]
  rfl

/-- The turns of the loop store the digits of the bytes read so far, and the last
of them its terminator. -/
theorem after_hexStores (memory pString : Memory) (i : Nat) :
    (memory.after (hexStores pString 0 i)).load 0 (2 * i) = stringToHex (pString.load 0 i) ∧
      (0 < i → memory.after (hexStores pString 0 i) (2 * i) = 0) := by
  induction i with
  | zero =>
      refine ⟨rfl, ?_⟩
      intro positive
      contradiction
  | succ i ih =>
      let before := memory.after (hexStores pString 0 i)
      let digits := [hexDigit (pString i / 16), hexDigit (pString i % 16)]
      have turn : memory.after (hexStores pString 0 (i + 1)) =
          before.after (sprintfAt (2 * i) digits) := by
        rw [hexStores, Memory.after_append, printNumber_byte, Nat.zero_add, Nat.mul_comm i 2]
      have front : (before.after (sprintfAt (2 * i) digits)).load 0 (2 * i) =
          before.load 0 (2 * i) := by
        apply Memory.load_congr
        intro place _ below
        exact Memory.after_storesAt_of_lt _ (by omega)
      rcases before.after_sprintfAt (2 * i) digits with ⟨stored, terminated⟩
      have length : digits.length = 2 := rfl
      rw [length] at stored terminated
      rw [turn, Nat.mul_succ]
      refine ⟨?_, fun _ => terminated⟩
      rw [Memory.load_add, Nat.zero_add, front, stored, ih.1, load_succ, stringToHex_concat]

/-! ## Decoding -/

/-- The turns of the loop store one byte each. -/
theorem after_hexstringToString (memory pHex : Memory) (i : Nat) :
    ∀ k < i, memory.after (hexstringToString pHex i) k =
      hexValue (pHex (k * 2)) <<< 4 ||| hexValue (pHex (k * 2 + 1)) := by
  induction i with
  | zero =>
      intro k small
      contradiction
  | succ i ih =>
      intro k small
      rw [hexstringToString, Memory.after_append]
      by_cases last : k = i
      · subst last
        simp only [Memory.after, List.foldl_cons, List.foldl_nil, Memory.store, if_true]
      · have earlier : k < i := by omega
        simp only [Memory.after, List.foldl_cons, List.foldl_nil, Memory.store, if_neg last]
        exact ih k earlier

/-- The digits of an encoded text, byte by byte. -/
theorem digits_of_encoded {pHex pString : Memory} {i : Nat}
    (encoded : pHex.load 0 (2 * i) = stringToHex (pString.load 0 i)) :
    ∀ k < i, pHex (k * 2) = hexDigit (pString k / 16) ∧
      pHex (k * 2 + 1) = hexDigit (pString k % 16) := by
  induction i with
  | zero =>
      intro k small
      contradiction
  | succ i ih =>
      have length : (pHex.load 0 (2 * i)).length = (stringToHex (pString.load 0 i)).length := by
        rw [length_stringToHex, Memory.length_load, Memory.length_load]
      rw [Nat.mul_succ, Memory.load_add, load_succ, stringToHex_concat, Nat.zero_add] at encoded
      rcases List.append_inj encoded length with ⟨front, last⟩
      intro k small
      by_cases final : k = i
      · subst final
        simp only [Memory.load, List.cons.injEq, and_true] at last
        rw [Nat.mul_comm k 2]
        exact last
      · exact ih front k (by omega)

/-- Decoding what has been encoded gives the text back. -/
theorem load_hexstringToString {memory pHex pString : Memory} {i : Nat}
    (encoded : pHex.load 0 (2 * i) = stringToHex (pString.load 0 i)) :
    (memory.after (hexstringToString pHex i)).load 0 i = pString.load 0 i := by
  apply Memory.load_congr
  intro k _ small
  rw [Nat.zero_add] at small
  rcases digits_of_encoded encoded k small with ⟨high, low⟩
  rw [after_hexstringToString memory pHex i k small, high, low, hexValue_hexDigit]

/-- Encoding what has been decoded gives the digits in upper case. -/
theorem stringToHex_of_decoded {pHex pString : Memory} {i : Nat}
    (digits : ∀ k < 2 * i, isHexDigit (pHex k) = true)
    (decoded : ∀ k < i, pString k =
      hexValue (pHex (k * 2)) <<< 4 ||| hexValue (pHex (k * 2 + 1))) :
    stringToHex (pString.load 0 i) = (pHex.load 0 (2 * i)).map toUpper := by
  induction i with
  | zero => rfl
  | succ i ih =>
      have front := ih (fun k small => digits k (by omega)) fun k small => decoded k (by omega)
      rcases hexValue_of_isHexDigit (digits (i * 2) (by omega)) with ⟨highSmall, highUpper⟩
      rcases hexValue_of_isHexDigit (digits (i * 2 + 1) (by omega)) with ⟨lowSmall, lowUpper⟩
      rcases div_mod_of_nibbles highSmall lowSmall with ⟨high, low⟩
      rw [load_succ, stringToHex_concat, front, decoded i (Nat.lt_succ_self i), high, low,
        highUpper, lowUpper, Nat.mul_succ 2 i, Memory.load_add, List.map_append, Nat.zero_add,
        Nat.mul_comm i 2]
      rfl

theorem isUpperHex_of_mem_stringToHex {text : Bytes} {digit : UInt8}
    (member : digit ∈ stringToHex text) : isUpperHex digit = true := by
  rw [stringToHex, List.mem_flatMap] at member
  rcases member with ⟨byte, _, here⟩
  simp only [List.mem_cons, List.not_mem_nil, or_false] at here
  rcases here with rfl | rfl
  · exact (isUpperHex_hexDigit byte).1
  · exact (isUpperHex_hexDigit byte).2

/-! ## The round trips -/

theorem stringToHexAt_of_pos {n : Nat} (positive : 0 < n) (pString : Memory) :
    stringToHexAt (some pString) n (some 0) = some (hexStores pString 0 n) := by
  rw [stringToHexAt]
  simp only [Int.toNat_natCast]
  rw [if_neg (by omega)]

/-- The encoder succeeds and leaves the digits of the text and a terminator. -/
theorem stringToHexAt_spec {n : Nat} (positive : 0 < n) (pString memory : Memory) :
    ∃ stores, stringToHexAt (some pString) n (some 0) = some stores ∧
      (memory.after stores).load 0 (2 * n) = stringToHex (pString.load 0 n) ∧
      memory.after stores (2 * n) = 0 := by
  rcases after_hexStores memory pString n with ⟨digits, terminated⟩
  exact ⟨_, stringToHexAt_of_pos positive pString, digits, terminated positive⟩

/-! ## The command -/

/-- The command of `qsdk_mqtt_pub_stream`. -/
def pubCommand (mesg : Bytes) (qos : Int) : Bytes :=
  ascii "AT+MQTTPUB=\"rb_pub\"," ++ printInt qos ++ ascii ",0,0," ++
    decimal ((stringToHex mesg).length / 2) ++ ascii "," ++ stringToHex mesg

/-- The calls of `qsdk_mqtt_pub_stream` that execute another command. -/
def OtherCommand (mesg : Bytes) (qos : Int) (request : Call) : Prop :=
  ∃ cmd, request = .execCmd cmd ∧ cmd ≠ pubCommand mesg qos

/-- `qsdk_mqtt_pub_stream` executes no other command. -/
theorem always_pubCommand (mesg : Bytes) (qos : Int) :
    (qsdkMqttPubStream mesg qos).Always (fun _ _ => True) (OtherCommand mesg qos)
      (fun _ => True) := by
  have other : ∀ request : Call, (∀ cmd, request ≠ .execCmd cmd) →
      ¬ OtherCommand mesg qos request := by
    rintro request differs ⟨cmd, same, _⟩
    exact differs cmd same
  have polls : ∀ waiting count, (pollAck 100 waiting count).Always (fun _ _ => True)
      (OtherCommand mesg qos) fun _ => True :=
    always_pollAck (fun _ => other _ (by simp)) (other _ (by simp)) 100
  have own : ¬ OtherCommand mesg qos (.execCmd (pubCommand mesg qos)) := by
    rintro ⟨cmd, same, differs⟩
    cases same
    exact differs rfl
  have malloc := other (.malloc (mesg.length * 2)) (by simp)
  have write := fun update => other (.writeMqtt update) (by simp)
  simp only [pubCommand, List.append_assoc] at own
  simp [qsdkMqttPubStream, rtMalloc, writeMqtt, atObjExecCmd, pubAck, malloc, write, own, polls]

/-- The command carries the length of the message and digits that decode to it. -/
def Decodes (cmd mesg : Bytes) (qos : Int) : Prop :=
  ∃ length digits,
    cmd = ascii "AT+MQTTPUB=\"rb_pub\"," ++ printInt qos ++ ascii ",0,0," ++ length ++
      ascii "," ++ digits ∧
    digitsValue 0 length = mesg.length ∧ digits.length = 2 * mesg.length ∧
    ∀ hex back : Memory, hex.load 0 digits.length = digits →
      (back.after (hexstringToString hex (digitsValue 0 length))).load 0 mesg.length = mesg

theorem decodes_pubCommand (mesg : Bytes) (qos : Int) :
    Decodes (pubCommand mesg qos) mesg qos := by
  have half : (stringToHex mesg).length / 2 = mesg.length := by
    rw [length_stringToHex]
    omega
  refine ⟨decimal mesg.length, stringToHex mesg, ?_, digitsValue_decimal _,
    length_stringToHex mesg, ?_⟩
  · rw [pubCommand, half]
  · intro hex back loaded
    -- a memory that holds the message, to compare with
    let text : Memory := Memory.after (fun _ => 0) (storesAt 0 mesg)
    have same : text.load 0 mesg.length = mesg := Memory.load_after_storesAt _ 0 mesg
    rw [length_stringToHex] at loaded
    rw [digitsValue_decimal]
    have decoded := @load_hexstringToString back hex text mesg.length (by rw [same, loaded])
    rw [decoded, same]

/-- Coding and decoding are inverse to each other.  Every text is encoded with
upper-case digits and a terminator and decoded again; digits in either case are
decoded and encoded to their upper case; and the command of `qsdk_mqtt_pub_stream`
decodes to the message. -/
theorem hex_round_trip (n : Nat) (positive : 0 < n) (text hex back : Memory) (qos : Int) :
    (∃ stores, stringToHexAt (some text) n (some 0) = some stores ∧
      (∀ digit ∈ (hex.after stores).load 0 (2 * n), isUpperHex digit = true) ∧
      hex.after stores (2 * n) = 0 ∧
      (back.after (hexstringToString (hex.after stores) n)).load 0 n = text.load 0 n) ∧
    ((∀ digit ∈ hex.load 0 (2 * n), isHexDigit digit = true) →
      ∃ stores, stringToHexAt (some (back.after (hexstringToString hex n))) n (some 0) =
          some stores ∧
        (text.after stores).load 0 (2 * n) = (hex.load 0 (2 * n)).map toUpper ∧
        text.after stores (2 * n) = 0) ∧
    Decodes (pubCommand (text.load 0 n) qos) (text.load 0 n) qos ∧
    (qsdkMqttPubStream (text.load 0 n) qos).Always (fun _ _ => True)
      (OtherCommand (text.load 0 n) qos) fun _ => True := by
  refine ⟨?_, ?_, decodes_pubCommand _ qos, always_pubCommand _ qos⟩
  · rcases stringToHexAt_spec positive text hex with ⟨stores, returned, encoded, terminated⟩
    refine ⟨stores, returned, ?_, terminated, load_hexstringToString encoded⟩
    intro digit member
    rw [encoded] at member
    exact isUpperHex_of_mem_stringToHex member
  · intro digits
    rcases stringToHexAt_spec positive (back.after (hexstringToString hex n)) text with
      ⟨stores, returned, encoded, terminated⟩
    refine ⟨stores, returned, ?_, terminated⟩
    rw [encoded]
    apply stringToHex_of_decoded
    · intro k small
      exact digits _ (Memory.mem_load (Nat.zero_le k) (by omega))
    · exact after_hexstringToString back hex n

/-- Two bytes above the ASCII range, as digits in both cases. -/
def mixedDigits : Memory :=
  fun place => (ascii "c3A9").getD place 0

theorem mixedDigits_round_trip :
    ∃ stores, stringToHexAt
        (some (Memory.after (fun _ => 0) (hexstringToString mixedDigits 2))) 2 (some 0) =
          some stores ∧
      (Memory.after (fun _ => 0) stores).load 0 4 = (mixedDigits.load 0 4).map toUpper ∧
      Memory.after (fun _ => 0) stores 4 = 0 :=
  (hex_round_trip 2 (by decide) (fun _ => 0) mixedDigits (fun _ => 0) 1).2.1
    (List.all_eq_true.mp (by decide))

end BerPiNbiot.Modem
