import BerPiNbiot.Modem.MqttEvent

/-!
# Decoding PUBLISH notifications

A published message arrives as one line: four numbers, the topic, the length of
the message and the message itself, separated by commas.  `mqtt_event_func`
takes it apart by a chain of `strtok` calls and never looks at the length.

The decoder inverts the format exactly when the message holds no comma, the
numbers that are read fit into an `int`, and neither the topic nor the message
contains the SUBACK prefix: that branch runs first and cuts the line before the
PUBLISH branch sees it.
-/

namespace BerPiNbiot.Modem

open BerPiNbiot.Text

/-- The content of a PUBLISH notification. -/
structure Publish where
  dup : Nat
  qos : Nat
  retained : Nat
  packid : Nat
  topic : Bytes
  mesg : Bytes
  topicNonempty : topic ≠ []
  topicNoComma : 44 ∉ topic
  topicNoNul : 0 ∉ topic
  mesgNonempty : mesg ≠ []
  mesgNoNul : 0 ∉ mesg

namespace Publish

/-- The fields of the line behind its prefix. -/
def body (publish : Publish) : Bytes :=
  decimal publish.dup ++ 44 :: (decimal publish.qos ++ 44 :: (decimal publish.retained ++ 44 ::
    (decimal publish.packid ++ 44 :: (publish.topic ++ 44 ::
      (decimal publish.mesg.length ++ 44 :: publish.mesg)))))

theorem notMem_decimal (byte : UInt8) (other : isDigit byte = false) (n : Nat) :
    byte ∉ decimal n := by
  intro member
  rw [isDigit_of_mem_decimal member] at other
  contradiction

/-- The notification as the modem sends it. -/
def line (publish : Publish) : UrcLine where
  urc := .mqttPublish
  body := publish.body
  noNul := by
    simp [body, publish.topicNoNul, publish.mesgNoNul, notMem_decimal 0 (by decide)]

/-- The text handed to `mqtt_event_func`. -/
def text (publish : Publish) : Bytes :=
  publish.line.text

/-- The call with the published topic, the message and its length, and the
packet number, as the decoder should deliver them. -/
def Decoded (publish : Publish) (device : MqttDevice) : Prop :=
  (∃ mesg, (mqttEventFunc publish.text device).effects =
      [.dataCallback (some publish.topic) (some mesg) publish.mesg.length] ∧
    publish.mesg <+: mesg) ∧
  (mqttEventFunc publish.text device).device.packid = publish.packid

/-- The notifications that the decoder takes apart correctly. -/
def Decodable (publish : Publish) : Prop :=
  44 ∉ publish.mesg ∧ (publish.packid : Int) ≤ intMax ∧ (publish.mesg.length : Int) ≤ intMax ∧
    ¬ Urc.cmdPrefix .mqttSuback <:+: publish.topic ∧
    ¬ Urc.cmdPrefix .mqttSuback <:+: publish.mesg

instance (publish : Publish) : Decidable publish.Decodable :=
  inferInstanceAs (Decidable (_ ∧ _))

/-! ## The PUBLISH branch -/

/-- The chain of `strtok` calls returns the fields of the line one by one. -/
theorem publishBranch_text (publish : Publish) (run : MqttRun)
    (event : run.event = publish.text) :
    publishBranch run =
      let device : MqttDevice := { run.device with
        packid := min intMax publish.packid
        pubackTopic := some publish.topic
        pubMesgLen := min intMax publish.mesg.length
        pubMesg := (strtok comma (some (publish.mesg ++ cmdSuffix))).1 }
      { run with
        event := Urc.name .mqttPublish
        device
        effects :=
          if device.pubackOpen = 0 then
            run.effects ++ [.dataCallback device.pubackTopic device.pubMesg device.pubMesgLen]
          else run.effects } := by
  have shape : run.event = Urc.name .mqttPublish ++ 58 :: (publish.body ++ cmdSuffix) :=
    event.trans (mqtt_text_eq publish.line (by simp [line, mqttBranches]))
  have view : tokenView colon run.event = Urc.name .mqttPublish := by
    rw [event]
    exact tokenView_text publish.line (by simp [line, mqttBranches])
  have number (n : Nat) (rest : Bytes) :
      strtok comma (some (decimal n ++ 44 :: rest)) = (some (decimal n), some rest) :=
    strtok_field (notMem_decimal _ (by decide) n) (decimal_ne_nil n)
  have topic (rest : Bytes) :
      strtok comma (some (publish.topic ++ 44 :: rest)) = (some publish.topic, some rest) :=
    strtok_field publish.topicNoComma publish.topicNonempty
  have first : strtok colon (some run.event) =
      (some (Urc.name .mqttPublish), some (publish.body ++ cmdSuffix)) := by
    rw [shape]
    exact strtok_field (by decide) (by decide)
  simp only [publishBranch, first, view, body, List.append_assoc, List.cons_append, number,
    topic, atoi_decimal]

/-- A PUBLISH line without the SUBACK prefix reaches the PUBLISH branch with its
text, and nothing runs behind that branch. -/
theorem mqttEventFunc_text (publish : Publish) (device : MqttDevice)
    (noSuback : ¬ Found publish.text (Urc.cmdPrefix .mqttSuback)) :
    ∃ run, mqttEventFunc publish.text device = publishBranch run ∧
      SameInput { event := publish.text, device } run := by
  refine mqttEventFunc_reaches publish.line (by simp [line, mqttBranches]) device .mqttPublish
    [.mqttOpen, .mqttSuback, .mqttPuback, .mqttUnsuback, .mqttDisc, .mqttPubrec, .mqttPubcomp]
    [.mqttPingresp, .mqttTo, .mqttRec] rfl rfl ?_ ?_
  · exact (found_text_iff publish.line .mqttPublish).mpr (Or.inl rfl)
  · intro key member found
    simp only [List.mem_cons, List.not_mem_nil, or_false] at member
    rcases member with rfl | rfl | rfl | rfl | rfl | rfl | rfl <;>
      first | rfl | exact absurd found noSuback

/-- With the SUBACK prefix in the line the data callback is never called. -/
theorem mqttEventFunc_suback_effects (publish : Publish) (device : MqttDevice)
    (suback : Found publish.text (Urc.cmdPrefix .mqttSuback)) :
    (mqttEventFunc publish.text device).effects = [] := by
  obtain ⟨run, reached, _, _, effects, _⟩ :=
    mqttEventFunc_reaches publish.line (by simp [line, mqttBranches]) device .mqttSuback
      [.mqttOpen] [.mqttPuback, .mqttUnsuback, .mqttDisc, .mqttPubrec, .mqttPubcomp,
        .mqttPublish, .mqttPingresp, .mqttTo, .mqttRec] rfl rfl suback (by
          intro key member _
          simp only [List.mem_singleton] at member
          subst member
          rfl)
  rw [text, reached]
  simp only [branchBody, subackBranch]
  split
  · exact effects
  · exact effects

/-! ## Exactness of the decoder -/

private theorem suback_notMem : (44 : UInt8) ∉ Urc.cmdPrefix .mqttSuback ∧
    (43 : UInt8) ∈ Urc.cmdPrefix .mqttSuback := by
  decide

/-- The SUBACK prefix can only come from the topic or the message. -/
theorem found_suback_iff (publish : Publish) :
    Found publish.text (Urc.cmdPrefix .mqttSuback) ↔
      Urc.cmdPrefix .mqttSuback <:+: publish.topic ∨
        Urc.cmdPrefix .mqttSuback <:+: publish.mesg := by
  have number (n : Nat) : ¬ Urc.cmdPrefix .mqttSuback <:+: decimal n := by
    intro occurs
    exact notMem_decimal _ (by decide) n (occurs.subset suback_notMem.2)
  rw [text, found_text_iff]
  simp only [line, body, infix_append_cons_iff suback_notMem.1, number, false_or]
  simp

/-- The message token is the whole message exactly when it holds no comma. -/
theorem mesg_token_iff (publish : Publish) :
    (∃ mesg, (strtok comma (some (publish.mesg ++ cmdSuffix))).1 = some mesg ∧
      publish.mesg <+: mesg) ↔ 44 ∉ publish.mesg := by
  constructor
  · rintro ⟨mesg, token, whole⟩ member
    have result : strtok [44] (some (publish.mesg ++ cmdSuffix)) =
        (some mesg, (strtok [44] (some (publish.mesg ++ cmdSuffix))).2) := by
      rw [← token]
      rfl
    exact strtok_token_free result (whole.subset member)
  · intro free
    refine ⟨publish.mesg ++ cmdSuffix, ?_, List.prefix_append _ _⟩
    have last : strtok comma (some (publish.mesg ++ cmdSuffix)) =
        (some (publish.mesg ++ cmdSuffix), none) :=
      strtok_last (by simp [free, cmdSuffix]) (by simp [cmdSuffix])
    rw [last]

/-- The decoder delivers a notification as it was published if and only if the
message holds no comma, the packet number and the length fit into an `int`, and
the SUBACK prefix occurs neither in the topic nor in the message. -/
theorem decoded_iff_decodable (publish : Publish) (device : MqttDevice)
    (callbackOpen : device.pubackOpen = 0) :
    publish.Decoded device ↔ publish.Decodable := by
  by_cases suback : Found publish.text (Urc.cmdPrefix .mqttSuback)
  · have silent := mqttEventFunc_suback_effects publish device suback
    have cause := (found_suback_iff publish).mp suback
    constructor
    · rintro ⟨⟨mesg, effects, _⟩, _⟩
      rw [silent] at effects
      contradiction
    · rintro ⟨_, _, _, topicFree, mesgFree⟩
      rcases cause with topic | mesg
      · exact absurd topic topicFree
      · exact absurd mesg mesgFree
  · obtain ⟨run, reached, event, _, effects, puback⟩ :=
      mqttEventFunc_text publish device suback
    have free := (not_congr (found_suback_iff publish)).mp suback
    rw [not_or] at free
    have fits (n : Nat) : min intMax (n : Int) = n ↔ (n : Int) ≤ intMax := by
      omega
    have closed : run.device.pubackOpen = 0 := puback.trans callbackOpen
    rw [Decoded, Decodable, reached, publishBranch_text publish run event]
    simp only [closed, if_true, effects, List.nil_append, List.cons.injEq, and_true,
      Effect.dataCallback.injEq, true_and, fits]
    rw [← mesg_token_iff publish]
    constructor
    · rintro ⟨⟨mesg, ⟨token, length⟩, whole⟩, packid⟩
      exact ⟨⟨mesg, token, whole⟩, packid, length, free.1, free.2⟩
    · rintro ⟨⟨mesg, token, whole⟩, packid, length, _, _⟩
      exact ⟨⟨mesg, ⟨token, length⟩, whole⟩, packid⟩

/-- A message with a single JSON member. -/
def oneMember : Publish where
  dup := 0
  qos := 1
  retained := 0
  packid := 7
  topic := ascii "rb_sub"
  mesg := ascii "\x7b\"dool_op\":1\x7d"
  topicNonempty := by decide
  topicNoComma := by decide
  topicNoNul := by decide
  mesgNonempty := by decide
  mesgNoNul := by decide

theorem oneMember_decoded : oneMember.Decoded {} :=
  (decoded_iff_decodable oneMember {} rfl).mpr (by decide +kernel)

/-- A message with two JSON members. -/
def twoMembers : Publish where
  dup := 0
  qos := 1
  retained := 0
  packid := 7
  topic := ascii "rb_sub"
  mesg := ascii "\x7b\"is_auto\":0,\"light_sw\":1\x7d"
  topicNonempty := by decide
  topicNoComma := by decide
  topicNoNul := by decide
  mesgNonempty := by decide
  mesgNoNul := by decide

/-- The second member of a JSON message never reaches the data callback. -/
theorem twoMembers_truncated :
    (mqttEventFunc twoMembers.text {}).effects =
      [.dataCallback (some (ascii "rb_sub")) (some (ascii "\x7b\"is_auto\":0")) 26] ∧
    ¬ ∀ (publish : Publish) (device : MqttDevice), device.pubackOpen = 0 →
      publish.Decoded device := by
  have truncated : (mqttEventFunc twoMembers.text {}).effects =
      [.dataCallback (some (ascii "rb_sub")) (some (ascii "\x7b\"is_auto\":0")) 26] := by
    decide +kernel
  constructor
  · exact truncated
  · intro always
    rcases always twoMembers {} rfl with ⟨⟨mesg, effects, whole⟩, _⟩
    rw [truncated] at effects
    simp only [List.cons.injEq, Effect.dataCallback.injEq, Option.some.injEq] at effects
    rw [← effects.1.2.1] at whole
    exact absurd whole (by decide)

end Publish

end BerPiNbiot.Modem
