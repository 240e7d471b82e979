import BerPiNbiot.App.Outline
import BerPiNbiot.Resumption.Observer

/-!
# The topic table

`qsdk_mqtt_topic_init` takes the first entry of `mqtt_stream_table` that is not
in use and marks it.  Nothing takes a mark back, so every pass through
`mqtt_recon` uses up one entry, and the pass behind the last entry hands a null
pointer to `qsdk_mqtt_unsub` and `qsdk_mqtt_sub`.

The number of passes decides: as long as there are no more of them than entries
every topic is good, and afterwards one of them is null.
-/

namespace BerPiNbiot.App

open BerPiNbiot.Kernel
open BerPiNbiot.Modem
open BerPiNbiot.Resumption
open BerPiNbiot.Text
open BerPiNbiot.Transition

/-- `MQTT_TOPIC_MAX` -/
def mqttTopicMax : Nat := 20

/-- `qsdk_mqtt_topic_init` on `mqtt_stream_table`: the entry that is returned
and the table afterwards. -/
def topicInit (stream : MqttStream) (table : List MqttStream) : Option Nat × List MqttStream :=
  let num := table.findIdx fun entry => entry.userStatus = 0
  if num ≥ mqttTopicMax then
    (none, table)
  else
    (some num, table.modify num fun entry => { stream with subackStatus := entry.subackStatus })

/-- An assignment to `topic->suback_ststus`; nothing is kept of a write through
a null pointer. -/
def topicMark (topic : Option Nat) (status : Int) (table : List MqttStream) : List MqttStream :=
  match topic with
  | none => table
  | some num => table.modify num ({ · with subackStatus := status })

/-- The topic table and what the network thread has done with it. -/
structure Topics where
  mqttStreamTable : List MqttStream := List.replicate mqttTopicMax {}
  /-- what `qsdk_mqtt_topic_init` returned, pass by pass -/
  returned : List (Option Nat) := []
  /-- the topics that `qsdk_mqtt_unsub` and `qsdk_mqtt_sub` were called with -/
  passed : List (Option Nat) := []
  deriving DecidableEq, Repr

/-- The topic of the network thread. -/
def rbSub : MqttStream :=
  { topic := ascii "rb_sub", qos := 2, retain := 0, dup := 0, mesgType := 0, userStatus := 1 }

/-- The calls that name a topic record it. -/
def Topics.enter (history : Topics) : NetCall → Topics
  | .unsub topic | .sub topic => { history with passed := history.passed ++ [topic] }
  | _ => history

/-- The slot comes from the table; every other call may return any answer. -/
def Topics.leave (history : Topics) : (request : NetCall) → request.Answer → Option Topics
  | .topicInit, slot =>
      if slot = (topicInit rbSub history.mqttStreamTable).1 then
        some { history with
          mqttStreamTable := (topicInit rbSub history.mqttStreamTable).2
          returned := history.returned ++ [slot] }
      else none
  | .unsub topic, ok =>
      some { history with
        mqttStreamTable :=
          if ok then topicMark topic 0 history.mqttStreamTable else history.mqttStreamTable }
  | .sub topic, ok =>
      some { history with
        mqttStreamTable :=
          if ok then topicMark topic 1 history.mqttStreamTable else history.mqttStreamTable }
  | _, _ => some history

/-- The observer of the topic table. -/
def topicsObserver : Observer netCalls NetLabel Topics Empty where
  arrive history _ := history
  enter := Topics.enter
  leave := Topics.leave
  notice history _ := some history

/-- A move of the network thread, watched for its topics. -/
def topicsStep : Step (Watched netCalls NetLabel Topics) (Watch netCalls Empty) :=
  topicsObserver.step netOutline

/-- The start of `net_entry` with an unused table. -/
def topicsStart : Watched netCalls NetLabel Topics where
  phase := .outside (netOutline (.netRecon 0))
  history := {}

/-! ## The table after a number of passes -/

/-- The first entries of the table are in use, and no others. -/
structure Marked (table : List MqttStream) (used : Nat) : Prop where
  size : table.length = mqttTopicMax
  inUse : ∀ num (bound : num < table.length), table[num].userStatus = 0 ↔ used ≤ num

namespace Marked

variable {table : List MqttStream} {used : Nat}

/-- The search stops behind the entries in use. -/
theorem findIdx_eq (marked : Marked table used) :
    table.findIdx (fun entry => entry.userStatus = 0) = min used mqttTopicMax := by
  rcases marked with ⟨size, inUse⟩
  by_cases free : used < mqttTopicMax
  · rw [Nat.min_eq_left (Nat.le_of_lt free)]
    have bound : used < table.length := by omega
    rw [List.findIdx_eq bound]
    constructor
    · rw [decide_eq_true_eq]
      exact (inUse used bound).mpr (Nat.le_refl used)
    · intro num before
      rw [decide_eq_false_iff_not, inUse num (Nat.lt_trans before bound)]
      omega
  · rw [Nat.min_eq_right (Nat.le_of_not_lt free), ← size]
    apply List.findIdx_eq_length_of_false
    intro entry member
    rcases List.mem_iff_getElem.mp member with ⟨num, bound, rfl⟩
    rw [decide_eq_false_iff_not, inUse num bound]
    omega

/-- The slot that the next pass gets. -/
theorem topicInit_fst (marked : Marked table used) (stream : MqttStream) :
    (topicInit stream table).1 = if used < mqttTopicMax then some used else none := by
  rw [topicInit, marked.findIdx_eq]
  split
  · rw [if_neg (by omega)]
  · rw [if_pos (by omega), Nat.min_eq_left (by omega)]

/-- Every pass uses up an entry as long as there is one. -/
theorem topicInit_snd (marked : Marked table used) {stream : MqttStream}
    (marks : stream.userStatus ≠ 0) : Marked (topicInit stream table).2 (used + 1) := by
  rcases marked with ⟨size, inUse⟩
  rw [topicInit, findIdx_eq ⟨size, inUse⟩]
  split
  · rename_i full
    refine ⟨size, fun num bound => ?_⟩
    have inside : num < table.length := bound
    have mark := inUse num inside
    constructor
    · intro free
      have past := mark.mp free
      omega
    · intro past
      exact mark.mpr (Nat.le_of_succ_le past)
  · constructor
    · rw [List.length_modify, size]
    · intro num bound
      rw [List.length_modify] at bound
      rw [List.getElem_modify]
      split
      · simp only [marks, false_iff]
        omega
      · rw [inUse num bound]
        omega

theorem topicMark (marked : Marked table used) (topic : Option Nat) (status : Int) :
    Marked (topicMark topic status table) used := by
  cases topic with
  | none => exact marked
  | some slot =>
      rcases marked with ⟨size, inUse⟩
      constructor
      · rw [App.topicMark, List.length_modify, size]
      · intro num bound
        simp only [App.topicMark, List.length_modify] at bound
        simp only [App.topicMark, List.getElem_modify]
        split
        · exact inUse num bound
        · exact inUse num bound

end Marked

/-! ## Passes -/

/-- What the first passes get. -/
def slots (passes : Nat) : List (Option Nat) :=
  (List.range passes).map fun pass => if pass < mqttTopicMax then some pass else none

/-- Every slot is good exactly as long as the entries last. -/
theorem slots_ne_none_iff (passes : Nat) :
    (∀ slot ∈ slots passes, slot ≠ none) ↔ passes ≤ mqttTopicMax := by
  constructor
  · intro good
    by_contra more
    have member : none ∈ slots passes := by
      rw [slots, List.mem_map]
      refine ⟨mqttTopicMax, List.mem_range.mpr (Nat.lt_of_not_le more), ?_⟩
      rw [if_neg (Nat.lt_irrefl mqttTopicMax)]
    exact good none member rfl
  · intro few slot member
    rcases List.mem_map.mp member with ⟨pass, inRange, rfl⟩
    rw [if_pos (Nat.lt_of_lt_of_le (List.mem_range.mp inRange) few)]
    exact Option.some_ne_none pass

/-- A topic is one that was returned before. -/
def Known (returned : List (Option Nat)) : NetCall → Prop
  | .unsub topic | .sub topic => topic ∈ returned
  | _ => True

/-- What a call adds to the slots returned. -/
def Returns (before : List (Option Nat)) :
    (request : NetCall) → request.Answer → List (Option Nat) → Prop
  | .topicInit, slot, after => after = before ++ [slot]
  | _, _, after => after = before

/-- The thread passes on only slots that it was given. -/
abbrev FollowsTopics : Phase netCalls NetLabel → List (Option Nat) → Prop :=
  Follows Known (fun before _ => before) Returns (fun _ _ => True)

theorem followsTopics_netOutline (label : NetLabel) (returned : List (Option Nat)) :
    FollowsTopics (.outside (netOutline label)) returned := by
  cases label with
  | netRecon count => simp [Follows, netOutline, outlineRecon, netCall, Known, Returns]
  | mqttRecon count => simp [Follows, netOutline, outlineMqtt, netCall, Known, Returns]
  | waitLoop count =>
      simp only [Follows, netOutline, outlineWait, netCall, Program.call_bind, Program.ret_bind,
        Program.along_call]
      refine ⟨trivial, ?_⟩
      rintro received after rfl
      cases received with
      | none => exact trivial
      | some set =>
          simp [outlineHandle, outlineSendError, outlineNbReboot, outlineFinish, netCall, Known,
            Returns]

/-- What holds of every history. -/
structure Topics.Tidy (history : Topics) : Prop where
  marked : Marked history.mqttStreamTable history.returned.length
  returned : history.returned = slots history.returned.length
  passed : ∀ topic ∈ history.passed, topic ∈ history.returned

namespace Topics.Tidy

variable {history : Topics}

theorem enter (tidy : history.Tidy) {request : NetCall} (known : Known history.returned request) :
    (history.enter request).Tidy := by
  rcases tidy with ⟨marked, returned, passed⟩
  have more : ∀ topic, topic ∈ history.returned →
      ∀ other ∈ history.passed ++ [topic], other ∈ history.returned := by
    intro topic here
    exact List.forall_mem_append.mpr ⟨passed, List.forall_mem_singleton.mpr here⟩
  cases request with
  | unsub topic => exact ⟨marked, returned, more topic known⟩
  | sub topic => exact ⟨marked, returned, more topic known⟩
  | _ => exact ⟨marked, returned, passed⟩

theorem topicInit (tidy : history.Tidy) {slot : Option Nat}
    (given : slot = (App.topicInit rbSub history.mqttStreamTable).1) :
    Topics.Tidy { history with
      mqttStreamTable := (App.topicInit rbSub history.mqttStreamTable).2
      returned := history.returned ++ [slot] } := by
  rcases tidy with ⟨marked, returned, passed⟩
  constructor
  · rw [List.length_append]
    exact marked.topicInit_snd (by decide)
  · rw [List.length_append, List.length_singleton, slots, List.range_succ, List.map_append,
      ← slots, ← returned, given, marked.topicInit_fst]
    rfl
  · intro topic member
    exact List.mem_append_left _ (passed topic member)

/-- A call that returns leaves the history tidy and adds to the slots what the
call says. -/
theorem leave (tidy : history.Tidy) {request : NetCall} {answer : request.Answer}
    {after : Topics} (left : history.leave request answer = some after) :
    after.Tidy ∧ Returns history.returned request answer after.returned := by
  cases request with
  | topicInit =>
      rw [Topics.leave] at left
      split at left
      · rename_i given
        cases left
        exact ⟨tidy.topicInit given, rfl⟩
      · contradiction
  | unsub topic =>
      cases left
      refine ⟨⟨?_, tidy.returned, tidy.passed⟩, rfl⟩
      cases answer with
      | true => exact tidy.marked.topicMark topic 0
      | false => exact tidy.marked
  | sub topic =>
      cases left
      refine ⟨⟨?_, tidy.returned, tidy.passed⟩, rfl⟩
      cases answer with
      | true => exact tidy.marked.topicMark topic 1
      | false => exact tidy.marked
  | _ =>
      cases left
      exact ⟨tidy, rfl⟩

end Topics.Tidy

/-- The thread passes on what it was given and the history is tidy. -/
def Supplied (state : Watched netCalls NetLabel Topics) : Prop :=
  FollowsTopics state.phase state.history.returned ∧ state.history.Tidy

theorem supplied_start : Supplied topicsStart := by
  refine ⟨followsTopics_netOutline (.netRecon 0) [], ⟨rfl, ?_⟩, rfl, List.forall_mem_nil _⟩
  intro num bound
  simp [topicsStart]

theorem supplied_step {state target : Watched netCalls NetLabel Topics}
    {move : Watch netCalls Empty} (supplied : Supplied state)
    (moved : topicsStep state move = some target) : Supplied target := by
  rcases state with ⟨phase, history⟩
  rcases supplied with ⟨follows, tidy⟩
  rcases Observer.step_cases moved with
    ⟨label, rfl, place, rfl⟩ | ⟨request, resume, rfl, place, rfl⟩
      | ⟨request, resume, answer, after, rfl, place, left, rfl⟩ | ⟨event, _⟩
  · exact ⟨followsTopics_netOutline label history.returned, tidy⟩
  · dsimp only at place
    subst place
    rcases follows_enter follows with ⟨known, inside⟩
    refine ⟨?_, tidy.enter known⟩
    cases request <;> exact inside
  · dsimp only at place
    subst place
    rcases tidy.leave left with ⟨later, returns⟩
    exact ⟨follows_leave follows returns, later⟩
  · exact event.elim

/-- In every run of the network thread, the slots that the passes get and the
topics that are passed on are all good if and only if there were no more passes
than the table has entries. -/
theorem topics_good_iff_passes_le (run : List (Watch netCalls Empty))
    (final : Watched netCalls NetLabel Topics)
    (executed : exec topicsStep topicsStart run = some final) :
    ((∀ slot ∈ final.history.returned, slot ≠ none) ∧
        ∀ topic ∈ final.history.passed, topic ≠ none) ↔
      final.history.returned.length ≤ mqttTopicMax := by
  have guarded : Guarded topicsStep (fun _ _ => True) topicsStart run :=
    guarded_of_forall topicsStart fun _ _ _ => trivial
  have supplied : Supplied final :=
    exec_invariant (fun _ _ _ holds _ moved => supplied_step holds moved) supplied_start
      guarded executed
  rcases supplied with ⟨_, _, returned, passed⟩
  rw [← slots_ne_none_iff, ← returned]
  constructor
  · exact And.left
  · intro good
    exact ⟨good, fun topic member => good topic (passed topic member)⟩

/-- The MQTT link stays down while the module answers. -/
def linkDown (history : Topics) : (request : NetCall) → request.Answer
  | .delay _ | .startup | .resume | .suspend => ()
  | .topicInit => (topicInit rbSub history.mqttStreamTable).1
  | .eventRecv => some sendError
  | .getConnectStatus => 5
  | .open => false
  | .quickConnect | .setPsmModeOff | .config | .openAckDis | .setAckTimeout | .unsub _ | .sub _
  | .waitConnect | .reboot | .close | .getNetConnectStatus => true

/-- The thread reconnects again and again. -/
def reconnecting (moves : Nat) : List (Watch netCalls Empty) :=
  topicsObserver.drive netOutline linkDown moves topicsStart

/-- Two passes. -/
theorem topics_good_reconnected :
    ∃ final, exec topicsStep topicsStart (reconnecting 90) = some final ∧
      final.history.returned = [some 0, some 1] ∧
      (∀ slot ∈ final.history.returned, slot ≠ none) ∧
        ∀ topic ∈ final.history.passed, topic ≠ none := by
  refine ⟨_, rfl, rfl, ?_⟩
  exact (topics_good_iff_passes_le (reconnecting 90) _ rfl).mpr (by decide)

private theorem reconnecting_exhausts :
    (exec topicsStep topicsStart (reconnecting 998)).map (fun final =>
      (final.history.returned.length, final.history.returned.getLast?,
        final.history.passed.getLast?)) = some (21, some none, some none) := by
  decide +kernel

/-- The pass behind the last entry gets a null pointer and passes it on. -/
theorem topics_null_when_exhausted :
    ¬ ∀ run final, exec topicsStep topicsStart run = some final →
      (∀ slot ∈ final.history.returned, slot ≠ none) ∧
        ∀ topic ∈ final.history.passed, topic ≠ none := by
  intro good
  rcases Option.map_eq_some_iff.mp reconnecting_exhausts with ⟨final, executed, last⟩
  simp only [Prod.mk.injEq] at last
  rcases last with ⟨_, slot, _⟩
  exact (good _ final executed).1 none (List.mem_of_getLast? slot) rfl

end BerPiNbiot.App
