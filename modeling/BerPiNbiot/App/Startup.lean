import BerPiNbiot.App.Outline
import BerPiNbiot.Resumption.Observer

/-!
# Starting the uploader

The network thread controls the uploader by `rt_thread_startup`,
`rt_thread_suspend` and `rt_thread_resume`.  Which of the first and the last a
pass through `mqtt_recon` makes is decided by `recon_count`, which is set on the
jumps back and cleared at the resume.

The history keeps the controls of every finished segment with the labels at its
two ends.  `recon_count` is zero in front of the wait loop only before the first
arrival there, so the startup is the first control and stays the only one of its
kind.
-/

namespace BerPiNbiot.App

open BerPiNbiot.Kernel
open BerPiNbiot.Modem
open BerPiNbiot.Resumption
open BerPiNbiot.Transition

/-- The calls that control the uploader. -/
inductive Control
  | startup
  | suspend
  | resume
  deriving DecidableEq, Repr

/-- A finished segment of the network thread. -/
structure Segment where
  source : NetLabel
  controls : List Control
  target : NetLabel
  deriving DecidableEq, Repr

/-- The controls so far, segment by segment. -/
structure Controls where
  past : List Segment := []
  /-- the label at which the segment at hand began -/
  label : NetLabel
  /-- the controls of the segment at hand -/
  current : List Control := []
  deriving DecidableEq, Repr

/-- The controls of some segments, in order. -/
def controlsOf (segments : List Segment) : List Control :=
  segments.flatMap Segment.controls

/-- All controls so far, in order. -/
def Controls.all (history : Controls) : List Control :=
  controlsOf history.past ++ history.current

/-- The control that a call is, if any. -/
def NetCall.control : NetCall → List Control
  | .startup => [.startup]
  | .suspend => [.suspend]
  | .resume => [.resume]
  | _ => []

/-- The controls of the segment that ends go into the past. -/
def Controls.arrive (history : Controls) (label : NetLabel) : Controls where
  past := history.past ++ [⟨history.label, history.current, label⟩]
  label := label

/-- A call adds its control. -/
def Controls.enter (history : Controls) (request : NetCall) : Controls :=
  { history with current := history.current ++ request.control }

/-- The observer of the controls.  Any call may return any answer. -/
def controlsObserver : Observer netCalls NetLabel Controls Empty where
  arrive := Controls.arrive
  enter := Controls.enter
  leave history _ _ := some history
  notice history _ := some history

/-- A move of the network thread, watched for its controls. -/
def controlsStep : Step (Watched netCalls NetLabel Controls) (Watch netCalls Empty) :=
  controlsObserver.step netOutline

/-- The start of `net_entry`. -/
def controlsStart : Watched netCalls NetLabel Controls where
  phase := .outside (netOutline (.netRecon 0))
  history := { label := .netRecon 0 }

/-! ## Segments -/

/-- The controls of a segment between two labels. -/
def Fits : NetLabel → List Control → NetLabel → Prop
  | .netRecon count, controls, target =>
      controls = [] ∧ (target = .netRecon count ∨ target = .mqttRecon count)
  | .mqttRecon count, controls, target =>
      controls = [if count = 0 then .startup else .resume] ∧ target = .waitLoop 0
  | .waitLoop count, controls, target =>
      (controls = [] ∨ controls = [.suspend, .resume]) ∧ target = .waitLoop count ∨
        controls = [.suspend] ∧ (target = .netRecon 1 ∨ target = .mqttRecon 1)

/-- The controls that a segment may have made on its way. -/
def Partial : NetLabel → List Control → Prop
  | .netRecon _, controls => controls = []
  | .mqttRecon count, controls =>
      controls = [] ∨ controls = [if count = 0 then .startup else .resume]
  | .waitLoop _, controls =>
      controls = [] ∨ controls = [.suspend] ∨ controls = [.suspend, .resume]

/-- A call leaves the controls such as the segment can have them. -/
def Permitted (state : NetLabel × List Control) (request : NetCall) : Prop :=
  Partial state.1 (state.2 ++ request.control)

/-- The controls behind a call. -/
def controlled (state : NetLabel × List Control) (request : NetCall) : NetLabel × List Control :=
  (state.1, state.2 ++ request.control)

/-- The thread follows the controls of the segment at hand. -/
abbrev FollowsControls : Phase netCalls NetLabel → NetLabel × List Control → Prop :=
  Follows Permitted controlled (fun before _ _ after => after = before)
    (fun label state => Fits state.1 state.2 label)

theorem followsControls_recon (count : Nat) :
    FollowsControls (.outside (outlineRecon count)) (.netRecon count, []) := by
  simp [Follows, outlineRecon, netCall, Permitted, Partial, controlled, NetCall.control, Fits]

theorem followsControls_mqtt (count : Nat) :
    FollowsControls (.outside (outlineMqtt count)) (.mqttRecon count, []) := by
  by_cases first : count = 0
  · simp [Follows, outlineMqtt, netCall, Permitted, Partial, controlled, NetCall.control, Fits,
      first]
  · simp [Follows, outlineMqtt, netCall, Permitted, Partial, controlled, NetCall.control, Fits,
      first]

theorem followsControls_wait (count : Nat) :
    FollowsControls (.outside (outlineWait count)) (.waitLoop count, []) := by
  simp only [Follows, outlineWait, netCall, Program.call_bind, Program.ret_bind,
    Program.along_call]
  constructor
  · exact Or.inl rfl
  · rintro received after rfl
    cases received with
    | none => simp [controlled, NetCall.control, Fits]
    | some set =>
        simp [outlineHandle, outlineSendError, outlineNbReboot, outlineFinish, netCall,
          controlled, NetCall.control, Permitted, Partial, Fits]

/-- Every segment makes the controls that belong to its two ends. -/
theorem followsControls_netOutline (label : NetLabel) :
    FollowsControls (.outside (netOutline label)) (label, []) := by
  cases label with
  | netRecon count => exact followsControls_recon count
  | mqttRecon count => exact followsControls_mqtt count
  | waitLoop count => exact followsControls_wait count

/-! ## Histories -/

/-- The uploader has been started before the thread gets to the label. -/
def NetLabel.Started : NetLabel → Prop
  | .netRecon count | .mqttRecon count => count ≠ 0
  | .waitLoop _ => True

theorem Partial.startup_notMem {label : NetLabel} {controls : List Control}
    (shape : Partial label controls) (started : label.Started) : .startup ∉ controls := by
  cases label with
  | netRecon count =>
      rw [show controls = [] from shape]
      exact List.not_mem_nil
  | mqttRecon count =>
      rcases shape with rfl | rfl
      · exact List.not_mem_nil
      · rw [if_neg started]
        decide
  | waitLoop count =>
      rcases shape with rfl | rfl | rfl <;> decide

theorem Partial.of_not_started {label : NetLabel} {controls : List Control}
    (shape : Partial label controls) (unstarted : ¬ label.Started) :
    controls = [] ∨ controls = [.startup] := by
  cases label with
  | netRecon count => exact Or.inl shape
  | mqttRecon count =>
      rcases shape with rfl | rfl
      · exact Or.inl rfl
      · rw [if_pos (not_not.mp unstarted)]
        exact Or.inr rfl
  | waitLoop count => exact absurd trivial unstarted

/-- The label is the wait loop. -/
def NetLabel.Waits : NetLabel → Prop
  | .waitLoop _ => True
  | _ => False

/-- The segment arrives at the wait loop after a reconnection. -/
def Segment.Reconnects (segment : Segment) : Prop :=
  ¬ segment.source.Waits ∧ segment.target.Waits

/-- The startup is the first control and the only one of its kind. -/
def StartsOnce (controls : List Control) : Prop :=
  ∃ rest, controls = .startup :: rest ∧ .startup ∉ rest

theorem StartsOnce.append {controls more : List Control} (once : StartsOnce controls)
    (others : .startup ∉ more) : StartsOnce (controls ++ more) := by
  rcases once with ⟨rest, rfl, absent⟩
  refine ⟨rest ++ more, rfl, ?_⟩
  rw [List.mem_append, not_or]
  exact ⟨absent, others⟩

theorem StartsOnce.ne_nil {controls : List Control} (once : StartsOnce controls) :
    controls ≠ [] := by
  rcases once with ⟨rest, rfl, _⟩
  exact List.cons_ne_nil _ _

theorem controlsOf_concat (segments : List Segment) (segment : Segment) :
    controlsOf (segments ++ [segment]) = controlsOf segments ++ segment.controls := by
  simp [controlsOf]

/-- What holds of every history. -/
structure Controls.Tidy (history : Controls) : Prop where
  shape : Partial history.label history.current
  fresh : ¬ history.label.Started → controlsOf history.past = []
  started : history.label.Started → StartsOnce (controlsOf history.past)
  arrivals : ∀ before segment after, history.past = before ++ segment :: after →
    segment.Reconnects → segment.controls = [if controlsOf before = [] then .startup else .resume]

namespace Controls.Tidy

variable {history : Controls}

theorem enter (tidy : history.Tidy) {request : NetCall}
    (permitted : Permitted (history.label, history.current) request) :
    (history.enter request).Tidy := by
  rcases tidy with ⟨shape, fresh, started, arrivals⟩
  exact ⟨permitted, fresh, started, arrivals⟩

/-- The controls of the segment before its target decide whether the uploader
has been started there. -/
theorem started_arrive (tidy : history.Tidy) {label : NetLabel}
    (fits : Fits history.label history.current label) :
    (¬ label.Started → controlsOf (history.arrive label).past = []) ∧
      (label.Started → StartsOnce (controlsOf (history.arrive label).past)) := by
  simp only [arrive, controlsOf_concat]
  have fresh := tidy.fresh
  have started := tidy.started
  cases place : history.label with
  | netRecon count =>
      rw [place] at fits fresh started
      rcases fits with ⟨none, rfl | rfl⟩
      · rw [none, List.append_nil]
        exact ⟨fresh, started⟩
      · rw [none, List.append_nil]
        exact ⟨fresh, started⟩
  | mqttRecon count =>
      rw [place] at fits fresh started
      rcases fits with ⟨one, rfl⟩
      refine ⟨fun unstarted => absurd trivial unstarted, fun _ => ?_⟩
      by_cases zero : count = 0
      · rw [fresh (not_not.mpr zero), one, if_pos zero]
        exact ⟨[], rfl, List.not_mem_nil⟩
      · rw [one, if_neg zero]
        exact (started zero).append (by decide)
  | waitLoop count =>
      rw [place] at fits started
      have once := started trivial
      rcases fits with ⟨none | both, rfl⟩ | ⟨one, rfl | rfl⟩
      · rw [none, List.append_nil]
        exact ⟨fun unstarted => absurd trivial unstarted, fun _ => once⟩
      · rw [both]
        exact ⟨fun unstarted => absurd trivial unstarted, fun _ => once.append (by decide)⟩
      · rw [one]
        exact ⟨fun unstarted => absurd Nat.one_ne_zero unstarted, fun _ => once.append (by decide)⟩
      · rw [one]
        exact ⟨fun unstarted => absurd Nat.one_ne_zero unstarted, fun _ => once.append (by decide)⟩

/-- An arrival from a reconnection starts the uploader if nothing has, and
resumes it otherwise. -/
theorem controls_of_reconnects (tidy : history.Tidy) {label : NetLabel}
    (fits : Fits history.label history.current label)
    (reconnects : Segment.Reconnects ⟨history.label, history.current, label⟩) :
    history.current = [if controlsOf history.past = [] then .startup else .resume] := by
  rcases reconnects with ⟨source, target⟩
  have fresh := tidy.fresh
  have started := tidy.started
  cases place : history.label with
  | netRecon count =>
      rw [place] at fits
      rcases fits with ⟨_, rfl | rfl⟩
      · contradiction
      · contradiction
  | mqttRecon count =>
      rw [place] at fits fresh started
      rw [fits.1]
      by_cases zero : count = 0
      · rw [if_pos zero, if_pos (fresh (not_not.mpr zero))]
      · rw [if_neg zero, if_neg (started zero).ne_nil]
  | waitLoop count =>
      rw [place] at source
      exact absurd trivial source

theorem arrive (tidy : history.Tidy) {label : NetLabel}
    (fits : Fits history.label history.current label) : (history.arrive label).Tidy := by
  rcases tidy.started_arrive fits with ⟨fresh, started⟩
  refine ⟨?_, fresh, started, ?_⟩
  · cases label with
    | netRecon count => rfl
    | mqttRecon count => exact Or.inl rfl
    | waitLoop count => exact Or.inl rfl
  · intro before segment after split reconnects
    rcases List.eq_nil_or_concat after with rfl | ⟨rest, last, rfl⟩
    · rcases List.append_inj' split rfl with ⟨rfl, single⟩
      rw [← List.singleton_inj.mp single] at reconnects ⊢
      exact tidy.controls_of_reconnects fits reconnects
    · rw [List.concat_eq_append, ← List.cons_append, ← List.append_assoc] at split
      have shorter : history.past = before ++ segment :: rest := (List.append_inj' split rfl).1
      exact tidy.arrivals before segment rest shorter reconnects

end Controls.Tidy

/-- The thread follows its segment and the history is tidy. -/
def Controlled (state : Watched netCalls NetLabel Controls) : Prop :=
  FollowsControls state.phase (state.history.label, state.history.current) ∧ state.history.Tidy

theorem controlled_start : Controlled controlsStart := by
  refine ⟨followsControls_netOutline (.netRecon 0), ?_⟩
  constructor
  · rfl
  · intro _
    rfl
  · intro started
    exact absurd rfl started
  · intro before segment after split
    exact absurd split.symm (by simp [controlsStart])

theorem controlled_step {state target : Watched netCalls NetLabel Controls}
    {move : Watch netCalls Empty} (controlled : Controlled state)
    (moved : controlsStep state move = some target) : Controlled target := by
  rcases state with ⟨phase, history⟩
  rcases controlled with ⟨follows, tidy⟩
  rcases Observer.step_cases moved with
    ⟨label, rfl, place, rfl⟩ | ⟨request, resume, rfl, place, rfl⟩
      | ⟨request, resume, answer, after, rfl, place, left, rfl⟩ | ⟨event, _⟩
  · dsimp only at place
    subst place
    exact ⟨followsControls_netOutline label, tidy.arrive follows⟩
  · dsimp only at place
    subst place
    rcases follows_enter follows with ⟨permitted, inside⟩
    exact ⟨inside, tidy.enter permitted⟩
  · dsimp only at place
    subst place
    cases left
    exact ⟨follows_leave follows rfl, tidy⟩
  · exact event.elim

/-- In every run of the network thread, with any outcomes of its calls, the
uploader is started at most once and before every other control, and an arrival
at the wait loop from a reconnection resumes it from the second time on. -/
theorem uploader_started_once (run : List (Watch netCalls Empty))
    (final : Watched netCalls NetLabel Controls)
    (executed : exec controlsStep controlsStart run = some final) :
    (final.history.all = [] ∨ StartsOnce final.history.all) ∧
    ∀ before segment after, final.history.past = before ++ segment :: after →
      segment.Reconnects →
        segment.controls = [if controlsOf before = [] then .startup else .resume] := by
  have guarded : Guarded controlsStep (fun _ _ => True) controlsStart run :=
    guarded_of_forall controlsStart fun _ _ _ => trivial
  have controlled : Controlled final :=
    exec_invariant (fun _ _ _ holds _ moved => controlled_step holds moved) controlled_start
      guarded executed
  rcases controlled with ⟨_, shape, fresh, started, arrivals⟩
  refine ⟨?_, arrivals⟩
  rw [Controls.all]
  by_cases place : final.history.label.Started
  · exact Or.inr ((started place).append (shape.startup_notMem place))
  · rw [fresh place, List.nil_append]
    rcases shape.of_not_started place with none | one
    · exact Or.inl none
    · rw [one]
      exact Or.inr ⟨[], rfl, List.not_mem_nil⟩

/-- A module that connects and then no longer answers. -/
def silentOutcome : (request : NetCall) → request.Answer
  | .delay _ | .startup | .resume | .suspend => ()
  | .topicInit => some 0
  | .eventRecv => some sendError
  | .getConnectStatus => 0
  | .waitConnect => false
  | .quickConnect | .setPsmModeOff | .config | .openAckDis | .setAckTimeout | .open | .unsub _
  | .sub _ | .reboot | .close | .getNetConnectStatus => true

/-- The thread connects, loses the module and connects again. -/
def lostModule : List (Watch netCalls Empty) :=
  controlsObserver.drive netOutline (fun _ => silentOutcome) 85 controlsStart

theorem uploader_started_once_reconnected :
    ∃ final, exec controlsStep controlsStart lostModule = some final ∧
      final.history.all = [.startup, .suspend, .resume] ∧
      (final.history.all = [] ∨ StartsOnce final.history.all) := by
  refine ⟨_, rfl, rfl, ?_⟩
  exact (uploader_started_once lostModule _ rfl).1

end BerPiNbiot.App
