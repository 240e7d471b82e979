import BerPiNbiot.Text.Search

/-!
# Notification prefixes of the modem

`nb_urc_table` lists the unsolicited result codes that the AT parser hands to
the driver.  A notification line is one of these prefixes, a body and the
closing carriage return; the parser cuts the line at the first carriage return
and a C string holds no terminator, so the body contains neither.

No prefix of the table can begin inside another one.  A prefix is therefore
found in a line exactly when it is the line's own prefix or occurs in the body.
-/

namespace BerPiNbiot.Modem

open BerPiNbiot.Text

/-- The rows of `nb_urc_table`. -/
inductive Urc
  | reboot
  | nping
  | npingErr
  | npsmr
  | mqttOpen
  | mqttSuback
  | mqttPublish
  | mqttPuback
  | mqttUnsuback
  | mqttDisc
  | mqttPubrec
  | mqttPubcomp
  | mqttPingresp
  | mqttTo
  | mqttRec
  deriving DecidableEq, Repr

/-- The field `cmd_prefix` of a row. -/
def Urc.cmdPrefix : Urc → Bytes
  | .reboot => ascii "REBOOT_"
  | .nping => ascii "+NPING:"
  | .npingErr => ascii "+NPINGERR:"
  | .npsmr => ascii "+NPSMR:1"
  | .mqttOpen => ascii "+MQTTOPEN:"
  | .mqttSuback => ascii "+MQTTSUBACK:"
  | .mqttPublish => ascii "+MQTTPUBLISH:"
  | .mqttPuback => ascii "+MQTTPUBACK:"
  | .mqttUnsuback => ascii "+MQTTUNSUBACK:"
  | .mqttDisc => ascii "+MQTTDISC:"
  | .mqttPubrec => ascii "+MQTTPUBREC:"
  | .mqttPubcomp => ascii "+MQTTPUBCOMP:"
  | .mqttPingresp => ascii "+MQTTPINGRESP:"
  | .mqttTo => ascii "+MQTTTO:"
  | .mqttRec => ascii "+MQTTREC:"

/-- The field `cmd_suffix`, the same carriage return in every row. -/
def cmdSuffix : Bytes := [13]

/-- `nb_urc_table` -/
def nbUrcTable : List Urc :=
  [.reboot, .nping, .npingErr, .npsmr, .mqttOpen, .mqttSuback, .mqttPublish, .mqttPuback,
    .mqttUnsuback, .mqttDisc, .mqttPubrec, .mqttPubcomp, .mqttPingresp, .mqttTo, .mqttRec]

theorem mem_nbUrcTable (urc : Urc) : urc ∈ nbUrcTable := by
  cases urc <;> decide

/-- A notification line, with any text between its prefix and its suffix.  The
parser ends a line at the first suffix; nothing below depends on that. -/
structure UrcLine where
  urc : Urc
  body : Bytes
  noNul : 0 ∉ body

/-- The bytes of the line. -/
def UrcLine.text (line : UrcLine) : Bytes :=
  line.urc.cmdPrefix ++ (line.body ++ cmdSuffix)

/-! ## Where a prefix can be found -/

private theorem startsInside_table :
    ∀ header ∈ nbUrcTable, ∀ key ∈ nbUrcTable, key ≠ header →
      ¬ StartsInside header.cmdPrefix key.cmdPrefix := by
  decide +kernel

private theorem return_notMem_table : ∀ key ∈ nbUrcTable, (13 : UInt8) ∉ key.cmdPrefix := by
  decide +kernel

/-- A prefix of the table is found in a line exactly when it is the line's own
prefix or its body contains it. -/
theorem found_text_iff (line : UrcLine) (key : Urc) :
    Found line.text key.cmdPrefix ↔ key = line.urc ∨ key.cmdPrefix <:+: line.body := by
  rw [found_iff_occurs, UrcLine.text]
  by_cases own : key = line.urc
  · subst key
    simp only [true_or, iff_true]
    exact (List.prefix_append _ _).isInfix
  · have outside := startsInside_table line.urc (mem_nbUrcTable _) key (mem_nbUrcTable _) own
    have noReturn := return_notMem_table key (mem_nbUrcTable key)
    rw [infix_header_append_iff outside, cmdSuffix, infix_append_singleton_iff noReturn]
    simp [own]

private theorem startsInside_itself :
    ∀ header ∈ nbUrcTable, header.cmdPrefix ≠ [] ∧
      ¬ StartsInside header.cmdPrefix.tail header.cmdPrefix := by
  decide +kernel

/-- The prefix of a line together with more text is found exactly where the body
begins with that text, unless the body repeats the prefix. -/
theorem found_prefix_append_iff (line : UrcLine) {more : Bytes} (noReturn : 13 ∉ more)
    (plain : ¬ line.urc.cmdPrefix <:+: line.body) :
    Found line.text (line.urc.cmdPrefix ++ more) ↔ more <+: line.body := by
  rcases startsInside_itself line.urc (mem_nbUrcTable _) with ⟨nonempty, outside⟩
  have closing := return_notMem_table line.urc (mem_nbUrcTable _)
  rw [found_iff_occurs, UrcLine.text]
  constructor
  · intro occurs
    cases header : line.urc.cmdPrefix with
    | nil => exact absurd header nonempty
    | cons byte rest =>
        have split := occurs
        rw [header, List.cons_append, List.cons_append, List.infix_cons_iff] at split
        rcases split with here | later
        · rw [← List.cons_append, ← List.cons_append, List.prefix_append_right_inj] at here
          exact prefix_of_prefix_append_cons noReturn here
        · -- A later occurrence would be one of the prefix in the body.
          have repeated : line.urc.cmdPrefix <:+: rest ++ (line.body ++ cmdSuffix) := by
            rw [header]
            exact (List.prefix_append (byte :: rest) more).isInfix.trans later
          rw [header, List.tail_cons, ← header] at outside
          rw [infix_header_append_iff outside, cmdSuffix, infix_append_singleton_iff closing]
            at repeated
          exact absurd repeated plain
  · rintro ⟨rest, equal⟩
    refine (List.prefix_append _ (rest ++ cmdSuffix)).isInfix.trans ?_
    rw [← equal]
    simp

end BerPiNbiot.Modem
