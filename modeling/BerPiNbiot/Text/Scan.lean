import BerPiNbiot.Text.Decimal

/-!
# Formatted input

The part of `sscanf` that the modem driver uses: literal bytes, white space,
`%d` and `%s`.  Scanning stops at the first directive that does not match, and
the fields assigned up to there are kept.
-/

namespace BerPiNbiot.Text

/-- One directive of a format. -/
inductive Directive
  | literal (byte : UInt8)
  | space
  | int
  | str
  deriving DecidableEq, Repr

/-- One assigned field. -/
inductive Field
  | int (value : Int)
  | str (text : Bytes)
  deriving DecidableEq, Repr

/-- The directives of a format text. -/
def directives : Bytes → List Directive
  | 37 :: 100 :: rest => .int :: directives rest
  | 37 :: 115 :: rest => .str :: directives rest
  | byte :: rest => (if isSpace byte then .space else .literal byte) :: directives rest
  | [] => []

/-- Read a `%d` field: its value and the text behind it. -/
def scanInt (text : Bytes) : Option (Int × Bytes) :=
  let start := text.dropWhile isSpace
  let body := (splitSign start).2
  if body.takeWhile isDigit = [] then none
  else some (atoi start, body.dropWhile isDigit)

/-- Read a `%s` field: its text and the text behind it. -/
def scanStr (text : Bytes) : Option (Bytes × Bytes) :=
  let start := text.dropWhile isSpace
  let token := start.takeWhile fun byte => !isSpace byte
  if token = [] then none
  else some (token, start.dropWhile fun byte => !isSpace byte)

/-- The fields that a list of directives assigns. -/
def scan : List Directive → Bytes → List Field
  | [], _ => []
  | .literal expected :: rest, byte :: text =>
      if byte = expected then scan rest text else []
  | .literal _ :: _, [] => []
  | .space :: rest, text => scan rest (text.dropWhile isSpace)
  | .int :: rest, text =>
      match scanInt text with
      | none => []
      | some (value, left) => .int value :: scan rest left
  | .str :: rest, text =>
      match scanStr text with
      | none => []
      | some (token, left) => .str token :: scan rest left

/-- The directives that assign a field. -/
def Directive.assigns : Directive → Bool
  | .int | .str => true
  | .literal _ | .space => false

/-- The directive that assigns a field. -/
def Field.directive : Field → Directive
  | .int _ => .int
  | .str _ => .str

theorem Field.directive_eq_int_iff {field : Field} :
    field.directive = .int ↔ ∃ value, field = .int value := by
  cases field <;> simp [Field.directive]

theorem Field.directive_eq_str_iff {field : Field} :
    field.directive = .str ↔ ∃ text, field = .str text := by
  cases field <;> simp [Field.directive]

/-- The fields are assigned in the order of the directives and stop where one
does not match. -/
theorem map_directive_scan (format : List Directive) (text : Bytes) :
    (scan format text).map Field.directive <+: format.filter Directive.assigns := by
  fun_induction scan format text with
  | case1 | case3 | case4 | case6 | case8 => exact List.nil_prefix
  | case2 expected rest text ih => exact ih
  | case5 rest text ih => exact ih
  | case7 rest text value left read ih => exact List.cons_prefix_cons.mpr ⟨rfl, ih⟩
  | case9 rest text token left read ih => exact List.cons_prefix_cons.mpr ⟨rfl, ih⟩

/-- `sscanf(text, format, ...)`; the number of fields is its result. -/
def sscanf (text format : Bytes) : List Field :=
  scan (directives format) text

/-- The value of a variable after a `%d` directive that may have assigned it. -/
def assignInt (before : Int) : Option Field → Int
  | some (.int value) => value
  | _ => before

example : sscanf (ascii "+CEREG:0,1\r") (ascii "+CEREG:%d,%d") = [.int 0, .int 1] := by
  decide +kernel

end BerPiNbiot.Text
