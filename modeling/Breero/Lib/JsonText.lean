import Breero.Lib.Encodings
import Mathlib.Data.Rat.Floor

/-!
JSON as Python's `json` reads it, one code point after another.

* `Value` is what is read; a text is a list of code points, as it may hold a lone surrogate;
* `step` is the machine: `Mode` is what it is in the middle of, and the stack holds the
  containers that are open;
* `Limits` bounds the nesting of the containers and the digits of an integer, and `loads_cut` says
  that a limit changes nothing but to raise its error.
-/

namespace JsonText

/-! ## Values -/

abbrev Text := List Nat

def ofString (s : String) : Text := s.toList.map Char.toNat

/-- A float of 64 bits. -/
inductive Double
  | finite (value : Rat)
  | infinite (negative : Bool)
  | nan
  deriving DecidableEq, Repr

/-- The nearest integer, and of two the even one. -/
def roundHalfEven (q : Rat) : Int :=
  let twice := 2 * (q - q.floor)
  if twice < 1 then q.floor
  else if 1 < twice then q.floor + 1
  else if q.floor % 2 = 0 then q.floor else q.floor + 1

/-- The power of two that the last bit of a double near `q` stands for. -/
def unitOf (q : Rat) : Rat :=
  let exponent : Int := q.num.natAbs.log2 - q.den.log2
  let exponent := if (2 : Rat) ^ exponent ≤ q then exponent else exponent - 1
  (2 : Rat) ^ max (exponent - 52) (-1074)

/-- The double that is nearest to a decimal fraction. -/
def Double.ofDecimal (negative : Bool) (digits : Nat) (exponent : Int) : Double :=
  let exact : Rat := digits * (10 : Rat) ^ exponent
  let rounded := roundHalfEven (exact / unitOf exact) * unitOf exact
  if exact = 0 then .finite 0
  else if (2 : Rat) ^ (1024 : Int) ≤ rounded then .infinite negative
  else .finite (if negative then -rounded else rounded)

/-- An object has its members in the order of the text. -/
inductive Value
  | null
  | bool (b : Bool)
  | int (n : Int)
  | float (x : Double)
  | str (s : Text)
  | arr (items : List Value)
  | obj (members : List (Text × Value))

/-- Python's truth of a value. -/
def Value.truthy : Value → Bool
  | null => false
  | bool b => b
  | int n => n ≠ 0
  | float x => x ≠ .finite 0
  | str s => s ≠ []
  | arr items => !items.isEmpty
  | obj members => !members.isEmpty

/-- `dict.get`: of members with one key, the last one counts. -/
def getMember (members : List (Text × Value)) (key : Text) : Value :=
  ((members.reverse.find? fun member => member.1 = key).map (·.2)).getD .null

/-! ## The machine -/

inductive LoadsError
  | jsonDecodeError
  | unicodeDecodeError
  | recursionError
  | valueError
  deriving DecidableEq, Repr

/-- How deep containers may stand in each other, and how many digits an integer may have. -/
structure Limits where
  nesting : Option Nat := none
  intDigits : Option Nat := none
  deriving DecidableEq, Repr

def allows (limit : Option Nat) (n : Nat) : Bool := limit.all (n ≤ ·)

inductive Phase
  | sign
  | zero
  | int
  | dot
  | frac
  | exponent
  | exponentSign
  | exponentDigits
  deriving DecidableEq, Repr

/-- What is read of a number: `digits` are those before and after the dot. -/
structure Numeral where
  negative : Bool := false
  digits : Nat := 0
  intDigits : Nat := 0
  fracDigits : Nat := 0
  exponentNegative : Bool := false
  exponent : Nat := 0
  deriving DecidableEq, Repr

inductive Escape
  | none
  | start
  | hex (count code : Nat)
  deriving DecidableEq, Repr

/-- What is read of a string, in reverse; `high` says that its last code point is a high surrogate
that was written as an escape. -/
structure Quoted where
  isKey : Bool
  chars : Text := []
  high : Bool := false
  escape : Escape := .none
  deriving DecidableEq, Repr

inductive Mode
  | value
  | valueOrEnd
  | key
  | keyOrEnd
  | colon
  | after
  | text (quoted : Quoted)
  | number (phase : Phase) (numeral : Numeral)
  | literal (rest : Text) (value : Value)
  | done (value : Value)

/-- An open container, with what is in it in reverse. -/
inductive Frame
  | arr (items : List Value)
  | obj (members : List (Text × Value)) (key : Text)

structure State where
  mode : Mode := .value
  stack : List Frame := []

def isWhitespace (c : Nat) : Bool := c = 32 || c = 9 || c = 10 || c = 13

def digit? (c : Nat) : Option Nat := if 48 ≤ c ∧ c ≤ 57 then some (c - 48) else none

def hexDigit? (c : Nat) : Option Nat :=
  if 48 ≤ c ∧ c ≤ 57 then some (c - 48)
  else if 97 ≤ c ∧ c ≤ 102 then some (c - 87)
  else if 65 ≤ c ∧ c ≤ 70 then some (c - 55)
  else none

/-- The state after a complete value. -/
def complete (value : Value) : List Frame → State
  | [] => { mode := .done value }
  | .arr items :: rest => { mode := .after, stack := .arr (value :: items) :: rest }
  | .obj members key :: rest =>
    { mode := .after, stack := .obj ((key, value) :: members) key :: rest }

def openFrame (limits : Limits) (frame : Frame) (mode : Mode) (stack : List Frame) :
    Except LoadsError State :=
  if allows limits.nesting (stack.length + 1) then .ok { mode, stack := frame :: stack }
  else .error .recursionError

/-- The first code point of a value. -/
def beginValue (limits : Limits) (stack : List Frame) (c : Nat) : Except LoadsError State :=
  if c = '"'.toNat then .ok { mode := .text { isKey := false }, stack }
  else if c = 123 then openFrame limits (.obj [] []) .keyOrEnd stack
  else if c = '['.toNat then openFrame limits (.arr []) .valueOrEnd stack
  else if c = 'n'.toNat then .ok { mode := .literal (ofString "ull") .null, stack }
  else if c = 't'.toNat then .ok { mode := .literal (ofString "rue") (.bool true), stack }
  else if c = 'f'.toNat then .ok { mode := .literal (ofString "alse") (.bool false), stack }
  else if c = 'N'.toNat then .ok { mode := .literal (ofString "aN") (.float .nan), stack }
  else if c = 'I'.toNat then
    .ok { mode := .literal (ofString "nfinity") (.float (.infinite false)), stack }
  else if c = '-'.toNat then .ok { mode := .number .sign { negative := true }, stack }
  else
    match digit? c with
    | some 0 => .ok { mode := .number .zero { intDigits := 1 }, stack }
    | some d => .ok { mode := .number .int { digits := d, intDigits := 1 }, stack }
    | none => .error .jsonDecodeError

/-- A comma, or the end of the container. -/
def afterValue (c : Nat) : List Frame → Except LoadsError State
  | [] => .error .jsonDecodeError
  | .arr items :: rest =>
    if c = ','.toNat then .ok { mode := .value, stack := .arr items :: rest }
    else if c = ']'.toNat then .ok (complete (.arr items.reverse) rest)
    else .error .jsonDecodeError
  | .obj members key :: rest =>
    if c = ','.toNat then .ok { mode := .key, stack := .obj members key :: rest }
    else if c = 125 then .ok (complete (.obj members.reverse) rest)
    else .error .jsonDecodeError

/-- A code point after a complete value. -/
def proceed (s : State) (c : Nat) : Except LoadsError State :=
  if isWhitespace c then .ok s
  else
    match s.mode with
    | .after => afterValue c s.stack
    | _ => .error .jsonDecodeError

/-! ### Numbers -/

/-- The number with one more code point, if it goes on. -/
def Numeral.push (numeral : Numeral) (phase : Phase) (c : Nat) : Option (Phase × Numeral) :=
  match phase, digit? c with
  | .sign, some d =>
    some (if d = 0 then .zero else .int, { numeral with digits := d, intDigits := 1 })
  | .int, some d => some (.int, { numeral with
      digits := numeral.digits * 10 + d
      intDigits := numeral.intDigits + 1 })
  | .dot, some d | .frac, some d => some (.frac, { numeral with
      digits := numeral.digits * 10 + d
      fracDigits := numeral.fracDigits + 1 })
  | .exponent, some d | .exponentSign, some d | .exponentDigits, some d =>
    some (.exponentDigits, { numeral with exponent := numeral.exponent * 10 + d })
  | .zero, none | .int, none =>
    if c = '.'.toNat then some (.dot, numeral)
    else if c = 'e'.toNat ∨ c = 'E'.toNat then some (.exponent, numeral)
    else none
  | .frac, none =>
    if c = 'e'.toNat ∨ c = 'E'.toNat then some (.exponent, numeral) else none
  | .exponent, none =>
    if c = '-'.toNat then some (.exponentSign, { numeral with exponentNegative := true })
    else if c = '+'.toNat then some (.exponentSign, numeral)
    else none
  | _, _ => none

def Numeral.int (limits : Limits) (numeral : Numeral) : Except LoadsError Value :=
  if allows limits.intDigits numeral.intDigits then
    .ok (.int (if numeral.negative then -numeral.digits else numeral.digits))
  else .error .valueError

def Numeral.float (numeral : Numeral) : Value :=
  let exponent : Int := if numeral.exponentNegative then -numeral.exponent else numeral.exponent
  .float (.ofDecimal numeral.negative numeral.digits (exponent - numeral.fracDigits))

/-- The number as it is without an exponent. -/
def Numeral.base (limits : Limits) (numeral : Numeral) : Except LoadsError Value :=
  if numeral.fracDigits = 0 then numeral.int limits else .ok numeral.float

/-- The end of a number. A dot or an exponent without digits does not belong to it, and what
stands before it is read first. -/
def endNumber (limits : Limits) (phase : Phase) (numeral : Numeral) : Except LoadsError Value :=
  match phase with
  | .sign => .error .jsonDecodeError
  | .zero | .int => numeral.int limits
  | .frac | .exponentDigits => .ok numeral.float
  | .dot => do
    let _ ← numeral.int limits
    .error .jsonDecodeError
  | .exponent | .exponentSign => do
    let _ ← numeral.base limits
    .error .jsonDecodeError

def stepNumber (limits : Limits) (stack : List Frame) (phase : Phase) (numeral : Numeral)
    (c : Nat) : Except LoadsError State :=
  match numeral.push phase c with
  | some (phase, numeral) => .ok { mode := .number phase numeral, stack }
  | none =>
    if phase = .sign ∧ c = 'I'.toNat then
      .ok { mode := .literal (ofString "nfinity") (.float (.infinite true)), stack }
    else do
      let value ← endNumber limits phase numeral
      proceed (complete value stack) c

/-! ### Strings -/

def isHighSurrogate (c : Nat) : Bool := 0xD800 ≤ c && c ≤ 0xDBFF

def isLowSurrogate (c : Nat) : Bool := 0xDC00 ≤ c && c ≤ 0xDFFF

/-- A code point of the text itself. -/
def Quoted.put (quoted : Quoted) (c : Nat) : Quoted :=
  { quoted with chars := c :: quoted.chars, high := false, escape := .none }

/-- A code point that is written as an escape of four digits; two surrogates are one. -/
def Quoted.putEscaped (quoted : Quoted) (code : Nat) : Quoted :=
  match quoted.chars with
  | lead :: chars =>
    if quoted.high && isLowSurrogate code then { quoted with
      chars := (0x10000 + (lead - 0xD800) * 0x400 + (code - 0xDC00)) :: chars
      high := false
      escape := .none }
    else { quoted.put code with high := isHighSurrogate code }
  | [] => { quoted.put code with high := isHighSurrogate code }

/-- What a backslash and `c` stand for. -/
def simpleEscape? (c : Nat) : Option Nat :=
  if c = '"'.toNat ∨ c = '\\'.toNat ∨ c = '/'.toNat then some c
  else if c = 'b'.toNat then some 8
  else if c = 'f'.toNat then some 12
  else if c = 'n'.toNat then some 10
  else if c = 'r'.toNat then some 13
  else if c = 't'.toNat then some 9
  else none

/-- The end of a string. -/
def endText (quoted : Quoted) : List Frame → State
  | .obj members key :: rest =>
    if quoted.isKey then
      { mode := .colon, stack := .obj members quoted.chars.reverse :: rest }
    else complete (.str quoted.chars.reverse) (.obj members key :: rest)
  | stack => complete (.str quoted.chars.reverse) stack

def stepText (stack : List Frame) (quoted : Quoted) (c : Nat) : Except LoadsError State :=
  match quoted.escape with
  | .none =>
    if c = '"'.toNat then .ok (endText quoted stack)
    else if c = '\\'.toNat then .ok { mode := .text { quoted with escape := .start }, stack }
    else if c ≤ 0x1F then .error .jsonDecodeError
    else .ok { mode := .text (quoted.put c), stack }
  | .start =>
    if c = 'u'.toNat then .ok { mode := .text { quoted with escape := .hex 0 0 }, stack }
    else
      match simpleEscape? c with
      | some code => .ok { mode := .text (quoted.put code), stack }
      | none => .error .jsonDecodeError
  | .hex count code =>
    match hexDigit? c with
    | some d =>
      if count = 3 then .ok { mode := .text (quoted.putEscaped (code * 16 + d)), stack }
      else
        .ok { mode := .text { quoted with escape := .hex (count + 1) (code * 16 + d) }, stack }
    | none => .error .jsonDecodeError

/-! ### Steps -/

def step (limits : Limits) (s : State) (c : Nat) : Except LoadsError State :=
  match s.mode with
  | .value => if isWhitespace c then .ok s else beginValue limits s.stack c
  | .valueOrEnd =>
    if isWhitespace c then .ok s
    else if c = ']'.toNat then .ok (complete (.arr []) s.stack.tail)
    else beginValue limits s.stack c
  | .key =>
    if isWhitespace c then .ok s
    else if c = '"'.toNat then .ok { s with mode := .text { isKey := true } }
    else .error .jsonDecodeError
  | .keyOrEnd =>
    if isWhitespace c then .ok s
    else if c = 125 then .ok (complete (.obj []) s.stack.tail)
    else if c = '"'.toNat then .ok { s with mode := .text { isKey := true } }
    else .error .jsonDecodeError
  | .colon =>
    if isWhitespace c then .ok s
    else if c = ':'.toNat then .ok { s with mode := .value }
    else .error .jsonDecodeError
  | .after | .done _ => proceed s c
  | .text quoted => stepText s.stack quoted c
  | .number phase numeral => stepNumber limits s.stack phase numeral c
  | .literal rest value =>
    match rest with
    | [] => .error .jsonDecodeError
    | [last] => if c = last then .ok (complete value s.stack) else .error .jsonDecodeError
    | next :: rest =>
      if c = next then .ok { s with mode := .literal rest value } else .error .jsonDecodeError

/-- The end of the text. -/
def finish (limits : Limits) (s : State) : Except LoadsError Value :=
  match s.mode with
  | .done value => .ok value
  | .number phase numeral => do
    let value ← endNumber limits phase numeral
    if s.stack.isEmpty then .ok value else .error .jsonDecodeError
  | _ => .error .jsonDecodeError

def scan (limits : Limits) (s : State) : Text → Except LoadsError Value
  | [] => finish limits s
  | c :: rest => do
    let s ← step limits s c
    scan limits s rest

/-- `json.loads` of bytes -/
def loads (limits : Limits) (bytes : List UInt8) : Except LoadsError Value :=
  match Encodings.decodeBytes bytes with
  | none => .error .unicodeDecodeError
  | some text => scan limits {} text

/-! ## What a limit changes -/

/-- The result without limits, or the error of a limit. -/
def Cut {α : Type} (limited unlimited : Except LoadsError α) : Prop :=
  limited = unlimited ∨ limited = .error .recursionError ∨ limited = .error .valueError

theorem Cut.refl {α : Type} (result : Except LoadsError α) : Cut result result := .inl rfl

theorem Cut.bind {α β : Type} {a b : Except LoadsError α} {f g : α → Except LoadsError β}
    (h : Cut a b) (hrest : ∀ x, Cut (f x) (g x)) : Cut (a >>= f) (b >>= g) := by
  rcases h with rfl | rfl | rfl
  · cases a with
    | error e => exact .inl rfl
    | ok x => exact hrest x
  · exact .inr (.inl rfl)
  · exact .inr (.inr rfl)

/-- What is read under the limits is what is read without. -/
theorem Cut.of_ok {α : Type} {limited unlimited : Except LoadsError α} {value : α}
    (h : Cut limited unlimited) (hok : limited = .ok value) : unlimited = .ok value := by
  rcases h with rfl | h | h
  · exact hok
  · rw [h] at hok
    cases hok
  · rw [h] at hok
    cases hok

/-- A text that is refused as it is no JSON is no JSON without the limits. -/
theorem Cut.of_error {α : Type} {limited unlimited : Except LoadsError α}
    (h : Cut limited unlimited) (herror : limited = .error .jsonDecodeError) :
    unlimited = .error .jsonDecodeError := by
  rcases h with rfl | h | h
  · exact herror
  · rw [h] at herror
    cases herror
  · rw [h] at herror
    cases herror

variable {limits : Limits}

theorem openFrame_cut (frame : Frame) (mode : Mode) (stack : List Frame) :
    Cut (openFrame limits frame mode stack) (openFrame {} frame mode stack) := by
  unfold openFrame
  split
  · exact .inl rfl
  · exact .inr (.inl rfl)

theorem Numeral.int_cut (numeral : Numeral) : Cut (numeral.int limits) (numeral.int {}) := by
  unfold Numeral.int
  split
  · exact .inl rfl
  · exact .inr (.inr rfl)

theorem Numeral.base_cut (numeral : Numeral) : Cut (numeral.base limits) (numeral.base {}) := by
  unfold Numeral.base
  split
  · exact numeral.int_cut
  · exact .refl _

theorem beginValue_cut (stack : List Frame) (c : Nat) :
    Cut (beginValue limits stack c) (beginValue {} stack c) := by
  unfold beginValue
  repeat' split
  all_goals first | exact .inl rfl | exact openFrame_cut _ _ _

theorem endNumber_cut (phase : Phase) (numeral : Numeral) :
    Cut (endNumber limits phase numeral) (endNumber {} phase numeral) := by
  cases phase with
  | sign | frac | exponentDigits => exact .refl _
  | zero | int => exact numeral.int_cut
  | dot => exact numeral.int_cut.bind fun _ => .refl _
  | exponent | exponentSign => exact numeral.base_cut.bind fun _ => .refl _

theorem stepNumber_cut (stack : List Frame) (phase : Phase) (numeral : Numeral) (c : Nat) :
    Cut (stepNumber limits stack phase numeral c) (stepNumber {} stack phase numeral c) := by
  unfold stepNumber
  split
  · exact .refl _
  · split
    · exact .refl _
    · exact (endNumber_cut phase numeral).bind fun _ => .refl _

theorem step_cut (s : State) (c : Nat) : Cut (step limits s c) (step {} s c) := by
  unfold step
  split
  case h_1 =>
    split
    · exact .refl _
    · exact beginValue_cut _ _
  case h_2 =>
    split
    · exact .refl _
    · split
      · exact .refl _
      · exact beginValue_cut _ _
  all_goals first | exact stepNumber_cut _ _ _ _ | exact .refl _

theorem finish_cut (s : State) : Cut (finish limits s) (finish {} s) := by
  unfold finish
  split
  case h_2 => exact (endNumber_cut _ _).bind fun _ => .refl _
  all_goals exact .refl _

theorem scan_cut (s : State) (text : Text) : Cut (scan limits s text) (scan {} s text) := by
  induction text generalizing s with
  | nil => exact finish_cut s
  | cons c rest ih => exact (step_cut s c).bind fun s => ih s

theorem loads_cut (bytes : List UInt8) : Cut (loads limits bytes) (loads {} bytes) := by
  unfold loads
  split
  · exact .refl _
  · exact scan_cut _ _

end JsonText
