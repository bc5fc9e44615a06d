import LayeredConfig.Decimal.Binary64
import LayeredConfig.Text.Search
import LayeredConfig.Yaml.Fault
import LayeredConfig.Yaml.Token.Scalar

/-
  The values that scalar texts stand for: null, booleans, integers in four bases, and decimal
  floating-point numbers.
-/

namespace LayeredConfig.Yaml

/-- A YAML number. -/
inductive Number where
  | int (n : Int)
  | float (x : Binary64)
  | infinity (negative : Bool)
  | nan
  deriving Repr, DecidableEq

/-- What a plain scalar stands for. -/
inductive Plain where
  | null
  | bool (b : Bool)
  | number (n : Number)
  | text
  deriving Repr, DecidableEq

namespace Plain

/-- The words for null. -/
def isNullWord (s : String) : Bool := s ∈ ["~", "null", "Null", "NULL"]

/-- The words for booleans. -/
def bool? (s : String) : Option Bool :=
  if s ∈ ["true", "True", "TRUE"] then some true
  else if s ∈ ["false", "False", "FALSE"] then some false
  else none

/-- The value of a non-empty run of digits of a base. -/
def digits? (base : Nat) (ds : List Char) : Option Nat :=
  if ds.isEmpty then none
  else
    ds.foldlM
      (fun n c =>
        match hexValue? c with
        | some d => if d < base then some (base * n + d) else none
        | none => none)
      0

/-- A run of digits that begins with a needless zero is a text. -/
def hasLeadingZero (ds : List Char) : Bool :=
  match ds with
  | '0' :: c :: rest => (c :: rest).all Char.isDigit
  | _ => false

/-- An integer without sign: decimal, or with a prefix for another base. -/
def natural? : List Char → Option Nat
  | '0' :: 'x' :: ds => digits? 16 ds
  | '0' :: 'o' :: ds => digits? 8 ds
  | '0' :: 'b' :: ds => digits? 2 ds
  | ds => if hasLeadingZero ds then none else digits? 10 ds

/-- An integer of any size, and whether it has a minus sign. -/
def integer? (s : List Char) : Option (Bool × Nat) :=
  match s with
  | '-' :: ds => (natural? ds).map (true, ·)
  | '+' :: ds => (natural? ds).map (false, ·)
  | ds => (natural? ds).map (false, ·)

/-- The integer of a text, if it is one: integers of 64 bits are values, larger ones of 128 bits
are refused, and all others are no integers. -/
def int? (s : List Char) : Except Fault (Option Int) :=
  match integer? s with
  | some (false, n) =>
    if n < Nat.pow 2 64 then .ok (some n)
    else if n < Nat.pow 2 128 then .error .badNumber
    else .ok none
  | some (true, n) =>
    if n ≤ Nat.pow 2 63 then .ok (some (-(n : Int)))
    else if n ≤ Nat.pow 2 127 then .error .badNumber
    else .ok none
  | none => .ok none

/-- A floating-point number, finite or not. A finite numeral that is too large is none. -/
def float? (s : String) : Option Number :=
  let chars := s.toList
  let unsigned := if chars.head? = some '+' then chars.drop 1 else chars
  let infinities := [".inf", ".Inf", ".INF"]
  if String.ofList unsigned ∈ infinities then some (.infinity false)
  else if chars.head? = some '-' ∧ String.ofList (chars.drop 1) ∈ infinities then
    some (.infinity true)
  else if s ∈ [".nan", ".NaN", ".NAN"] then some .nan
  else if unsigned.length < chars.length ∧ (unsigned.head? = some '+' ∨ unsigned.head? = some '-')
  then none
  else ((Numeral.read? unsigned).bind Numeral.toBinary64).map .float

/-- What a plain scalar stands for. -/
def resolve (s : String) : Except Fault Plain := do
  if s.isEmpty || isNullWord s then return .null
  if let some b := bool? s then return .bool b
  if let some n ← int? s.toList then return .number (.int n)
  if hasLeadingZero (Numeral.takeSign s.toList).2 then return .text
  match float? s with
  | some x => return .number x
  | none => return .text

end Plain

end LayeredConfig.Yaml
