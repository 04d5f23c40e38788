import InlineFormula.Text.Quoted

/-!
Loosely typed data, as settings, rule tags and choices receive it before it is known to fit.
A datum can be shown, compared, and asked for its truth and for the name of its type.
-/

namespace InlineFormula

/-- A decimal is `digits` divided by ten to the power of `places`. The fields of an object keep
the order in which they were given, and no two of them have one name. -/
inductive Datum where
  | null
  | bool (value : Bool)
  | int (value : Int)
  | decimal (digits : Int) (places : Nat)
  | text (value : String)
  | list (items : List Datum)
  | object (fields : List (String × Datum))
  deriving Inhabited

namespace Datum

def decimalText (digits : Int) (places : Nat) : String :=
  let shown := Nat.toDigits 10 digits.natAbs
  let padded := List.replicate (places + 1 - shown.length) '0' ++ shown
  let whole := padded.length - places
  let sign := if digits < 0 then ['-'] else []
  String.ofList (sign ++ padded.take whole ++ '.' :: padded.drop whole)

mutual
/-- The literal form shows texts in quotes, also within lists and objects. -/
def literal : Datum → String
  | .null => "None"
  | .bool true => "True"
  | .bool false => "False"
  | .int value => toString value
  | .decimal digits places => decimalText digits places
  | .text value => Text.quoted value
  | .list items => "[" ++ ", ".intercalate (literals items) ++ "]"
  | .object fields => "\x7b" ++ ", ".intercalate (fieldLiterals fields) ++ "\x7d"

def literals : List Datum → List String
  | [] => []
  | item :: rest => item.literal :: literals rest

def fieldLiterals : List (String × Datum) → List String
  | [] => []
  | (name, value) :: rest => (Text.quoted name ++ ": " ++ value.literal) :: fieldLiterals rest
end

/-- The plain form of a text is the text itself; all else has its literal form. -/
def plain : Datum → String
  | .text value => value
  | datum => datum.literal

def typeName : Datum → String
  | .null => "NoneType"
  | .bool _ => "bool"
  | .int _ => "int"
  | .decimal _ _ => "float"
  | .text _ => "str"
  | .list _ => "list"
  | .object _ => "dict"

/-- Empty data, zero and false count as false, all else as true. -/
def asBool : Datum → Bool
  | .null => false
  | .bool value => value
  | .int value => value != 0
  | .decimal digits _ => digits != 0
  | .text value => !value.isEmpty
  | .list items => !items.isEmpty
  | .object fields => !fields.isEmpty

/-- Truth values are the numbers one and zero. -/
def number? : Datum → Option (Int × Nat)
  | .bool value => some (if value then 1 else 0, 0)
  | .int value => some (value, 0)
  | .decimal digits places => some (digits, places)
  | _ => none

def sameNumber (left right : Int × Nat) : Bool :=
  left.1 * Int.ofNat (Nat.pow 10 right.2) == right.1 * Int.ofNat (Nat.pow 10 left.2)

mutual
/-- Numbers agree by value, whatever their type; texts, lists and objects agree part by part, and
the order of an object's fields does not count. -/
def agrees : Datum → Datum → Bool
  | .null, .null => true
  | .text left, .text right => left == right
  | .list left, .list right => allAgree left right
  | .object left, .object right => left.length == right.length && fieldsAgree left right
  | left, right =>
      match left.number?, right.number? with
      | some leftNumber, some rightNumber => sameNumber leftNumber rightNumber
      | _, _ => false

def allAgree : List Datum → List Datum → Bool
  | [], [] => true
  | left :: lefts, right :: rights => left.agrees right && allAgree lefts rights
  | _, _ => false

def fieldsAgree : List (String × Datum) → List (String × Datum) → Bool
  | [], _ => true
  | (name, left) :: lefts, rights =>
      (match rights.lookup name with
        | some right => left.agrees right
        | none => false) && fieldsAgree lefts rights
end

end Datum

end InlineFormula
