import Mathlib.Algebra.Order.Ring.Rat
import Mathlib.Data.List.Dedup
import XanhTab.Data.Association

/-!
# JSON documents

Parsed documents and schemas over them.  A number that is written as an integer
is told apart from one with a fraction or an exponent, and an object keeps all of
its members, since readers may treat these differently.  A schema sees the value
of a number only, and of members with the same name the last one.
-/

namespace XanhTab

namespace Json

inductive Number
  /-- Written as an integer, with or without a minus sign. -/
  | integer (negative : Bool) (magnitude : Nat)
  /-- Written with a fraction or an exponent. -/
  | decimal (value : ℚ)
  deriving DecidableEq

def Number.value : Number → ℚ
  | integer false magnitude => magnitude
  | integer true magnitude => -magnitude
  | decimal value => value

end Json

inductive Json
  | null
  | bool (value : Bool)
  | number (number : Json.Number)
  | string (text : String)
  | array (elements : List Json)
  | object (members : List (String × Json))

namespace Json

def isArray : Json → Bool
  | array _ => true
  | _ => false

/-- A name comes twice. -/
def repeats : Json → Bool
  | object members => ¬ (members.map Prod.fst).Nodup
  | _ => false

/-- The last value under a name. -/
def last (name : String) (members : List (String × Json)) : Option Json :=
  members.reverse.lookup name

/-! ## Members -/

variable {name : String} {members : List (String × Json)}

/-- Where no name comes twice, the last value under a name is the only one. -/
theorem last_eq_lookup (distinct : (members.map Prod.fst).Nodup) :
    last name members = members.lookup name := by
  have reversed : (members.reverse.map Prod.fst).Nodup := by
    rw [List.map_reverse]
    exact List.nodup_reverse.mpr distinct
  apply Option.ext
  intro value
  rw [last, Association.lookup_eq_some_iff reversed, Association.lookup_eq_some_iff distinct,
    List.mem_reverse]

theorem last_eq_none_iff :
    last name members = none ↔ name ∉ members.map Prod.fst := by
  rw [last, Association.lookup_eq_none_iff, List.map_reverse, List.mem_reverse]

end Json

/-! ## Schemas -/

/-- A schema is what it accepts. -/
abbrev Schema := Json → Bool

namespace Schema

/-- All of the keywords. -/
def all (keywords : List Schema) : Schema :=
  fun json => keywords.all fun keyword => keyword json

def anyOf (schemas : List Schema) : Schema :=
  fun json => schemas.any fun schema => schema json

def isObject : Schema
  | .object _ => true
  | _ => false

def isString : Schema
  | .string _ => true
  | _ => false

/-- Any number without a fractional part is an integer. -/
def isInteger : Schema
  | .number number => number.value.den = 1
  | _ => false

def constNumber (value : ℚ) : Schema
  | .number number => number.value = value
  | _ => false

def constString (value : String) : Schema
  | .string text => text = value
  | _ => false

def enumeration (values : List String) : Schema
  | .string text => values.contains text
  | _ => false

def minimum (bound : ℚ) : Schema
  | .number number => bound ≤ number.value
  | _ => true

def maximum (bound : ℚ) : Schema
  | .number number => number.value ≤ bound
  | _ => true

/-- A regular expression, or a format that is asserted. -/
def matching (accepts : String → Bool) : Schema
  | .string text => accepts text
  | _ => true

def required (names : List String) : Schema
  | .object members => names.all fun name => (members.map Prod.fst).contains name
  | _ => true

def minProperties (number : Nat) : Schema
  | .object members => number ≤ (members.map Prod.fst).dedup.length
  | _ => true

/-- Members with these names satisfy their schemas. -/
def properties (schemas : List (String × Schema)) : Schema
  | .object members => schemas.all fun entry => (Json.last entry.1 members).all entry.2
  | _ => true

/-- There are no members with other names. -/
def noAdditional (names : List String) : Schema
  | .object members => members.all fun member => names.contains member.1
  | _ => true

end Schema

end XanhTab
