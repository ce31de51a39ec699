import ChatGateway.Calendar
import ChatGateway.Decode.Basic
import ChatGateway.Table

/-!
Identifiers of the service. An identifier is kept as the text that was sent; its number, when it
has one, tells when it was made: above the low 22 bits stand the milliseconds since the first
second of 2015.
-/

namespace ChatGateway

structure Snowflake where
  text : String
  deriving DecidableEq, Repr, Inhabited

namespace Snowflake

instance : Ord Snowflake := ⟨compareOn text⟩

instance : Std.TransOrd Snowflake := inferInstanceAs (Std.TransCmp (compareOn text))

instance : Std.LawfulEqOrd Snowflake where
  eq_of_compare {a b} h := by
    have : a.text = b.text := eq_of_compareOn h
    cases a
    cases b
    simpa using this

def ofNat (n : Nat) : Snowflake := ⟨String.ofList (Decimal.write n)⟩

/-- The number that an identifier spells, which has to fit a word of 64 bits. -/
def number? (id : Snowflake) : Option UInt64 :=
  (Decimal.readBelow? UInt64.size id.text.toList).map UInt64.ofNat

/-- Unix milliseconds of the first second of 2015. -/
def epoch : UInt64 := 1420070400000

/-- The Unix milliseconds at which the identifier of a number was made. -/
def made (n : UInt64) : UInt64 := (n >>> 22) + epoch

def timestamp? (calendar : Calendar) (id : Snowflake) : Option calendar.Moment :=
  id.number?.bind fun n => calendar.ofMilliseconds? (made n).toInt64

def toJson (id : Snowflake) : Json := .string id.text

def decode : Decoder Snowflake := fun o => (Decoder.string o).map Snowflake.mk

example : ((ofNat 175928847299117063).timestamp? .gregorian).map Calendar.gregorian.milliseconds =
    some 1462015105796 := by decide +kernel

end Snowflake

end ChatGateway
