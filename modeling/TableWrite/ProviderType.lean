import TableWrite.Value

set_option autoImplicit false

namespace TableWrite

inductive ProviderType where
  | bit
  | tinyInt
  | smallInt
  | integer
  | bigInt
  | decimal
  | numeric
  | money
  | real
  | double
  | char
  | varChar
  | nChar
  | nVarChar
  | longVarChar
  | date
  | time
  | dateTime
  | timeStamp
  | uniqueIdentifier
  | binary
  | varBinary
  | longBinary
  | xml
deriving DecidableEq

namespace ProviderType

def all : List ProviderType :=
  [bit, tinyInt, smallInt, integer, bigInt, decimal, numeric, money, real, double, char, varChar,
   nChar, nVarChar, longVarChar, date, time, dateTime, timeStamp, uniqueIdentifier, binary,
   varBinary, longBinary, xml]

/-- The name by which documents refer to the type. -/
def name : ProviderType → String
  | bit => "Bit"
  | tinyInt => "TinyInt"
  | smallInt => "SmallInt"
  | integer => "Integer"
  | bigInt => "BigInt"
  | decimal => "Decimal"
  | numeric => "Numeric"
  | money => "Money"
  | real => "Real"
  | double => "Double"
  | char => "Char"
  | varChar => "VarChar"
  | nChar => "NChar"
  | nVarChar => "NVarChar"
  | longVarChar => "LongVarChar"
  | date => "Date"
  | time => "Time"
  | dateTime => "DateTime"
  | timeStamp => "TimeStamp"
  | uniqueIdentifier => "UniqueIdentifier"
  | binary => "Binary"
  | varBinary => "VarBinary"
  | longBinary => "LongBinary"
  | xml => "Xml"

def ofName? (s : String) : Option ProviderType := all.find? (·.name == s)

theorem ofName?_name (t : ProviderType) : ofName? t.name = some t := by cases t <;> decide

/-- The keyword of the type: `LONG VARCHAR` and `LONG BINARY` are two words, every other one is
the name in upper case. -/
def keyword : ProviderType → String
  | longVarChar => "LONG VARCHAR"
  | longBinary => "LONG BINARY"
  | t => .ofList (t.name.toList.map Char.toUpper)

/-- Row versions are maintained by the server. -/
def isRowVersion : ProviderType → Bool
  | timeStamp => true
  | _ => false

/-- The type a provider takes a value to have if nothing else is known. -/
def ofValue : Value → ProviderType
  | .null => varChar
  | .boolean _ => bit
  | .integer _ => bigInt
  | .float _ => double
  | .uuid _ => uniqueIdentifier
  | .timestamp _ => dateTime
  | .text _ => varChar
  | .bytes _ => varBinary

end ProviderType
end TableWrite
