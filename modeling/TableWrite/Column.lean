import TableWrite.ProviderType

set_option autoImplicit false

namespace TableWrite

structure Column where
  name : String
  type : ProviderType
  /-- The database numbers new rows in this column. -/
  autoIncrement : Bool
  /-- The database changes this token with every write. -/
  serverToken : Bool
  /-- The writer changes this token: a number that starts at one and grows with every update. -/
  versionToken : Bool
  computed : Bool
  hasDefault : Bool
  primaryKey : Bool
  /-- The expression by which the database fills the column. -/
  defaultText : String
  maxLength : Int64
  precision : UInt8
  scale : UInt8
deriving DecidableEq

namespace Column

/-- A column of which nothing is known. -/
def blank : Column :=
  ⟨"", .integer, false, false, false, false, false, false, "", 0, 0, 0⟩

instance : Inhabited Column := ⟨blank⟩

/-- Neither numbered by the database nor a token. -/
def ordinary (c : Column) : Bool := !c.autoIncrement && !c.serverToken && !c.versionToken

/-- Does the text hold the word? -/
def holds (word : List Char) : List Char → Bool
  | [] => word.isEmpty
  | c :: rest => word.isPrefixOf (c :: rest) || holds word rest

/-- Does the default make a unique identifier in the database? The functions are known by names in
any case. Of the letters outside ASCII only two have one of ASCII in their lower case: the Kelvin
sign, whose `k` no name has, and the dotted `I`, whose dot stays behind its `i`. -/
def generatesIdentifier (c : Column) : Bool :=
  let text := c.defaultText.toList.map Char.toLower
  c.hasDefault && (holds "newid".toList text || holds "newsequentialid".toList text)

end Column
end TableWrite
