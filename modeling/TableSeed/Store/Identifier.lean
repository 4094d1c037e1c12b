/-!
# Quoted identifiers

A name in a statement stands between double quotes, and a quote in the name is written twice. A
reader ends at the first quote that is not followed by another one, so a name that is written this
way is read back whole, whatever it holds but the null character, which ends every statement.
-/

namespace TableSeed.Identifier

/-- The characters of a name with each quote written twice. -/
def doubled : List Char → List Char
  | [] => []
  | c :: rest => if c = '"' then '"' :: '"' :: doubled rest else c :: doubled rest

/-- A name between quotes. -/
def quoted (name : List Char) : List Char := '"' :: (doubled name ++ ['"'])

/-- A name and what follows its closing quote, from behind the opening quote. -/
def readRest : List Char → Option (List Char × List Char)
  | [] => none
  | '"' :: '"' :: rest => (readRest rest).map fun r => ('"' :: r.1, r.2)
  | c :: rest =>
    if c = '"' then some ([], rest)
    else if c.toNat = 0 then none
    else (readRest rest).map fun r => (c :: r.1, r.2)

/-- Reads a quoted name: the name and what follows it. -/
def read? : List Char → Option (List Char × List Char)
  | '"' :: rest => readRest rest
  | _ => none

/-- Whether a statement can hold the name. -/
def isReadable (name : String) : Bool := name.toList.all (·.toNat ≠ 0)

/-- The name as it stands in a statement. -/
def text (name : String) : String := String.ofList (quoted name.toList)

end TableSeed.Identifier
