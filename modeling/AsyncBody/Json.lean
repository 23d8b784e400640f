/-!
Data values and their text. A number is a decimal: an integer with a count of decimal places.
-/
namespace AsyncBody

structure Decimal where
  digits : Int
  places : Nat
deriving DecidableEq, Repr

inductive Json where
  | null
  | bool (value : Bool)
  | number (value : Decimal)
  | string (value : String)
  | array (items : List Json)
  | object (fields : List (String × Json))

instance : Inhabited Json := ⟨.null⟩

namespace Json

def nat (n : Nat) : Json := .number ⟨n,0⟩

def ofOption {α : Type} (encode : α → Json) : Option α → Json
  | none => .null
  | some a => encode a

def field? (name : String) : Json → Option Json
  | .object fields => fields.lookup name
  | _ => none

def bool? : Json → Option Bool
  | .bool b => some b
  | _ => none

def string? : Json → Option String
  | .string s => some s
  | _ => none

def number? : Json → Option Decimal
  | .number d => some d
  | _ => none

/-- Only a number that is written without decimal places is a natural number. -/
def nat? : Json → Option Nat
  | .number ⟨.ofNat n,0⟩ => some n
  | _ => none

def array? : Json → Option (List Json)
  | .array items => some items
  | _ => none

/-- A null stands for a value that is left out. -/
def optional? {α : Type} (decode : Json → Option α) : Json → Option (Option α)
  | .null => some none
  | j => (decode j).map some

/-- Digits of a number in base sixteen, at least `width` of them. -/
def hexDigits (width n : Nat) : String :=
  let digits := Nat.toDigits 16 n
  String.ofList (List.replicate (width - digits.length) '0' ++ digits)

def escapeChar (c : Char) : String :=
  if c = '"' then "\\\""
  else if c = '\\' then "\\\\"
  else if c = '\n' then "\\n"
  else if c = '\r' then "\\r"
  else if c = '\t' then "\\t"
  else if c.toNat = 8 then "\\b"
  else if c.toNat = 12 then "\\f"
  else if c.toNat < 32 then "\\u" ++ hexDigits 4 c.toNat
  else c.toString

def quote (s : String) : String :=
  "\"" ++ String.join (s.toList.map escapeChar) ++ "\""

/-- The decimal point stands `places` digits from the right. -/
def decimalText (d : Decimal) : String :=
  let sign := if d.digits < 0 then "-" else ""
  let digits := Nat.toDigits 10 d.digits.natAbs
  if d.places = 0 then sign ++ String.ofList digits
  else
    let padded := List.replicate (d.places + 1 - digits.length) '0' ++ digits
    let whole := padded.length - d.places
    sign ++ String.ofList (padded.take whole) ++ "." ++ String.ofList (padded.drop whole)

def indentation (depth : Nat) : String := String.ofList (List.replicate (2 * depth) ' ')

/-- Lines of a container: one entry a line, two blanks deeper than the brackets. -/
def bracketed (opening closing : String) (depth : Nat) : List String → String
  | [] => opening ++ closing
  | entries =>
    let inner := "\n" ++ indentation (depth + 1)
    opening ++ inner ++ String.intercalate ("," ++ inner) entries ++
      "\n" ++ indentation depth ++ closing

mutual

/-- Text of a value, each entry of an array or object on a line of its own. -/
def pretty (depth : Nat) : Json → String
  | .null => "null"
  | .bool b => if b then "true" else "false"
  | .number d => decimalText d
  | .string s => quote s
  | .array items => bracketed "[" "]" depth (prettyItems (depth + 1) items)
  | .object fields => bracketed "\x7b" "\x7d" depth (prettyFields (depth + 1) fields)

def prettyItems (depth : Nat) : List Json → List String
  | [] => []
  | item :: rest => pretty depth item :: prettyItems depth rest

def prettyFields (depth : Nat) : List (String × Json) → List String
  | [] => []
  | (name, value) :: rest => (quote name ++ ": " ++ pretty depth value) :: prettyFields depth rest

end

end Json
end AsyncBody
