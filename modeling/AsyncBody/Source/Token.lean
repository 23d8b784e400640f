import AsyncBody.Tree.Basic
import AsyncBody.Text.Blank
import AsyncBody.Text.Identifier

/-!
Tokens and how each kind of them is read from the front of a text. A reader gives the token, the
characters that it takes, and the rest; together the two are the text that it was given.
-/
namespace AsyncBody.Source

inductive Token where
  | word (text : String)
  | privateName (text : String)
  | number (raw : String)
  | bigint (raw : String)
  | string (value raw : String)
  | mark (text : String)
  | stop
deriving DecidableEq, Repr

/-- The front of a text that a reader has taken, as a token, and what follows it. -/
structure Taken where
  token : Token
  width : Nat
  rest : List Char

def hexValue? (c : Char) : Option Nat :=
  if '0' ≤ c ∧ c ≤ '9' then some (c.toNat - 48)
  else if 'a' ≤ c ∧ c ≤ 'f' then some (c.toNat - 87)
  else if 'A' ≤ c ∧ c ≤ 'F' then some (c.toNat - 55)
  else none

def hexNumber? (cs : List Char) : Option Nat :=
  if cs.isEmpty then none
  else cs.foldl (fun n c => do return (← n) * 16 + (← hexValue? c)) (some 0)

def charOfPoint? (n : Nat) : Option Char := if n.isValidChar then some (Char.ofNat n) else none

def charOfPair? (high low : Nat) : Option Char :=
  if 0xD800 ≤ high ∧ high < 0xDC00 ∧ 0xDC00 ≤ low ∧ low < 0xE000 then
    charOfPoint? (0x10000 + (high - 0xD800) * 0x400 + (low - 0xDC00))
  else none

def simpleEscape (c : Char) : Char :=
  match c with
  | 'n' => '\n'
  | 't' => '\t'
  | 'r' => '\r'
  | 'b' => Char.ofNat 8
  | 'f' => Char.ofNat 12
  | 'v' => Char.ofNat 11
  | other => other

/-- The value of what follows a backslash: the characters that it stands for, how many characters
of the text it takes, or nothing if it is malformed. -/
def escape? : List Char → Option (List Char × Nat)
  | 'x' :: a :: b :: _ => do
    return ([← charOfPoint? (← hexNumber? [a, b])], 3)
  | 'u' :: '{' :: rest => do
    let digits := rest.takeWhile (· != '}')
    guard (digits.length < rest.length)
    return ([← charOfPoint? (← hexNumber? digits)], digits.length + 3)
  | 'u' :: a :: b :: c :: d :: rest => do
    let high ← hexNumber? [a, b, c, d]
    match charOfPoint? high, rest with
    | some char, _ => return ([char], 5)
    | none, '\\' :: 'u' :: e :: f :: g :: h :: _ =>
      return ([← charOfPair? high (← hexNumber? [e, f, g, h])], 11)
    | none, _ => none
  | '\r' :: '\n' :: _ => some ([], 2)
  | '0' :: next :: _ => if next.isDigit then none else some ([Char.ofNat 0], 1)
  | ['0'] => some ([Char.ofNat 0], 1)
  | c :: _ =>
    if isLineEnd c then some ([], 1)
    else if c.isDigit || c = 'x' || c = 'u' then none
    else some ([simpleEscape c], 1)
  | [] => none

/-- Reads a string up to the quote that closes it: its value reversed, and the characters taken.
While `pending` is positive, characters belong to an escape whose value is known already. -/
def stringBody (quote : Char) : Nat → List Char → Nat → List Char → Option (List Char × Nat)
  | _, _, _, [] => none
  | pending + 1, value, taken, _ :: rest => stringBody quote pending value (taken + 1) rest
  | 0, value, taken, c :: rest =>
    if c = quote then some (value.reverse, taken + 1)
    else if c = '\n' || c = '\r' then none
    else if c = '\\' then
      match escape? rest with
      | some (chars, count) => stringBody quote count (chars.reverse ++ value) (taken + 1) rest
      | none => none
    else stringBody quote 0 (c :: value) (taken + 1) rest

def takeToken (count : Nat) (text : List Char) (token : String → Token) : Taken :=
  let front := text.take count
  ⟨token (String.ofList front),width front,text.drop count⟩

def stringToken (quote : Char) (rest : List Char) : Option Taken := do
  let (value, taken) ← stringBody quote 0 [] 0 rest
  return takeToken (taken + 1) (quote :: rest) (.string (String.ofList value))

def isDigitOf (base : Nat) (c : Char) : Bool :=
  match hexValue? c with
  | some n => n < base
  | none => false

/-- Digits of a base, with single underscores between them. -/
def digitCount (base : Nat) (cs : List Char) : Nat :=
  (cs.takeWhile fun c => isDigitOf base c || c = '_').length

def exponentCount : List Char → Nat
  | e :: sign :: rest =>
    if e = 'e' || e = 'E' then
      if sign = '+' || sign = '-' then
        match digitCount 10 rest with
        | 0 => 0
        | n => n + 2
      else
        match digitCount 10 (sign :: rest) with
        | 0 => 0
        | n => n + 1
    else 0
  | _ => 0

def decimalCount (cs : List Char) : Nat :=
  let whole := digitCount 10 cs
  let fraction := match cs.drop whole with
    | '.' :: rest => digitCount 10 rest + 1
    | _ => 0
  whole + fraction + exponentCount (cs.drop (whole + fraction))

/-- The base that a prefix of two characters names. -/
def radix? : List Char → Option Nat
  | '0' :: 'x' :: _ | '0' :: 'X' :: _ => some 16
  | '0' :: 'o' :: _ | '0' :: 'O' :: _ => some 8
  | '0' :: 'b' :: _ | '0' :: 'B' :: _ => some 2
  | _ => none

/-- A number must not run into an identifier. -/
def numberToken (cs : List Char) : Option Taken :=
  let count := match radix? cs with
    | some base => 2 + digitCount base (cs.drop 2)
    | none => decimalCount cs
  let isBig := cs[count]? == some 'n'
  let taken := if isBig then takeToken (count + 1) cs .bigint else takeToken count cs .number
  match taken.rest with
  | c :: _ => if Text.isIdContinue c then none else some taken
  | [] => some taken

/-- The number that digits of a base make; underscores do not count. -/
def digitsValue (base : Nat) (cs : List Char) : Nat :=
  (cs.filterMap hexValue?).foldl (fun n d => n * base + d) 0

/-- A decimal without zeros at the end of its places. -/
def trimmedDecimal (digits : Nat) : Nat → Decimal
  | 0 => ⟨digits,0⟩
  | places + 1 =>
    if digits % 10 = 0 then trimmedDecimal (digits / 10) places else ⟨digits,places + 1⟩

/-- An exponent beyond a thousand counts as a thousand: the number is out of range either way. -/
def exponentSize (digits : List Char) : Nat := min (digitsValue 10 digits) 1000

def exponentValue (cs : List Char) : Int :=
  match cs with
  | '-' :: digits => - (exponentSize digits : Int)
  | '+' :: digits => exponentSize digits
  | digits => exponentSize digits

/-- The value of a number as it is written. -/
def numberValue (raw : String) : Decimal :=
  let cs := raw.toList
  match radix? cs with
  | some base => ⟨digitsValue base (cs.drop 2),0⟩
  | none =>
    let isExponent (c : Char) : Bool := c = 'e' || c = 'E'
    let (mantissa, exponent) := (cs.takeWhile (! isExponent ·), cs.dropWhile (! isExponent ·))
    let fraction := (mantissa.dropWhile (· != '.')).filter Char.isDigit
    let digits := digitsValue 10 (mantissa.filter Char.isDigit)
    let places := (fraction.length : Int) - exponentValue (exponent.drop 1)
    if places < 0 then ⟨(digits * Nat.pow 10 places.natAbs : Nat),0⟩
    else trimmedDecimal digits places.natAbs

def marks : List String :=
  [">>>=", "...", "===", "!==", "**=", "<<=", ">>=", ">>>", "&&=", "||=", "??=", "=>", "==", "!=",
    "<=", ">=", "&&", "||", "??", "?.", "++", "--", "+=", "-=", "*=", "/=", "%=", "&=", "|=", "^=",
    "<<", ">>", "**", "\x7b", "\x7d", "(", ")", "[", "]", ";", ",", "<", ">", "+", "-", "*", "/", "%",
    "&", "|", "^", "!", "~", "?", ":", "=", ".", "@", "`"]

/-- The longest mark at the front; `?.` before a digit is a question mark and a number. -/
def markToken (cs : List Char) : Option Taken :=
  let isHere (mark : String) : Bool :=
    mark.toList.isPrefixOf cs && ! (mark == "?." && (cs[2]?.map Char.isDigit).getD false)
  (marks.find? isHere).map fun mark => takeToken mark.length cs .mark

def wordToken (cs : List Char) : Taken :=
  takeToken (cs.takeWhile Text.isIdContinue).length cs .word

def token? : List Char → Option Taken
  | [] => some ⟨.stop,0,[]⟩
  | c :: rest =>
    if Text.isIdStart c then some (wordToken (c :: rest))
    else if c.isDigit then numberToken (c :: rest)
    else if c = '"' || c = '\'' then stringToken c rest
    else if c = '#' then
      match rest with
      | d :: _ =>
        if Text.isIdStart d then
          some (takeToken ((rest.takeWhile Text.isIdContinue).length + 1) (c :: rest) .privateName)
        else none
      | [] => none
    else if c = '.' && (rest[0]?.map Char.isDigit).getD false then numberToken (c :: rest)
    else markToken (c :: rest)

/-- Characters of a regular expression after its first slash, up to the one that closes it. -/
def regexBody (inClass : Bool) : List Char → Option Nat
  | [] => none
  | '\\' :: c :: rest =>
    if isLineEnd c then none else (regexBody inClass rest).map (· + 2)
  | c :: rest =>
    if isLineEnd c then none
    else if c = '[' then (regexBody true rest).map (· + 1)
    else if c = ']' then (regexBody false rest).map (· + 1)
    else if c = '/' && ! inClass then some 0
    else (regexBody inClass rest).map (· + 1)

def backquote : Char := Char.ofNat 96

/-- A piece of a template, up to its end or to a place for an expression. -/
structure Chunk where
  cooked : Option String
  raw : String
  isLast : Bool
  width : Nat
  rest : List Char

/-- Line ends in a template are read as line feeds. -/
def normalLines : List Char → List Char
  | '\r' :: '\n' :: rest => '\n' :: normalLines rest
  | '\r' :: rest => '\n' :: normalLines rest
  | c :: rest => c :: normalLines rest
  | [] => []

/-- Reads the raw text of a piece, reversed, and tells what ends it. -/
def chunkBody : List Char → List Char → Option (List Char × Bool × List Char)
  | _, [] => none
  | raw, '\\' :: c :: rest => chunkBody (c :: '\\' :: raw) rest
  | raw, '$' :: '{' :: rest => some (raw.reverse, false, rest)
  | raw, c :: rest =>
    if c = backquote then some (raw.reverse, true, rest) else chunkBody (c :: raw) rest

theorem chunkBody_suffix {raw cs front rest : List Char} {isLast : Bool}
    (h : chunkBody raw cs = some (front, isLast, rest)) : rest <:+ cs := by
  fun_induction chunkBody raw cs with
  | case1 => cases h
  | case2 raw c rest ih => exact (ih h).trans ⟨['\\', c],rfl⟩
  | case3 raw rest =>
    cases h
    exact ⟨['$', '{'],rfl⟩
  | case4 raw rest =>
    cases h
    exact List.suffix_cons _ _
  | case5 raw c rest _ _ _ ih => exact (ih h).trans (List.suffix_cons c rest)

/-- The value of the raw text of a piece, if all its escapes are well formed. -/
def cook : Nat → List Char → List Char → Option (List Char)
  | _, value, [] => some value.reverse
  | pending + 1, value, _ :: rest => cook pending value rest
  | 0, value, '\\' :: rest =>
    match escape? rest with
    | some (chars, count) => cook count (chars.reverse ++ value) rest
    | none => none
  | 0, value, c :: rest => cook 0 (c :: value) rest

def chunk? (cs : List Char) : Option Chunk := do
  let (raw, isLast, rest) ← chunkBody [] cs
  let normal := normalLines raw
  return ⟨(cook 0 [] normal).map String.ofList,String.ofList normal,isLast,
    width raw + (if isLast then 1 else 2),rest⟩

theorem chunk?_suffix {cs : List Char} {piece : Chunk} (h : chunk? cs = some piece) :
    piece.rest <:+ cs := by
  obtain ⟨⟨raw,isLast,rest⟩,hbody,heq⟩ := Option.bind_eq_some_iff.mp h
  cases heq
  exact chunkBody_suffix hbody

end AsyncBody.Source
