import AsyncBody.Source.Token
import AsyncBody.Toolchain

/-!
Parsers: functions from a place in a source to a result and a later place, which never go back. A
grammar is written with its recursion open: a rule is given the parser of each goal that it needs,
and `Goal` names those.
-/
namespace AsyncBody.Source

/-- What the surroundings of a place allow. -/
structure Context where
  dialect : Dialect
  isModule : Bool
  awaits : Bool
  yields : Bool := false
  noIn : Bool := false
  ambient : Bool := false
  returnTypes : Bool := true

/-- A place in a source; `last` is where the token before it ended. -/
structure Cursor where
  rest : List Char
  position : Nat
  last : Nat

/-- A token with its place, and the characters up to its end, blanks before it included. -/
structure Lexeme where
  token : Token
  span : Span
  newLine : Bool
  length : Nat

def Cursor.lexeme? (c : Cursor) : Option Lexeme :=
  match skip .blank 0 false c.rest with
  | none => none
  | some skipped =>
    match token? skipped.rest with
    | none => none
    | some taken =>
      let start := c.position + skipped.width
      some ⟨taken.token,⟨start,start + taken.width⟩,skipped.newLine,
        c.rest.length - taken.rest.length⟩

def Cursor.after (c : Cursor) (l : Lexeme) : Cursor :=
  ⟨c.rest.drop l.length,l.span.stop,l.span.stop⟩

/-- A parser reads from the front: what it leaves is the end of what it was given. -/
structure Parser (α : Type) where
  run : Context → Cursor → Option (α × Cursor)
  leaves : ∀ {ctx : Context} {c d : Cursor} {a : α}, run ctx c = some (a, d) → d.rest <:+ c.rest

namespace Parser

/-- A parser that looks at its place and stays there. -/
def look {α : Type} (f : Context → Cursor → Option α) : Parser α where
  run ctx c := (f ctx c).map (·, c)
  leaves h := by
    obtain ⟨_,-,heq⟩ := Option.map_eq_some_iff.mp h
    cases heq
    exact List.suffix_rfl

instance : Monad Parser where
  pure a := look fun _ _ => some a
  bind p f :=
    { run := fun ctx c => (p.run ctx c).bind fun (a, c) => (f a).run ctx c
      leaves := fun h => by
        obtain ⟨⟨a,_⟩,hp,hf⟩ := Option.bind_eq_some_iff.mp h
        exact ((f a).leaves hf).trans (p.leaves hp) }

def fail {α : Type} : Parser α := look fun _ _ => none

/-- The first of two parsers that succeeds; both start at the same place. -/
def either {α : Type} (p q : Parser α) : Parser α where
  run ctx c :=
    match p.run ctx c with
    | some r => some r
    | none => q.run ctx c
  leaves h := by
    split at h
    · cases h
      exact p.leaves ‹_›
    · exact q.leaves h

instance {α : Type} : OrElse (Parser α) := ⟨fun p q => p.either (q ())⟩

def context : Parser Context := look fun ctx _ => some ctx

def within {α : Type} (change : Context → Context) (p : Parser α) : Parser α :=
  ⟨fun ctx c => p.run (change ctx) c,p.leaves⟩

/-- A parser that depends on how much of the source is left. -/
def sized {α : Type} (p : Nat → Parser α) : Parser α :=
  ⟨fun ctx c => (p c.rest.length).run ctx c,fun {_ c _ _} => (p c.rest.length).leaves⟩

/-- The next token, which is not yet taken. -/
def peek : Parser Lexeme := look fun _ c => c.lexeme?

def takeLexeme (l : Lexeme) : Parser Unit where
  run _ c := some ((), c.after l)
  leaves h := by
    cases h
    exact List.drop_suffix _ _

def next : Parser Lexeme := do
  let l ← peek
  takeLexeme l
  return l

/-- What a parser would give here; nothing is taken. -/
def ahead {α : Type} (p : Parser α) : Parser α := look fun ctx c => (p.run ctx c).map (·.1)

/-- The next token after the one to come, with what stands before it. -/
def peekSecond : Parser Lexeme := ahead do
  let _ ← next
  peek

def start : Parser Nat := return (← peek).span.start

/-- The place from a start to the end of the last token. -/
def spanFrom (start : Nat) : Parser Span := look fun _ c => some ⟨start,c.last⟩

def isMark (mark : String) : Parser Bool := return (← peek).token == .mark mark

def isWord (word : String) : Parser Bool := return (← peek).token == .word word

def eatMark (mark : String) : Parser Bool := do
  let l ← peek
  if l.token == .mark mark then
    takeLexeme l
    return true
  else return false

def eatWord (word : String) : Parser Bool := do
  let l ← peek
  if l.token == .word word then
    takeLexeme l
    return true
  else return false

def expectMark (mark : String) : Parser Unit := do
  unless ← eatMark mark do fail

def expectWord (word : String) : Parser Unit := do
  unless ← eatWord word do fail

/-- Takes the closing bracket of type arguments, also as the first half of a longer mark. -/
def expectAngle : Parser Unit where
  run _ c :=
    match skip .blank 0 false c.rest with
    | some ⟨w,_,'>' :: rest⟩ =>
      let stop := c.position + w + 1
      some ((), ⟨rest,stop,stop⟩)
    | _ => none
  leaves h := by
    split at h
    · cases h
      exact (List.suffix_cons _ _).trans (skip_suffix ‹_›)
    · cases h

/-- Whether a closing bracket of type arguments or of a tag comes next. -/
def isAngle : Parser Bool := look fun _ c =>
  (skip .blank 0 false c.rest).map fun s => s.rest.head? == some '>'

/-- The end of a statement: a semicolon, or a place where one may be left out. -/
def semicolon : Parser Unit := do
  let l ← peek
  if l.token == .mark ";" then takeLexeme l
  else unless l.newLine || l.token == .mark "\x7d" || l.token == .stop do fail

/-- Repeats a parser until it gives nothing, `fuel` times at most. -/
def repeatUpTo {α : Type} (p : Parser (Option α)) : Nat → Parser (List α)
  | 0 => fail
  | fuel + 1 => do
    match ← p with
    | none => return []
    | some a => return a :: (← repeatUpTo p fuel)

/-- What is left of the source bounds how often a parser that takes something can be repeated. -/
def repeated {α : Type} (p : Parser (Option α)) : Parser (List α) :=
  sized fun n => repeatUpTo p (n + 2)

/-- Extends a value step by step until a step gives nothing. -/
def extendUpTo {α : Type} (step : α → Parser (Option α)) : Nat → α → Parser α
  | 0, _ => fail
  | fuel + 1, a => do
    match ← step a with
    | none => return a
    | some b => extendUpTo step fuel b

def extended {α : Type} (step : α → Parser (Option α)) (a : α) : Parser α :=
  sized fun n => extendUpTo step (n + 2) a

/-- Entries up to a closing mark, with commas between them and perhaps one after the last. -/
def separated {α : Type} (entry : Parser α) (closing : String) : Parser (List α) := do
  let entries ← repeated do
    if ← isMark closing then return none
    let a ← entry
    unless ← isMark closing do expectMark ","
    return some a
  expectMark closing
  return entries

/-- One entry or more in angle brackets, with commas between them and perhaps one after the last. -/
def angled {α : Type} (entry : Parser α) : Parser (List α) := do
  expectMark "<"
  let entries ← repeated do
    if ← isAngle then return none
    let a ← entry
    unless ← isAngle do expectMark ","
    return some a
  expectAngle
  if entries.isEmpty then fail else return entries

def commaSeparated {α : Type} (entry : Parser α) : Parser (List α) := do
  let first ← entry
  let others ← repeated do
    if ← eatMark "," then return some (← entry) else return none
  return first :: others

def optional {α : Type} (p : Parser α) : Parser (Option α) :=
  (return some (← p)) <|> return none

end Parser

/-- What a rule of the grammar may ask for. -/
inductive Goal where
  | statement
  | moduleItem
  | expression
  | assignment
  | binary (level : Nat)
  | unary
  | lhs
  | pattern
  | binding
  | block
  | type
  | plainType
  | element
deriving DecidableEq, Repr

abbrev Grammar := Goal → Parser Node

/-- Words that are never identifiers. -/
def keywords : List String :=
  ["break", "case", "catch", "class", "const", "continue", "debugger", "default", "delete", "do",
    "else", "enum", "export", "extends", "false", "finally", "for", "function", "if", "import",
    "in", "instanceof", "new", "null", "return", "super", "switch", "this", "throw", "true", "try",
    "typeof", "var", "void", "while", "with"]

namespace Parser

/-- Whether a word can be an identifier here; `await` cannot be one anywhere in a module. -/
def isIdentifier (ctx : Context) (word : String) : Bool :=
  ! keywords.contains word && ! ((ctx.awaits || ctx.isModule) && word == "await") &&
    ! (ctx.yields && word == "yield")

def identifier : Parser Ident := do
  let ctx ← context
  let l ← next
  match l.token with
  | .word name => if isIdentifier ctx name then return ⟨l.span,0,name,false⟩ else fail
  | _ => fail

def isIdentifierNext : Parser Bool := do
  let ctx ← context
  match (← peek).token with
  | .word name => return isIdentifier ctx name
  | _ => return false

def anyWord : Parser Ident := do
  let l ← next
  match l.token with
  | .word name => return ⟨l.span,0,name,false⟩
  | _ => fail

def propertyName : Parser Node := do
  let name ← anyWord
  return .leaf name.span (.propertyName name.name)

def exportName : Parser ExportName := do
  let l ← peek
  match l.token with
  | .string value raw =>
    takeLexeme l
    return .string ⟨l.span,value,some raw⟩
  | _ => return .ident (← anyWord)

def stringLiteral : Parser StringLiteral := do
  let l ← next
  match l.token with
  | .string value raw => return ⟨l.span,value,some raw⟩
  | _ => fail

def dialect : Parser Dialect := return (← context).dialect

def typesOnly : Parser Unit := do
  unless (← dialect).types do fail

end Parser
end AsyncBody.Source
