/-!
White space: texts without any, and what a reader of tokens skips.
-/
namespace AsyncBody.Text

/-- Characters of the property `White_Space`. -/
def isBlank (c : Char) : Bool :=
  let n := c.toNat
  (9 ≤ n && n ≤ 13) || n = 0x20 || n = 0x85 || n = 0xA0 || n = 0x1680 ||
    (0x2000 ≤ n && n ≤ 0x200A) || n = 0x2028 || n = 0x2029 || n = 0x202F || n = 0x205F || n = 0x3000

/-- A text less its white space, inside string literals too: equal for texts that differ in
layout. -/
def compact (s : String) : String := String.ofList (s.toList.filter (! isBlank ·))

@[simp] theorem compact_append (s t : String) : compact (s ++ t) = compact s ++ compact t := by
  simp [compact,String.toList_append,String.ofList_append]

theorem compact_join (texts : List String) :
    compact (String.join texts) = String.join (texts.map compact) := by
  induction texts with
  | nil => rfl
  | cons text rest ih => simp [ih]

/-- What stands between texts does not show if it is blank. -/
theorem compact_intercalate {separator : String} (hblank : compact separator = "")
    (texts : List String) :
    compact (String.intercalate separator texts) = String.join (texts.map compact) := by
  induction texts with
  | nil => simp [compact]
  | cons text rest ih =>
    cases rest with
    | nil => simp
    | cons next rest =>
      rw [String.intercalate_cons_cons,compact_append,compact_append,hblank,String.append_empty,ih]
      simp

end AsyncBody.Text

namespace AsyncBody.Source

/-- Bytes of a text. -/
def width (cs : List Char) : Nat := cs.foldl (· + ·.utf8Size) 0

def isLineEnd (c : Char) : Bool :=
  c = '\n' || c = '\r' || c.toNat = 0x2028 || c.toNat = 0x2029

def isSpace (c : Char) : Bool :=
  let n := c.toNat
  n = 9 || n = 11 || n = 12 || n = 0x20 || n = 0xA0 || n = 0xFEFF || n = 0x1680 ||
    (0x2000 ≤ n && n ≤ 0x200A) || n = 0x202F || n = 0x205F || n = 0x3000

/-- What is skipped before a token, and whether a line ends in it. -/
structure Skipped where
  width : Nat
  newLine : Bool
  rest : List Char

inductive SkipMode where
  | blank
  | lineComment
  | blockComment
deriving DecidableEq

/-- Skips blanks and comments; there is no result if a block comment does not end. -/
def skip : SkipMode → Nat → Bool → List Char → Option Skipped
  | .blank, w, nl, '/' :: '/' :: rest => skip .lineComment (w + 2) nl rest
  | .blank, w, nl, '/' :: '*' :: rest => skip .blockComment (w + 2) nl rest
  | .blank, w, nl, c :: rest =>
    if isLineEnd c then skip .blank (w + c.utf8Size) true rest
    else if isSpace c then skip .blank (w + c.utf8Size) nl rest
    else some ⟨w,nl,c :: rest⟩
  | .lineComment, w, nl, c :: rest =>
    if isLineEnd c then skip .blank (w + c.utf8Size) true rest
    else skip .lineComment (w + c.utf8Size) nl rest
  | .blockComment, w, nl, '*' :: '/' :: rest => skip .blank (w + 2) nl rest
  | .blockComment, w, nl, c :: rest =>
    skip .blockComment (w + c.utf8Size) (nl || isLineEnd c) rest
  | .blockComment, _, _, [] => none
  | _, w, nl, [] => some ⟨w,nl,[]⟩

theorem skip_suffix {mode : SkipMode} {w : Nat} {nl : Bool} {cs : List Char} {s : Skipped}
    (h : skip mode w nl cs = some s) : s.rest <:+ cs := by
  fun_induction skip mode w nl cs with
  | case1 w nl rest ih => exact (ih h).trans ⟨['/', '/'],rfl⟩
  | case2 w nl rest ih => exact (ih h).trans ⟨['/', '*'],rfl⟩
  | case3 w nl c rest _ _ _ ih => exact (ih h).trans (List.suffix_cons c rest)
  | case4 w nl c rest _ _ _ _ ih => exact (ih h).trans (List.suffix_cons c rest)
  | case5 =>
    cases h
    exact List.suffix_rfl
  | case6 w nl c rest _ ih => exact (ih h).trans (List.suffix_cons c rest)
  | case7 w nl c rest _ ih => exact (ih h).trans (List.suffix_cons c rest)
  | case8 w nl rest ih => exact (ih h).trans ⟨['*', '/'],rfl⟩
  | case9 w nl c rest _ ih => exact (ih h).trans (List.suffix_cons c rest)
  | case10 => cases h
  | case11 =>
    cases h
    exact List.suffix_rfl

end AsyncBody.Source
