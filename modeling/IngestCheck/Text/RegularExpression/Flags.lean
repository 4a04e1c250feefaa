import IngestCheck.Text.Alphanumeric

namespace IngestCheck.RegularExpression

structure Flags where
  unicode : Bool := true
  caseless : Bool := false
  spaced : Bool := false
  deriving DecidableEq, Repr

namespace Flags

def letters : List Char := ['i', 'm', 's', 'U', 'u', 'R', 'x']

/-- Whether a text changes flags: each letter stands once, and a dash once and before a letter. -/
def isChange (text : List Char) : Bool :=
  let named := text.filter (· ≠ '-')
  named.all letters.contains && named.eraseDups = named && text.count '-' ≤ 1 &&
    text.getLast? ≠ some '-'

/-- The flags after a change. Letters behind the dash are taken back. -/
def change? (f : Flags) (text : List Char) : Option Flags :=
  if isChange text then
    let raised := text.takeWhile (· ≠ '-')
    let value (letter : Char) (old : Bool) : Bool :=
      if text.contains letter then raised.contains letter else old
    some {
      unicode := value 'u' f.unicode
      caseless := value 'i' f.caseless
      spaced := value 'x' f.spaced }
  else none

/-- The text from its first character that is neither blank nor in a comment. -/
def skipLayout (comment : Bool) : List Char → List Char
  | [] => []
  | c :: rest =>
    if comment then skipLayout (c ≠ '\n') rest
    else if isBlank c then skipLayout false rest
    else if c = '#' then skipLayout true rest
    else c :: rest

def skip (f : Flags) (text : List Char) : List Char :=
  if f.spaced then skipLayout false text else text

end Flags

/-- How deep parts nest that stand beside one another; a part alone is not nested. -/
def nesting : List Nat → Nat
  | [] => 0
  | [depth] => depth
  | depths => depths.foldl max 0 + 1

end IngestCheck.RegularExpression
