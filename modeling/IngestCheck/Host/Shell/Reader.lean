import IngestCheck.Host.Shell.Tree

namespace IngestCheck.Host.Shell

inductive Token where
  | endOfFile
  | newline
  | semicolon
  | ampersand
  | andAnd
  | orOr
  | bar
  | openParen
  | closeParen
  | endArm
  | redirection
  | word
  | bang
  | caseWord
  | doWord
  | doneWord
  | elifWord
  | elseWord
  | esacWord
  | fiWord
  | forWord
  | ifWord
  | inWord
  | thenWord
  | untilWord
  | whileWord
  | openBrace
  | closeBrace
  deriving DecidableEq, Repr

namespace Token

def keywords : List (String × Token) := [
  ("!", bang), ("case", caseWord), ("do", doWord), ("done", doneWord), ("elif", elifWord),
  ("else", elseWord), ("esac", esacWord), ("fi", fiWord), ("for", forWord), ("if", ifWord),
  ("in", inWord), ("then", thenWord), ("until", untilWord), ("while", whileWord),
  ("\x7b", openBrace), ("\x7d", closeBrace)]

def quoted (text : String) : String := "\"" ++ text ++ "\""

def shown : Token → String
  | endOfFile => "end of file"
  | newline => "newline"
  | semicolon => quoted ";"
  | ampersand => quoted "&"
  | andAnd => quoted "&&"
  | orOr => quoted "||"
  | bar => quoted "|"
  | openParen => quoted "("
  | closeParen => quoted ")"
  | endArm => quoted ";;"
  | redirection => "redirection"
  | word => "word"
  | t => match keywords.find? (·.2 = t) with
    | some k => quoted k.1
    | none => ""

def endsList : Token → Bool
  | endOfFile | closeParen | endArm | doWord | doneWord | elifWord | elseWord | esacWord
  | fiWord | thenWord | closeBrace => true
  | _ => false

end Token

inductive Rules where
  | base
  | double
  | single
  | arithmetic
  deriving DecidableEq, Repr

inductive CharacterClass where
  | newline
  | ordinary
  | escaped
  | backslash
  | singleQuote
  | doubleQuote
  | endQuote
  | backQuote
  | dollar
  | endBrace
  | openParen
  | closeParen
  | separator
  | endOfFile
  deriving DecidableEq, Repr

/-- Characters that keep a mark when they are quoted, since they mean something in patterns or in
the expansion of tildes. -/
def isMarkedInQuotes (c : Char) : Bool :=
  ['!', '*', '?', '[', '=', '~', ':', '/', '-', ']'].contains c

def Rules.classify (rules : Rules) : Option Char → CharacterClass
  | none => .endOfFile
  | some '\n' => .newline
  | some c => match rules with
    | base =>
      if c = '\\' then .backslash
      else if c = '\'' then .singleQuote
      else if c = '"' then .doubleQuote
      else if c = '`' then .backQuote
      else if c = '$' then .dollar
      else if c = '}' then .endBrace
      else if ['<', '>', '(', ')', ';', '&', '|', ' ', '\t'].contains c then .separator
      else .ordinary
    | double =>
      if c = '\\' then .backslash
      else if c = '"' then .endQuote
      else if c = '`' then .backQuote
      else if c = '$' then .dollar
      else if c = '}' then .endBrace
      else if isMarkedInQuotes c then .escaped
      else .ordinary
    | single =>
      if c = '\'' then .endQuote
      else if c = '\\' || isMarkedInQuotes c then .escaped
      else .ordinary
    | arithmetic =>
      if c = '\\' then .backslash
      else if c = '`' then .backQuote
      else if c = '$' then .dollar
      else if c = '}' then .endBrace
      else if c = '(' then .openParen
      else if c = ')' then .closeParen
      else .ordinary

structure Level where
  rules : Rules
  doubled : Bool := false
  innerQuote : Bool := false
  forParameter : Bool := false
  parameters : Nat := 0
  doubledParameters : Nat := 0
  parens : Nat := 0

inductive Mark where
  | byte (escaped : Bool) (b : UInt8)
  | quote
  | opened (name : Bytes) (form : Form) (orEmpty : Bool)
  | closed
  | command (body : Tree)
  | arithmeticOpened
  | arithmeticClosed

def Word.cons (escaped : Bool) (b : UInt8) : Word → Word
  | .text e bytes :: rest =>
    if e = escaped then .text e (b :: bytes) :: rest else .text escaped [b] :: .text e bytes :: rest
  | word => .text escaped [b] :: word

/-- Nest marks into a word, up to a mark that closes. The rest of the marks is left. -/
def nest : Nat → List Mark → Word × List Mark
  | 0, marks => ([], marks)
  | _, [] => ([], [])
  | fuel + 1, mark :: rest =>
    match mark with
    | .closed | .arithmeticClosed => ([], rest)
    | .byte escaped b => let r := nest fuel rest; (Word.cons escaped b r.1, r.2)
    | .quote => let r := nest fuel rest; (.quote :: r.1, r.2)
    | .command body => let r := nest fuel rest; (.command body :: r.1, r.2)
    | .arithmeticOpened =>
      let inner := nest fuel rest
      let r := nest fuel inner.2
      (.arithmetic inner.1 :: r.1, r.2)
    | .opened name form orEmpty =>
      if form = .plain ∧ !orEmpty then
        let r := nest fuel rest
        (.parameter name form orEmpty [] :: r.1, r.2)
      else
        let inner := nest fuel rest
        let r := nest fuel inner.2
        (.parameter name form orEmpty inner.1 :: r.1, r.2)

def wordOf (marks : List Mark) : Word := (nest (marks.length + 1) marks).1

structure Scan where
  top : Level
  below : List Level := []
  marks : List Mark := []
  quoted : Bool := false

namespace Scan

def put (s : Scan) (escaped : Bool) (c : Char) : Scan :=
  { s with marks := .byte escaped (byteOf c) :: s.marks }

def mark (s : Scan) (m : Mark) : Scan := { s with marks := m :: s.marks }

def push (s : Scan) (level : Level) : Scan := { s with top := level, below := s.top :: s.below }

def pop (s : Scan) : Scan :=
  match s.below with
  | level :: rest => { s with top := level, below := rest }
  | [] => s

def word (s : Scan) : Word := wordOf s.marks.reverse

end Scan

structure Ending where
  line : List Char
  stripped : Bool

structure Awaited where
  number : Nat
  expands : Bool
  ending : Ending

inductive Direction where
  | file (opening : Opening)
  | copy
  | document (stripped : Bool)

structure Reader where
  rest : List Char
  line : Nat := 1
  token : Token := .newline
  pushedBack : Bool := false
  word : Word := []
  quoted : Bool := false
  descriptor : Nat := 0
  direction : Direction := .copy
  /-- Whether the next token may come after line ends, be a keyword, or end a document. -/
  skipsLines : Bool := false
  seeksKeyword : Bool := false
  seeksEnding : Bool := false
  seeksAlias : Bool := false
  aliases : List (Bytes × Bytes) := []
  /-- The words whose text is being read, each with whether the next word may stand for something
  as well, and those whose text has just come to its end. -/
  spread : List (Bytes × Bool) := []
  closing : List (Bytes × Bool) := []
  awaited : List Awaited := []
  documents : List (Nat × Word) := []
  nextDocument : Nat := 0

abbrev Read := ExceptT String (StateM Reader)

namespace Read

def failure {α : Type} (text : String) : Read α := throw s!"Syntax error: {text}"

def unexpected {α : Type} (wanted : Option Token) : Read α := do
  let t := (← get).token.shown
  match wanted with
  | some w => failure s!"{t} unexpected (expecting {w.shown})"
  | none => failure s!"{t} unexpected"

/-- What follows the text that a word stands for. It is no byte, so no script holds it. -/
def aliasEnd : Char := '\uE000'

def passEnds (r : Reader) : Reader :=
  let count := (r.rest.takeWhile (· = aliasEnd)).length
  let closing := r.spread.take count
  { r with
    closing, spread := r.spread.drop count, rest := r.rest.drop count
    seeksAlias := r.seeksAlias || closing.any (·.2) }

def next : Read (Option Char) := do
  let r := passEnds (← get)
  set r
  match r.rest with
  | [] => return none
  | c :: rest =>
    set { r with rest }
    return some c

def unread (c : Option Char) : Read Unit :=
  match c with
  | some c => modify fun r ↦ { r with rest := c :: r.rest }
  | none => return ()

def skipJoints (line : Nat) : List Char → Nat × List Char
  | '\\' :: '\n' :: rest => skipJoints (line + 1) rest
  | rest => (line, rest)

def joined : Read (Option Char) := do
  modify fun r ↦ let s := skipJoints r.line r.rest; { r with line := s.1, rest := s.2 }
  next

def newLine : Read Unit := modify fun r ↦ { r with line := r.line + 1 }

def nextUnder (rules : Rules) : Read (Option Char) :=
  if rules = .single then next else joined

def pushBack : Read Unit := modify fun r ↦ { r with pushedBack := true }

def answer (t : Token) : Read Token := do
  modify fun r ↦ { r with token := t }
  return t

def takeWhile (fits : Char → Bool) : Nat → Option Char → Read (List Char × Option Char)
  | fuel + 1, some c => do
    if fits c then
      let (more, after) ← takeWhile fits fuel (← joined)
      return (c :: more, after)
    else return ([], some c)
  | _, c => return ([], c)

def afterParameterName (c : Option Char) : Read (Form × Bool) := do
  let letter (c : Option Char) : Form :=
    match c with
    | some '}' => .plain
    | some '-' => .default
    | some '+' => .alternative
    | some '?' => .demand
    | some '=' => .assign
    | _ => .malformed
  let trim (single double : Form) (c : Char) : Read (Form × Bool) := do
    let d ← joined
    if d = some c then return (double, false)
    unread d
    return (single, false)
  match c with
  | some ':' => return (letter (← joined), true)
  | some '%' => trim .trimEnd .trimEndMost '%'
  | some '#' => trim .trimStart .trimStartMost '#'
  | c => return (letter c, false)

def isSpecial (c : Option Char) : Bool := c.any isSpecialParameter

def bracedParameter (fuel : Nat) : Read (Bytes × Form × Bool) := do
  let named (c : Option Char) : Read (List Char × Option Char) :=
    if c.any Char.isDigit then takeWhile Char.isDigit fuel c else takeWhile continuesName fuel c
  let ended (name : List Char) (c : Option Char) : Read (Bytes × Form × Bool) := do
    let (form, orEmpty) ← afterParameterName c
    return (Bytes.ofCharacters name, form, orEmpty)
  let spoiled (c : Option Char) : Read (Bytes × Form × Bool) := do
    unread c
    return ([], .malformed, false)
  let measured (name : List Char) (c : Option Char) : Read (Bytes × Form × Bool) := do
    unread c
    return (Bytes.ofCharacters name, if c = some '}' then .length else .malformed, false)
  let c ← joined
  if c.any fun c ↦ startsName c || c.isDigit then
    let (name, c) ← named c
    ended name c
  else if c = some '}' then spoiled c
  else
    let d ← joined
    if c = some '#' then
      if d.any continuesName then
        let (name, c) ← named d
        measured name c
      else
        let e ← joined
        if d = some '}' || e ≠ some '}' then
          unread e
          ended ['#'] d
        else if isSpecial d then measured d.toList e
        else spoiled e
    else if isSpecial c then ended c.toList d
    else spoiled d

def atLineStart (rules : Rules) (ending : Option Ending) (c : Option Char) :
    Read (Option Char) := do
  match ending with
  | none => return c
  | some e =>
    unread c
    if e.stripped then modify fun r ↦ { r with rest := r.rest.dropWhile (· = '\t') }
    let rest := (← get).rest
    let after := rest.drop e.line.length
    if e.line.isPrefixOf rest && (after.isEmpty || after.head? = some '\n') then
      modify fun r ↦ { r with rest := after.drop 1, line := r.line + 1 }
      return none
    else nextUnder rules

def operator (sign : Char) (digit : Option Nat) : Read Token := do
  let c ← joined
  let direction : Direction ← (do
    if sign = '>' then
      match c with
      | some '>' => return .file .append
      | some '|' => return .file .overwrite
      | some '&' => return .copy
      | c =>
        unread c
        return .file .write
    else match c with
      | some '<' =>
        let d ← joined
        if d = some '-' then return .document true
        unread d
        return .document false
      | some '&' => return .copy
      | some '>' => return .file .readWrite
      | c =>
        unread c
        return .file .read)
  modify fun r ↦ { r with direction, descriptor := digit.getD (if sign = '>' then 1 else 0) }
  answer .redirection

def backQuoted (doubled : Bool) : Nat → Read (List Char)
  | 0 => failure "EOF in backquote substitution"
  | fuel + 1 => do
    match ← joined with
    | none => failure "EOF in backquote substitution"
    | some '`' => return []
    | some '\\' =>
      let c ← next
      let kept := !(c = some '\\' || c = some '`' || c = some '$' || (doubled && c = some '"'))
      return (if kept then ['\\'] else []) ++ c.toList ++ (← backQuoted doubled fuel)
    | some c =>
      if c = '\n' then newLine
      return c :: (← backQuoted doubled fuel)

def skipComment : Read Unit :=
  modify fun r ↦ { r with rest := r.rest.dropWhile (· ≠ '\n') }

def finishWord (c : Option Char) (s : Scan) : Read Token := do
  let digit : Option (Option Nat) := match s.marks with
    | [] => some none
    | [.byte false b] => if (Char.ofNat b.toNat).isDigit then some (some (b.toNat - 48)) else none
    | _ => none
  match c, digit with
  | some '>', some d => if !s.quoted then return ← operator '>' d
  | some '<', some d => if !s.quoted then return ← operator '<' d
  | _, _ => pure ()
  unread c
  modify fun r ↦ { r with word := s.word, quoted := s.quoted }
  answer .word

def checkClosed (inDocument : Bool) (s : Scan) : Read Unit := do
  if s.top.rules = .arithmetic then failure "Missing '))'"
  if s.top.rules ≠ .base && !inDocument then failure "Unterminated quoted string"
  if s.top.parameters ≠ 0 then failure "Missing '\x7d'"

def openParameter (s : Scan) (name : Bytes) (form : Form) (orEmpty : Bool) : Scan :=
  let isPlain := form = .plain ∧ !orEmpty
  if isPlain then s.mark (.opened name form orEmpty)
  else
    let isTrim := [Form.trimEnd, .trimEndMost, .trimStart, .trimStartMost].contains form
    let rules := if isTrim then .base else s.top.rules
    let rules := if rules = .arithmetic then .double else rules
    let s := if rules ≠ s.top.rules || s.top.innerQuote then
        s.push { rules, forParameter := true, doubled := rules ≠ .base }
      else s
    let top := { s.top with
      parameters := s.top.parameters + 1
      doubledParameters := s.top.doubledParameters + if s.top.doubled then 1 else 0 }
    { s with top }.mark (.opened name form orEmpty)

def closeBrace (s : Scan) : Scan :=
  let top := s.top
  if !top.innerQuote && 0 < top.parameters then
    let s := { s with top := { top with parameters := top.parameters - 1 } }
    let s := if top.parameters = 1 && top.forParameter then s.pop
      else if 0 < top.doubledParameters then
        { s with top := { s.top with doubledParameters := top.doubledParameters - 1 } }
      else s
    s.mark .closed
  else s.put false '}'

def quoteMark (ending : Option Ending) (s : Scan) : Scan :=
  if ending.isNone then s.mark .quote else s

def toggleInner (s : Scan) : Scan :=
  if 0 < s.top.parameters then { s with top := { s.top with innerQuote := !s.top.innerQuote } }
  else s

def afterBackslash (inDocument : Bool) (s : Scan) : Read Scan := do
  match ← next with
  | none => return s.put true '\\'
  | some c =>
    let open_ := s.top.parameters ≠ 0
    let keeps := s.top.doubled && c ≠ '\\' && c ≠ '`' && c ≠ '$' &&
      (c ≠ '"' || (inDocument && !open_)) && (c ≠ '}' || !open_)
    let s := if keeps then s.put true '\\' else s
    return { s.put true c with quoted := true }

def awaitDocument (stripped : Bool) : Read Redirection := do
  let r ← get
  let line := (r.word.flatMap fun piece ↦ match piece with
    | .text _ bytes => bytes.characters
    | _ => [])
  let doc : Awaited := ⟨r.nextDocument, !r.quoted, ⟨line, stripped⟩⟩
  set { r with nextDocument := r.nextDocument + 1, awaited := r.awaited ++ [doc] }
  return .document r.descriptor (!r.quoted) doc.number

def redirectionTo (descriptor : Nat) (direction : Direction) : Read Redirection := do
  let word := (← get).word
  match direction with
  | .file opening => return .file descriptor opening word
  | .document stripped => awaitDocument stripped
  | .copy =>
    match Word.plain? word with
    | some [b] =>
      if b = byteOf '-' then return .copy descriptor none
      else if (Char.ofNat b.toNat).isDigit then return .copy descriptor (some (b.toNat - 48))
      else return .copyNamed descriptor word
    | _ => return .copyNamed descriptor word

def withRedirections (line : Nat) (body : Tree) (redirections : List Redirection) : Tree :=
  if redirections.isEmpty then body
  else match body with
    | .subshell line body _ => .subshell line body redirections
    | body => .redirected line body redirections

def inBackground : Tree → Tree
  | .pipeline _ members => .pipeline true members
  | .redirected line body redirections => .detached line body redirections
  | .simple line assignments words redirections =>
    .detached line (.simple line assignments words redirections) []
  | body => .detached 0 body []

def specialCommands : List Bytes :=
  (["break", "continue", ".", "eval", "exec", "exit", "export", "readonly", "return", "set",
    "shift", "times", "trap", "unset", ":", "local"] : List String).map Bytes.ofString

mutual

/-- Scan a word from its first character on. The character after it comes with the answer. -/
def scan : Nat → Option Ending → Bool → Option Char → Scan → Read (Option Char × Scan)
  | 0, _, _, c, s => return (c, s)
  | fuel + 1, ending, fresh, c, s => do
    let c ← if fresh then atLineStart s.top.rules ending c else pure c
    let onward (s : Scan) : Read (Option Char × Scan) := do
      scan fuel ending false (← nextUnder s.top.rules) s
    let put (escaped : Bool) : Scan := s.put escaped (c.getD ' ')
    match s.top.rules.classify c with
    | .endOfFile => return (c, s)
    | .newline =>
      if s.top.rules = .base && s.top.parameters = 0 then return (c, s)
      newLine
      scan fuel ending true (← nextUnder s.top.rules) (put false)
    | .ordinary => onward (put false)
    | .escaped => onward (put (ending.isNone || s.top.doubled || 0 < s.top.parameters))
    | .backslash => onward (← afterBackslash ending.isSome s)
    | .singleQuote => onward (quoteMark ending { s with top := { s.top with rules := .single } })
    | .doubleQuote =>
      let s := { s with top := { s.top with rules := .double, doubled := true } }
      onward (quoteMark ending (toggleInner s))
    | .endQuote =>
      if ending.isSome && s.top.parameters = 0 then onward (put false)
      else
        let s := if s.top.doubledParameters = 0 then
            { s with top := { s.top with rules := .base, doubled := false } }
          else s
        let s := if c = some '"' then toggleInner s else s
        onward (quoteMark ending { s with quoted := true })
    | .dollar => onward (← substitution fuel s)
    | .endBrace => onward (closeBrace s)
    | .openParen => onward { put false with top := { s.top with parens := s.top.parens + 1 } }
    | .closeParen =>
      if 0 < s.top.parens then
        onward { put false with top := { s.top with parens := s.top.parens - 1 } }
      else
        let d ← joined
        if d = some ')' then onward (s.mark .arithmeticClosed).pop
        else
          unread d
          onward (put false)
    | .backQuote =>
      if (← get).seeksEnding then onward { put false with quoted := true }
      else
        let text ← backQuoted s.top.doubled ((← get).rest.length + 1)
        let outer ← get
        set { outer with rest := text, line := 1, awaited := [], pushedBack := false }
        let body ← commands fuel false true none
        modify fun r ↦ { r with
          rest := outer.rest, line := outer.line, awaited := outer.awaited, pushedBack := false }
        onward (s.mark (.command (body.getD .nothing)))
    | .separator => if s.top.parameters = 0 then return (c, s) else onward (put false)

def substitution : Nat → Scan → Read Scan
  | 0, s => return s
  | fuel + 1, s => do
    let c ← joined
    let opens := c.any fun c ↦ c = '(' || c = '\x7b' || startsName c || isSpecialParameter c
    if (← get).seeksEnding || !opens then
      unread c
      return s.put false '$'
    else match c with
      | some '(' =>
        let d ← joined
        if d = some '(' then
          return (s.mark .arithmeticOpened).push { rules := .arithmetic, doubled := true }
        unread d
        let awaited := (← get).awaited
        modify fun r ↦ { r with awaited := [], pushedBack := false }
        let body ← commands fuel false true none
        if (← token fuel) ≠ .closeParen then unexpected (some .closeParen)
        modify fun r ↦ { r with awaited }
        return s.mark (.command (body.getD .nothing))
      | some '\x7b' =>
        let (name, form, orEmpty) ← bracedParameter ((← get).rest.length + 1)
        return openParameter s name form orEmpty
      | c =>
        if c.any startsName then
          let (name, after) ← takeWhile continuesName ((← get).rest.length + 2) c
          unread after
          return s.mark (.opened (Bytes.ofCharacters name) .plain false)
        return s.mark (.opened (Bytes.ofCharacters c.toList) .plain false)

def rawToken : Nat → Read Token
  | 0 => answer .endOfFile
  | fuel + 1 => do
    if (← get).pushedBack then
      modify fun r ↦ { r with pushedBack := false }
      return (← get).token
    let either (second : Char) (double single : Token) : Read Token := do
      let d ← joined
      if d = some second then return ← answer double
      unread d
      answer single
    match ← joined with
    | none => answer .endOfFile
    | some ' ' | some '\t' => rawToken fuel
    | some '#' =>
      skipComment
      rawToken fuel
    | some '\n' =>
      newLine
      answer .newline
    | some '&' => either '&' .andAnd .ampersand
    | some '|' => either '|' .orOr .bar
    | some ';' => either ';' .endArm .semicolon
    | some '(' => answer .openParen
    | some ')' => answer .closeParen
    | c =>
      let (c, s) ← scan fuel none false c { top := { rules := .base } }
      checkClosed false s
      finishWord c s

def skipLines : Nat → Token → Read Token
  | 0, t => return t
  | fuel + 1, t => do
    if t = .newline then
      documents fuel
      modify fun r ↦ { r with skipsLines := false, seeksKeyword := false, seeksEnding := false }
      skipLines fuel (← rawToken fuel)
    else return t

def token : Nat → Read Token
  | 0 => answer .endOfFile
  | fuel + 1 => do
    let r ← get
    tokenFor fuel r.skipsLines r.seeksKeyword r.seeksAlias

def tokenFor : Nat → Bool → Bool → Bool → Read Token
  | 0, _, _, _ => answer .endOfFile
  | fuel + 1, skips, seeks, seeksAlias => do
    let t ← rawToken fuel
    let t ← if skips then skipLines fuel t else pure t
    let r ← get
    let seeksAlias := seeksAlias || r.seeksAlias
    set { r with
      skipsLines := false, seeksKeyword := false, seeksEnding := false, seeksAlias := false }
    match if t = .word && !r.quoted then Word.plain? r.word else none with
    | none => return t
    | some text =>
      if seeks then
        if let some k := Token.keywords.find? fun k ↦ Bytes.ofString k.1 = text then
          return ← answer k.2
      if seeksAlias && (r.spread ++ r.closing).all (·.1 ≠ text) then
        if let some value := r.aliases.lookup text then
          let goesOn := value.getLast?.any fun b ↦ b = byteOf ' ' || b = byteOf '\t'
          if !value.isEmpty then
            modify fun r ↦ { r with
              rest := value.characters ++ aliasEnd :: r.rest
              spread := (text, goesOn) :: r.spread }
          return ← tokenFor fuel skips seeks seeksAlias
      return t

def documents : Nat → Read Unit
  | 0 => return ()
  | fuel + 1 => do
    match (← get).awaited with
    | [] => return ()
    | doc :: rest =>
      modify fun r ↦ { r with awaited := rest }
      let rules := if doc.expands then Rules.double else .single
      let start : Scan := { top := { rules, doubled := doc.expands } }
      let (_, s) ← scan fuel (some doc.ending) true (← nextUnder rules) start
      checkClosed true s
      modify fun r ↦ { r with documents := (doc.number, s.word) :: r.documents }
      documents fuel

/-- Read a list of commands. One that is a line of its own ends with the line, and is nothing at
the end of the text; otherwise it ends before a token that may end it, if it has begun or may be
empty. -/
def commands : Nat → Bool → Bool → Option Tree → Read (Option Tree)
  | 0, _, _, sofar => return sofar
  | fuel + 1, isLine, mayEnd, sofar => do
    modify fun r ↦ { r with skipsLines := !isLine, seeksKeyword := true, seeksAlias := true }
    let soFar := sofar.getD .nothing
    match ← token fuel with
    | .newline =>
      documents fuel
      return some soFar
    | .endOfFile =>
      documents fuel
      modify fun r ↦ { r with token := .endOfFile, pushedBack := true }
      return if isLine && sofar.isNone then none else some soFar
    | t =>
      pushBack
      if mayEnd && t.endsList then return some soFar
      let command ← alternatives fuel
      let t ← token fuel
      let command := if t = .ampersand then inBackground command else command
      let sofar := match sofar with
        | none => command
        | some first => .sequence first command
      match t with
      | .endOfFile =>
        documents fuel
        modify fun r ↦ { r with token := .endOfFile, pushedBack := true }
        return some sofar
      | .newline =>
        pushBack
        commands fuel isLine (!isLine) (some sofar)
      | .ampersand | .semicolon => commands fuel isLine (!isLine) (some sofar)
      | _ =>
        if isLine then unexpected none
        pushBack
        return some sofar

def block : Nat → Read Tree
  | 0 => return .nothing
  | fuel + 1 => do return (← commands fuel false false none).getD .nothing

def alternatives : Nat → Read Tree
  | 0 => return .nothing
  | fuel + 1 => do moreAlternatives fuel (← pipeline fuel)

def moreAlternatives : Nat → Tree → Read Tree
  | 0, first => return first
  | fuel + 1, first => do
    let t ← token fuel
    if t = .andAnd || t = .orOr then
      modify fun r ↦ { r with skipsLines := true, seeksKeyword := true, seeksAlias := true }
      let second ← pipeline fuel
      moreAlternatives fuel (if t = .andAnd then .both first second else .either first second)
    else
      pushBack
      return first

def pipeline : Nat → Read Tree
  | 0 => return .nothing
  | fuel + 1 => do
    let negated := (← token fuel) = .bang
    if negated then modify fun r ↦ { r with seeksKeyword := true, seeksAlias := true } else pushBack
    let first ← command fuel
    let rest ← members fuel
    pushBack
    let body := if rest.isEmpty then first else .pipeline false (first :: rest)
    return if negated then .negation body else body

def members : Nat → Read (List Tree)
  | 0 => return []
  | fuel + 1 => do
    if (← token fuel) = .bar then
      modify fun r ↦ { r with skipsLines := true, seeksKeyword := true, seeksAlias := true }
      let next ← command fuel
      return next :: (← members fuel)
    else return []

def demand : Nat → Token → Read Unit
  | 0, _ => return ()
  | fuel + 1, wanted => do
    if (← token fuel) ≠ wanted then unexpected (some wanted)

def command : Nat → Read Tree
  | 0 => return .nothing
  | fuel + 1 => do
    let line := (← get).line
    let closed (wanted : Token) (body : Tree) : Read Tree := do
      demand fuel wanted
      trailing fuel line body
    match ← token fuel with
    | .ifWord =>
      let test ← block fuel
      demand fuel .thenWord
      let body ← block fuel
      let otherwise ← branches fuel
      closed .fiWord (.choice test body otherwise)
    | .whileWord =>
      let test ← block fuel
      demand fuel .doWord
      closed .doneWord (.loop true test (← block fuel))
    | .untilWord =>
      let test ← block fuel
      demand fuel .doWord
      closed .doneWord (.loop false test (← block fuel))
    | .forWord =>
      let t ← token fuel
      let r ← get
      let name := (Word.plain? r.word).getD []
      if t ≠ .word || r.quoted || !isName name then failure "Bad for loop variable"
      modify fun r ↦ { r with skipsLines := true, seeksKeyword := true, seeksAlias := true }
      let words ← (do
        if (← token fuel) = .inWord then
          let ws ← words fuel
          let t := (← get).token
          if t ≠ .newline && t ≠ .semicolon then unexpected none
          return ws
        else
          if (← get).token ≠ .semicolon then pushBack
          return [[.quote, .parameter [byteOf '@'] .plain false [], .quote]])
      modify fun r ↦ { r with skipsLines := true, seeksKeyword := true, seeksAlias := true }
      demand fuel .doWord
      closed .doneWord (.each line name words (← block fuel))
    | .caseWord =>
      if (← token fuel) ≠ .word then unexpected (some .word)
      let word := (← get).word
      modify fun r ↦ { r with skipsLines := true, seeksKeyword := true, seeksAlias := true }
      demand fuel .inWord
      let arms ← arms fuel
      trailing fuel line (.select line word arms)
    | .openParen => closed .closeParen (.subshell line (← block fuel) [])
    | .openBrace => closed .closeBrace (← block fuel)
    | .word | .redirection =>
      pushBack
      let line := (← get).line
      simple fuel line [] [] [] true
    | _ => unexpected none

def branches : Nat → Read Tree
  | 0 => return .nothing
  | fuel + 1 => do
    match ← token fuel with
    | .elifWord =>
      let test ← block fuel
      demand fuel .thenWord
      let body ← block fuel
      return .choice test body (← branches fuel)
    | .elseWord => block fuel
    | _ =>
      pushBack
      return .nothing

def words : Nat → Read (List Word)
  | 0 => return []
  | fuel + 1 => do
    if (← token fuel) = .word then
      let word := (← get).word
      return word :: (← words fuel)
    else return []

def arms : Nat → Read (List (List Word × Tree))
  | 0 => return []
  | fuel + 1 => do
    modify fun r ↦ { r with skipsLines := true, seeksKeyword := true }
    let t ← token fuel
    if t = .esacWord then return []
    if t = .openParen then let _ ← token fuel
    let labels ← patterns fuel
    if (← get).token ≠ .closeParen then unexpected (some .closeParen)
    let body := (← commands fuel false true none).getD .nothing
    modify fun r ↦ { r with skipsLines := true, seeksKeyword := true, seeksAlias := true }
    match ← token fuel with
    | .esacWord => return [(labels, body)]
    | .endArm => return (labels, body) :: (← arms fuel)
    | _ => unexpected (some .endArm)

def patterns : Nat → Read (List Word)
  | 0 => return []
  | fuel + 1 => do
    let word := (← get).word
    if (← token fuel) = .bar then
      let _ ← token fuel
      return word :: (← patterns fuel)
    else return [word]

def trailing : Nat → Nat → Tree → Read Tree
  | 0, _, body => return body
  | fuel + 1, line, body => do
    modify fun r ↦ { r with seeksKeyword := true, seeksAlias := true }
    let redirections ← redirections fuel
    pushBack
    return withRedirections line body redirections

def redirections : Nat → Read (List Redirection)
  | 0 => return []
  | fuel + 1 => do
    if (← token fuel) = .redirection then
      let first ← target fuel
      return first :: (← redirections fuel)
    else return []

def target : Nat → Read Redirection
  | 0 => return .copy 0 none
  | fuel + 1 => do
    let r ← get
    if let .document _ := r.direction then modify fun r ↦ { r with seeksEnding := true }
    if (← token fuel) ≠ .word then unexpected none
    modify fun s ↦ { s with descriptor := r.descriptor }
    redirectionTo r.descriptor r.direction

def simple : Nat → Nat → List Word → List Word → List Redirection → Bool → Read Tree
  | 0, _, _, _, _, _ => return .nothing
  | fuel + 1, line, assignments, words, redirections, mayAssign => do
    modify fun r ↦ { r with seeksAlias := mayAssign }
    match ← token fuel with
    | .word =>
      let word := (← get).word
      if mayAssign && word.isAssignment then
        simple fuel line (assignments ++ [word]) words redirections true
      else simple fuel line assignments (words ++ [word]) redirections false
    | .redirection =>
      let r ← target fuel
      simple fuel line assignments words (redirections ++ [r]) mayAssign
    | .openParen =>
      match words with
      | [word] =>
        if assignments.isEmpty && redirections.isEmpty then
          demand fuel .closeParen
          let name := (Word.plain? word).getD []
          if !isName name || specialCommands.contains name then failure "Bad function name"
          modify fun r ↦ { r with skipsLines := true, seeksKeyword := true, seeksAlias := true }
          return .function name (← command fuel)
        else
          pushBack
          return .simple line assignments words redirections
      | _ =>
        pushBack
        return .simple line assignments words redirections
    | _ =>
      pushBack
      return .simple line assignments words redirections

end

end Read

namespace Reader

def ofText (text : Bytes) (nextDocument : Nat) : Reader :=
  { rest := text.characters, nextDocument }

/-- Read the next complete command, some words standing for other text. Nothing comes at the end
of the text; the reader that is left knows the line of an error. -/
def read (r : Reader) (aliases : List (Bytes × Bytes)) : Except String (Option Tree) × Reader :=
  let start := { r with
    pushedBack := false, skipsLines := false, seeksKeyword := false, seeksEnding := false
    seeksAlias := false, aliases, awaited := [], documents := [] }
  let size := (10 * r.rest.length + 50) * (aliases.length + 1)
  (Read.commands size true false none).run.run start

end Reader

end IngestCheck.Host.Shell
