import IngestCheck.Host.Toolbox.Basic
import IngestCheck.Host.Toolbox.Mode

namespace IngestCheck.Host.Toolbox

/-- Where operands go: each into a directory under its own last name, or one to a path. -/
inductive Goal where
  | into (directory : Path) (sources : List Path)
  | onto (source target : Path)

/-- Make out where the operands go, a failure being told. The last one counts as a directory if it
leads to one. -/
def goal (name : Bytes) (g : Given) (isDirectory : Path → Act (Except HostError Unit)) :
    Act (Except Nat Goal) := do
  let whole := g.has 'T'
  match g.operands, g.argument? 't' with
  | [], _ => return .error (← misuse name 1 "missing file operand")
  | sources, some directory =>
    if whole then
      return .error (← fault name "cannot combine --target-directory and --no-target-directory")
    match ← isDirectory directory with
    | .ok () => return .ok (.into directory sources)
    | .error e =>
      return .error (← fault name
        ("target directory " ++ quoted directory ++ ": " ++ describe e))
  | [source], none =>
    return .error (← misuse name 1 ("missing destination file operand after " ++ quoted source))
  | first :: second :: more, none =>
    let paths := first :: second :: more
    let target := paths.getLastD []
    if whole then
      if let extra :: _ := more then
        return .error (← misuse name 1 ("extra operand " ++ quoted extra))
      return .ok (.onto first second)
    match ← isDirectory target, more with
    | .ok (), _ => return .ok (.into target paths.dropLast)
    | .error _, [] => return .ok (.onto first second)
    | .error e, _ =>
      return .error (← fault name ("target " ++ quoted target ++ ": " ++ describe e))

def isDirectory (path : Path) : Act (Except HostError Unit) := do
  let p ← get
  return (p.host.files.directory p.directory path).map fun _ ↦ ()

structure Transfers where
  status : Nat := 0
  several : Bool := false
  made : List Place := []
  sources : List Place := []
  moved : List (Place × Path) := []
  first : Option Place := none
  astray : Bool := false

namespace Transfers

def fail (t : Transfers) (name text : Bytes) : Act Transfers := do
  return { t with status := ← fault name text }

def record (t : Transfers) (target : Path) : Act Transfers := do
  if !t.several then return t
  match ← found false target with
  | .ok (place, _) => return { t with made := place :: t.made }
  | .error _ => return t

def announce (tells : Bool) (name lead source target : Bytes) : Act Unit := do
  if tells then let _ ← print name (lead ++ quoted source ++ " -> " ++ quoted target ++ "\n")

end Transfers

def reached (target : Path) : Path := if target.isEmpty then Path.dot else target

inductive Following where
  | all
  | operands
  | none
  deriving DecidableEq

structure Copying where
  name : Bytes
  deep : Bool
  following : Following
  force : Bool
  spares : Bool
  tells : Bool
  whole : Bool
  /-- Whether permissions are kept in spite of the mask. -/
  keeps : Bool

namespace Copying

def fill (c : Copying) (t : Transfers) (source target : Path) (entry : Entry) : Act Transfers := do
  let content ← match ← contents source with
    | .error e =>
      return ← t.fail c.name ("cannot open " ++ quoted source ++ " for reading: " ++ describe e)
    | .ok content => pure content
  let p ← get
  let files := p.host.files
  let mode := match entry with
    | .file mode _ => mode
    | .tool _ => 0o755
    | _ => 0o666
  let fresh : Entry := .file (if c.keeps then mode else Mode.without mode p.mask) content
  let put (place : Place) (e : Entry) : Act Transfers := do
    let _ ← changeFiles fun t _ ↦ .ok (t.put place e)
    return t
  let refuse (e : HostError) : Act Transfers :=
    t.fail c.name ("cannot create regular file " ++ quoted target ++ ": " ++ describe e)
  match files.lookUp true p.directory target with
  | .ok (place, some (.file old _)) => put place (.file (if c.keeps then mode else old) content)
  | .ok (_, some .null) => return t
  | .ok (_, some (.stream n)) =>
    writeBytes n content
    return t
  | .ok (place, some _) => put place fresh
  | found => match found, files.lookUp false p.directory target with
    | .error .linkLoop, .ok (place, _) => if c.force then put place fresh else refuse .linkLoop
    | _, .ok (_, some _) =>
      t.fail c.name ("not writing through dangling symlink " ++ quoted target)
    | _, _ => match files.lookUpToMake p.directory target with
      | .ok (place, _) => put place fresh
      | .error .isDirectory => refuse .notDirectory
      | .error e => refuse e

def obstacle? (c : Copying) (t : Transfers) (isOperand : Bool) (source target : Path)
    (here : Place) (entry : Entry) (place : Place) (old : Entry) : Act (Option Bytes) := do
  let isSame ← (do
    if place = here then return true
    match entry, old with
    | .link _, .link _ => return false
    | .link _, _ | _, .link _ =>
      if c.following ≠ .none then return false
      match ← found true source, ← found true (reached target) with
      | .ok (a, _), .ok (b, _) => return decide (a = b)
      | _, _ => return false
    | _, _ => return false : Act Bool)
  if isSame then
    return some (quoted source ++ " and " ++ quoted target ++ " are the same file")
  if old ≠ .directory then
    if entry = .directory then
      return some ("cannot overwrite non-directory " ++ quoted target ++ " with directory " ++
        quoted source)
    if isOperand && t.made.contains place then
      return some ("will not overwrite just-created " ++ quoted target ++ " with " ++
        quoted source)
  else if entry ≠ .directory then
    return some ("cannot overwrite directory " ++ quoted target ++ " with non-directory")
  return none

/-- Copy what is at a path, directories with all below. The operand and its goal are told if a
directory would go into itself. -/
def copy (c : Copying) (operand goal : Path) :
    Nat → Transfers → Bool → Path → Path → Act Transfers
  | 0, t, _, _, _ => return t
  | fuel + 1, t, isOperand, source, target => do
    let p ← get
    let files := p.host.files
    let follows := c.following = .all || (isOperand && c.following = .operands)
    match files.find follows p.directory source with
    | .error e => t.fail c.name ("cannot stat " ++ quoted source ++ ": " ++ describe e)
    | .ok (here, entry) =>
      let isDirectory := entry = .directory
      let isLink := match entry with
        | .link _ => true
        | _ => false
      if isDirectory && !c.deep then
        return ← t.fail c.name ("-r not specified; omitting directory " ++ quoted source)
      if isOperand && t.several && !isDirectory && t.sources.contains here then
        let _ ← fault c.name
          ("warning: source file " ++ quoted source ++ " specified more than once")
        return t
      let t := if isOperand then { t with sources := here :: t.sources } else t
      let isPlain := !isDirectory && !isLink
      let there := files.lookUp isPlain p.directory
        (if isPlain && !c.whole then target else reached target)
      let old ← match there with
        | .ok (place, some old) =>
          if c.spares && !isDirectory then return t
          if let some text := ← c.obstacle? t isOperand source target here entry place old then
            return ← t.fail c.name text
          if isLink && old ≠ .directory then
            let _ ← changeFiles fun t _ ↦ .ok (t.erase place)
            if c.tells then let _ ← print c.name ("removed " ++ quoted target ++ "\n")
            pure none
          else pure (some old)
        | .ok (_, none) | .error .noEntry => pure none
        | .error .linkLoop =>
          if !c.force then
            return ← t.fail c.name ("cannot stat " ++ quoted target ++ ": " ++ describe .linkLoop)
          pure none
        | .error e => return ← t.fail c.name ("cannot stat " ++ quoted target ++ ": " ++ describe e)
      if isOperand && t.several then
        if let .ok (place, .link _) := ← found false target then
          if t.made.contains place then
            return ← t.fail c.name ("will not copy " ++ quoted source ++
              " through just-created symlink " ++ quoted target)
      if !isDirectory then Transfers.announce c.tells c.name "" source target
      let t ← match entry with
        | .link aim =>
          match ← changeFiles fun t cwd ↦ t.makeLink cwd target aim with
          | .ok () => pure t
          | .error e =>
            t.fail c.name ("cannot create symbolic link " ++ quoted target ++ ": " ++ describe e)
        | .directory =>
          if t.first = some here then
            let t ← t.fail c.name ("cannot copy a directory, " ++ quoted operand ++
              ", into itself, " ++ quoted goal)
            return { t with astray := true }
          if let some earlier := if isOperand then t.moved.lookup here else none then
            if earlier = target then
              let _ ← fault c.name
                ("warning: source directory " ++ quoted operand ++ " specified more than once")
              return t
            return ← t.fail c.name ("will not create hard link " ++ quoted target ++
              " to directory " ++ quoted earlier)
          let inside := (files.below here).filterMap fun e ↦ if e.1.length = 1 then e.1.head?
            else none
          let t := if isOperand then { t with moved := (here, target) :: t.moved } else t
          let t ← (do
            if old = some .directory then return t
            match ← changeFiles fun t cwd ↦ t.makeDirectory cwd target with
            | .error e =>
              return { ← t.fail c.name
                ("cannot create directory " ++ quoted target ++ ": " ++ describe e) with
                astray := true }
            | .ok () =>
              Transfers.announce c.tells c.name "" source target
              match ← found false target with
              | .ok (place, _) => return { t with first := t.first.or (some place) }
              | .error _ => return t : Act Transfers)
          let own := t.first.bind fun place ↦
            if place.dropLast = here then place.getLast? else none
          let names := (inside.filter (some · ≠ own)) ++ own.toList
          names.foldlM (fun t name ↦ do
            if t.astray then return t
            c.copy operand goal fuel t false (within source name) (within target name)) t
        | entry => c.fill t source target entry
      if isOperand then t.record target else return t

end Copying

def copy (words : List Bytes) : Act Nat :=
  let letters := ("rRafpvnTdPLH".toList.map fun c ↦ (c, false)) ++ [('t', true)]
  let names := [("recursive", 'r'), ("archive", 'a'), ("force", 'f'), ("verbose", 'v'),
    ("no-clobber", 'n'), ("no-target-directory", 'T'), ("target-directory", 't'),
    ("dereference", 'L'), ("no-dereference", 'P')]
  given { letters, names } words fun name g ↦ do
    if g.has 'n' then
      let _ ← fault name ("warning: behavior of -n is non-portable and may change in future; " ++
        "use --update=none instead")
    let deep := g.has 'r' || g.has 'R' || g.has 'a'
    let chosen := (g.options.reverse.find? fun o ↦
      [('P'), 'd', 'a', 'L', 'H'].contains o.1).map (·.1)
    let following := match chosen with
      | some 'L' => Following.all
      | some 'H' => .operands
      | some _ => .none
      | none => if deep then .none else .all
    let c : Copying := {
      name, deep, following
      force := g.has 'f', spares := g.has 'n', tells := g.has 'v', whole := g.has 'T'
      keeps := g.has 'p' || g.has 'a' }
    let run (t : Transfers) (source target : Path) : Act Transfers := do
      let size := (← get).host.files.entries.length
      c.copy source target (size + 2) { t with first := none, astray := false } true source target
    match ← goal name g isDirectory with
    | .error status => return status
    | .ok (.onto source target) => return (← run {} source target).status
    | .ok (.into directory sources) =>
      let t ← sources.foldlM (fun t source ↦
        let last := FileTree.lastPiece source
        run t source (within directory (if last = Path.dotDot then Path.dot else last)))
        { several := 1 < sources.length : Transfers }
      return t.status

def moveOne (name : Bytes) (spares tells : Bool) (t : Transfers) (source target : Path) :
    Act Transfers := do
  let rename (spares : Bool) (target : Path) :=
    changeFiles fun t cwd ↦ t.rename spares cwd source target
  let renamed : Act Transfers := do
    Transfers.announce tells name "renamed " source target
    t.record target
  let cannot (e : HostError) : Act Transfers :=
    if e = .invalidArgument then
      t.fail name ("cannot move " ++ quoted source ++ " to a subdirectory of itself, " ++
        quoted target)
    else if e = .alreadyThere ∨ e = .notEmpty ∨ e = .isDirectory then
      t.fail name ("cannot overwrite " ++ quoted target ++ ": " ++ describe e)
    else
      t.fail name ("cannot move " ++ quoted source ++ " to " ++ quoted target ++ ": " ++ describe e)
  match ← rename true target with
  | .ok () => renamed
  | .error refusal =>
    if spares && refusal = .alreadyThere then
      return ← t.fail name ("not replacing " ++ quoted target)
    match ← found false source, ← found false (reached target) with
    | .error e, _ => t.fail name ("cannot stat " ++ quoted source ++ ": " ++ describe e)
    | .ok _, .error .noEntry => cannot refusal
    | .ok _, .error e => t.fail name ("cannot stat " ++ quoted target ++ ": " ++ describe e)
    | .ok (here, entry), .ok (place, old) =>
      let isLink (e : Entry) : Bool := match e with
        | .link _ => true
        | _ => false
      let followed ← found true source
      let behind := if isLink entry && !isLink old then followed.toOption.map (·.1) else some here
      if behind = some place then
        return ← t.fail name
          (quoted source ++ " and " ++ quoted target ++ " are the same file")
      if spares then return ← t.fail name ("not replacing " ++ quoted target)
      if old ≠ .directory && entry = .directory then
        return ← t.fail name ("cannot overwrite non-directory " ++ quoted target ++
          " with directory " ++ quoted source)
      if old ≠ .directory && t.made.contains place then
        return ← t.fail name ("will not overwrite just-created " ++ quoted target ++ " with " ++
          quoted source)
      if entry ≠ .directory && old = .directory then
        return ← t.fail name
          ("cannot overwrite directory " ++ quoted target ++ " with non-directory")
      match ← rename false (reached target) with
      | .ok () => renamed
      | .error e => cannot e

def move (words : List Bytes) : Act Nat :=
  let letters := ("finvuT".toList.map fun c ↦ (c, false)) ++ [('t', true)]
  let names := [("force", 'f'), ("no-clobber", 'n'), ("verbose", 'v'),
    ("no-target-directory", 'T'), ("target-directory", 't')]
  given { letters, names } words fun name g ↦ do
    let last := (g.options.reverse.find? fun o ↦ o.1 = 'f' || o.1 = 'n').map (·.1)
    let act := moveOne name (last = some 'n') (g.has 'v')
    match ← goal name g isDirectory with
    | .error status => return status
    | .ok (.onto source target) => return (← act {} source target).status
    | .ok (.into directory sources) =>
      let t ← sources.foldlM (fun t source ↦
        act t source (within directory (FileTree.lastPiece source)))
        { several := 1 < sources.length : Transfers }
      return t.status

def attempt (g : Given) (target path : Path) (t : FileTree) (cwd : Place) :
    Except HostError FileTree :=
  if g.has 's' then t.makeLink cwd path target else t.makeTwin cwd path target

/-- Make one link. What was made before is not overwritten. -/
def makeLink (name : Bytes) (g : Given) (made : List Place) (target path : Path) : Act Nat := do
  let symbolic := g.has 's'
  let make := changeFiles (attempt g target path)
  let done : Act Nat := do
    if !g.has 'v' then return 0
    let arrow : String := if symbolic then " -> " else " => "
    print name (quoted path ++ arrow ++ quoted target ++ "\n")
  let cannot (e : HostError) : Act Nat :=
    let start : Bytes := "failed to create " ++ (if symbolic then "symbolic" else "hard") ++
      " link " ++ quoted path
    let also : Bytes :=
      if symbolic then if target.isEmpty || e = .nameTooLong then " -> " ++ quoted target else []
      else if e = .alreadyThere then []
      else " => " ++ quoted target
    fault name (start ++ also ++ ": " ++ describe e)
  match ← make with
  | .ok () => done
  | .error e =>
    if !symbolic then
      match ← found false target with
      | .error e => return ← fault name ("failed to access " ++ quoted target ++ ": " ++ describe e)
      | .ok (_, .directory) =>
        return ← fault name (shown target ++ ": hard link not allowed for directory")
      | .ok _ => pure ()
    if !g.has 'f' then return ← cannot e
    match ← found false path with
    | .error .noEntry => cannot e
    | .error e => fault name ("failed to access " ++ quoted path ++ ": " ++ describe e)
    | .ok (_, .directory) => fault name (shown path ++ ": cannot overwrite directory")
    | .ok (place, _) =>
      if made.contains place then
        return ← fault name ("will not overwrite just-created " ++ quoted path ++ " with " ++
          quoted target)
      if let .ok (source, _) := ← found symbolic target then
        if source = place then
          return ← fault name (quoted target ++ " and " ++ quoted path ++ " are the same file")
      if e ≠ .alreadyThere then return ← cannot e
      let _ ← changeFiles fun t _ ↦ .ok (t.erase place)
      match ← make with
      | .ok () => done
      | .error e => cannot e

def link (words : List Bytes) : Act Nat :=
  let letters := ("sfnvTPL".toList.map fun c ↦ (c, false)) ++ [('t', true)]
  let names := [("symbolic", 's'), ("force", 'f'), ("no-dereference", 'n'), ("verbose", 'v'),
    ("no-target-directory", 'T'), ("target-directory", 't')]
  given { letters, names } words fun name g ↦ do
    let leadsToDirectory (path : Path) : Act (Except HostError Unit) := do
      match ← found (!g.has 'n') path with
      | .ok (_, .directory) => return .ok ()
      | .ok _ => return .error .notDirectory
      | .error e => return .error e
    let into (directory : Path) (targets : List Path) : Act Nat := do
      let (status, _) ← targets.foldlM (fun ((status, made) : Nat × List Place) target ↦ do
        let path := within directory (FileTree.lastPiece target)
        let result ← makeLink name g made target path
        let place := (← found false path).toOption.map (·.1)
        return (max status result, if g.has 's' then made else place.toList ++ made)) (0, [])
      return status
    let settled ← (match g.operands, g.has 'T' || g.has 't' with
      | [target], false => return .ok (.into Path.dot [target])
      | [target, path], false => do
        /- A directory takes the link in only if it stands in the way of it. -/
        let p ← get
        match attempt g target path p.host.files p.directory with
        | .error (.os 17) | .error (.os 20) | .error (.os 22) => goal name g leadsToDirectory
        | _ => return .ok (.onto target path)
      | _, _ => goal name g leadsToDirectory : Act (Except Nat Goal))
    match settled with
    | .error status => return status
    | .ok (.onto target path) => makeLink name g [] target path
    | .ok (.into directory targets) => into directory targets

end IngestCheck.Host.Toolbox
