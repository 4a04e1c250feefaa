import IngestCheck.Host.Toolbox.Basic
import IngestCheck.Host.Toolbox.Mode

namespace IngestCheck.Host.Toolbox

def makeStations (name : Bytes) (tell : Bool) (path : Path) : Act Nat := do
  let rec make : List Path → Act Nat
    | [] => return 0
    | station :: rest => do
      let p ← get
      match p.host.files.directory p.directory station with
      | .ok _ => make rest
      | .error refusal =>
        match ← changeFiles fun t cwd ↦ t.makeDirectory cwd station with
        | .ok () =>
          if tell then
            let _ ← print name (name ++ ": created directory " ++ quoted station ++ "\n")
          make rest
        | .error e =>
          let e := if rest.isEmpty || refusal = .noEntry then e else refusal
          let verb : Bytes := if refusal = .linkLoop then "cannot stat "
            else "cannot create directory "
          fault name (verb ++ quoted station ++ ": " ++
            describe (if refusal = .linkLoop then refusal else e))
  make (((FileTree.stations (bare path)).filter (!·.isEmpty)).dropLast ++ [path])

def makeDirectories (words : List Bytes) : Act Nat :=
  let options : Options := {
    letters := [('p', false), ('v', false), ('Z', false), ('m', true)]
    names := [("parents", 'p'), ("verbose", 'v'), ("mode", 'm')] }
  given options words fun name g ↦ do
    if g.operands.isEmpty then return ← misuse name 1 "missing operand"
    if let some mode := g.argument? 'm' then
      if (Mode.changed? (← get).mask true mode 0o777).isNone then
        return ← fault name ("invalid mode " ++ cited mode)
    each g.operands fun a ↦ do
      if g.has 'p' then makeStations name (g.has 'v') a
      else
        let status ← changeOrFault name ("cannot create directory " ++ quoted a)
          fun t cwd ↦ t.makeDirectory cwd a
        if g.has 'v' && status = 0 then
          print name (name ++ ": created directory " ++ quoted a ++ "\n")
        else return status

def ancestry (path : Path) : List Path :=
  ((FileTree.stations (bare path)).filter (!·.isEmpty)).reverse

def removeDirectories (words : List Bytes) : Act Nat :=
  given (flags "pv" [("parents", 'p'), ("verbose", 'v')]) words fun name g ↦ do
    if g.operands.isEmpty then return ← misuse name 1 "missing operand"
    let tell (path : Path) : Act Unit := do
      if g.has 'v' then let _ ← print name (name ++ ": removing directory, " ++ quoted path ++ "\n")
    let rec above : List Path → Act Nat
      | [] => return 0
      | path :: rest => do
        tell path
        match ← changeFiles fun t cwd ↦ t.removeDirectory cwd path with
        | .ok () => above rest
        | .error e =>
          fault name ("failed to remove directory " ++ quoted path ++ ": " ++ describe e)
    each g.operands fun a ↦ do
      tell a
      match ← changeFiles fun t cwd ↦ t.removeDirectory cwd a with
      | .ok () => if g.has 'p' then above ((ancestry a).drop 1) else return 0
      | .error e =>
        let behind ← found true a
        let isLink := match ← found false (bare a) with
          | .ok (_, .link _) => e = .notDirectory && a.getLast? = some Path.slash
          | _ => false
        let leads := match behind with
          | .ok (_, entry) => entry = .directory
          | .error e => e ≠ .notDirectory
        let why : Bytes := if isLink && leads then "Symbolic link not followed" else describe e
        fault name ("failed to remove " ++ quoted a ++ ": " ++ why)

def removeInside (name : Bytes) (tell : Bool) (path : Path) (place : Place) : Act Unit := do
  let p ← get
  let inside := (p.host.files.below place).reverse
  let _ ← changeFiles fun t _ ↦ .ok (t.hollow place)
  if tell then
    let line (e : Place × Entry) : Bytes :=
      (if e.2 = .directory then "removed directory " else "removed ") ++
        quoted (List.intercalate [Path.slash] (bare path :: e.1)) ++ "\n"
    let _ ← print name (inside.flatMap line)

def removeOne (name : Bytes) (g : Given) (path : Path) : Act Nat := do
  let deep := g.has 'r' || g.has 'R'
  let cannot (e : HostError) : Act Nat :=
    fault name ("cannot remove " ++ quoted path ++ ": " ++ describe e)
  let isMissing (e : HostError) : Bool := e = .noEntry || e = .notDirectory
  match ← found false path with
  | .error _ => match ← changeFiles fun t cwd ↦ t.unlink cwd path with
    | .ok () => return 0
    | .error e => if g.has 'f' && isMissing e then return 0 else cannot e
  | .ok (place, .directory) =>
    let p ← get
    let last := FileTree.lastPiece path
    if !deep && !g.has 'd' then cannot .isDirectory
    else if !deep && p.host.files.hasBelow place then cannot .notEmpty
    else if last = Path.dot ∨ last = Path.dotDot then
      fault name ("refusing to remove '.' or '..' directory: skipping " ++ quoted path)
    else if place.isEmpty then
      let _ ← fault name "it is dangerous to operate recursively on '/'"
      fault name "use --no-preserve-root to override this failsafe"
    else
      removeInside name (g.has 'v') path place
      match ← changeFiles fun t cwd ↦ t.removeDirectory cwd path with
      | .ok () =>
        if g.has 'v' then print name ("removed directory " ++ quoted path ++ "\n") else return 0
      | .error e => if g.has 'f' && isMissing e then return 0 else cannot e
  | .ok (place, _) =>
    let _ ← changeFiles fun t _ ↦ .ok (t.erase place)
    if g.has 'v' then print name ("removed " ++ quoted path ++ "\n") else return 0

def remove (words : List Bytes) : Act Nat :=
  let names := [("recursive", 'r'), ("force", 'f'), ("dir", 'd'), ("verbose", 'v')]
  given (flags "rRfdviI" names) words fun name g ↦ do
    if g.operands.isEmpty && !g.has 'f' then return ← misuse name 1 "missing operand"
    each g.operands (removeOne name g)

def touch (words : List Bytes) : Act Nat :=
  let options : Options := {
    letters := [('a', false), ('c', false), ('f', false), ('h', false), ('m', false), ('d', true),
      ('r', true), ('t', true)]
    names := [("no-create", 'c'), ("date", 'd'), ("reference", 'r'), ("no-dereference", 'h')] }
  given options words fun name g ↦ do
    if g.operands.isEmpty then return ← misuse name 1 "missing file operand"
    let unset (a : Path) (e : HostError) : Act Nat :=
      fault name ("setting times of " ++ quoted a ++ ": " ++ describe e)
    let keeps := g.has 'c' || g.has 'h'
    each g.operands fun a ↦ do
      let p ← get
      if a = ("-" : Bytes) then
        if (p.channel? 1).isNone && !keeps then return ← unset a .badDescriptor
        return 0
      match if keeps then .error .isDirectory else p.host.files.lookUpToMake p.directory a with
      | .ok (place, none) =>
        let _ ← changeFiles fun t _ ↦ .ok (t.put place (.file (Mode.without 0o666 p.mask) []))
        return 0
      | .ok (_, some _) => return 0
      | .error .isDirectory => match ← found (!g.has 'h') a with
        | .ok _ => return 0
        | .error e => if g.has 'c' && e = .noEntry then return 0 else unset a e
      | .error e => fault name ("cannot touch " ++ quoted a ++ ": " ++ describe e)

def isModeWord (word : Bytes) : Bool :=
  match word.characters with
  | '-' :: c :: _ => ['r', 'w', 'x', 'X', 's', 't', 'u', 'g', 'o'].contains c || c.isDigit
  | _ => false

/-- The permissions of an entry. Those of directories and tools never change. -/
def permissions (e : Entry) : Nat :=
  match e with
  | .file mode _ => mode
  | .directory | .tool _ => 0o755
  | .link _ => 0o777
  | .null | .stream _ => 0o666

def changeMode (words : List Bytes) : Act Nat :=
  let mode? := (words.drop 1).find? isModeWord
  let others := match mode? with
    | some mode => words.erase mode
    | none => words
  let names := [("recursive", 'R'), ("changes", 'c'), ("silent", 'f'), ("quiet", 'f'),
    ("verbose", 'v')]
  given (flags "Rcfv" names) others fun name g ↦ do
    let operands := mode?.toList ++ g.operands
    match operands with
    | [] => misuse name 1 "missing operand"
    | [mode] => misuse name 1 ("missing operand after " ++ cited mode)
    | mode :: paths =>
      let mask := (← get).mask
      if (Mode.changed? mask false mode 0).isNone then
        return ← misuse name 1 ("invalid mode: " ++ cited mode)
      let refuse (a : Path) (text : Bytes) : Act Nat := do
        if !g.has 'f' then let _ ← fault name text
        if g.has 'v' then let _ ← print name (quoted a ++ " could not be accessed\n")
        return 1
      let change (path : Path) (place : Place) (entry : Entry) : Act Nat := do
        if let .link _ := entry then
          if g.has 'v' then
            return ← print name
              ("neither symbolic link " ++ quoted path ++ " nor referent has been changed\n")
          return 0
        let old := permissions entry
        let new := (Mode.changed? mask (entry = .directory) mode old).getD old
        if let .file _ content := entry then
          let _ ← changeFiles fun t _ ↦ .ok (t.put place (.file new content))
        if old = new then
          if g.has 'v' then
            return ← print name ("mode of " ++ quoted path ++ " retained as " ++
              Mode.described old ++ "\n")
        else if g.has 'v' || g.has 'c' then
          return ← print name ("mode of " ++ quoted path ++ " changed from " ++
            Mode.described old ++ " to " ++ Mode.described new ++ "\n")
        return 0
      each paths fun a ↦ do
        match ← found true a, ← found false a with
        | .error .noEntry, .ok (_, .link _) =>
          refuse a ("cannot operate on dangling symlink " ++ quoted a)
        | .error e, _ => refuse a ("cannot access " ++ quoted a ++ ": " ++ describe e)
        | .ok (place, entry), _ =>
          let p ← get
          let inside := if g.has 'R' then p.host.files.below place else []
          let status ← change a place entry
          inside.foldlM (fun status x ↦ do
            let path := List.intercalate [Path.slash] (bare a :: x.1)
            return max status (← change path (place ++ x.1) x.2)) status

def shownNames (g : Given) (t : FileTree) (place : Place) : List (Bytes × Entry) :=
  let inside := (t.below place).filterMap fun e ↦ match e.1 with
    | [name] => some (name, e.2)
    | _ => none
  let isHidden (name : Bytes) : Bool := name.head? = some (byteOf '.')
  if g.has 'a' then (Path.dot, .directory) :: (Path.dotDot, .directory) :: inside
  else if g.has 'A' then inside
  else inside.filter fun e ↦ !isHidden e.1

def marked (g : Given) (e : Bytes × Entry) : Bytes :=
  let mark : String := match e.2 with
    | .directory => if g.has 'p' || g.has 'F' then "/" else ""
    | .link _ => if g.has 'F' then "@" else ""
    | .file mode _ => if g.has 'F' && mode &&& 0o111 ≠ 0 then "*" else ""
    | .tool _ => if g.has 'F' then "*" else ""
    | .null | .stream _ => ""
  e.1 ++ mark ++ "\n"

def inOrder {α : Type} (g : Given) (names : List (Bytes × α)) : List (Bytes × α) :=
  let sorted := names.mergeSort fun a b ↦ !decide (b.1 < a.1)
  if g.has 'r' then sorted.reverse else sorted

def sections (g : Given) (t : FileTree) (hasHeading : Bool) :
    Nat → Bytes → Place → List Bytes
  | 0, _, _ => []
  | fuel + 1, path, place =>
    let inside := inOrder g (shownNames g t place)
    let heading : Bytes := if hasHeading then path ++ ":\n" else []
    let isBelow (e : Bytes × Entry) : Bool :=
      e.2 = .directory && e.1 ≠ Path.dot && e.1 ≠ Path.dotDot
    let deeper := if g.has 'R' then inside.filter isBelow else []
    (heading ++ inside.flatMap (marked g)) ::
      deeper.flatMap fun e ↦ sections g t hasHeading fuel (within path e.1) (place ++ [e.1])

def list (words : List Bytes) : Act Nat :=
  let names := [("all", 'a'), ("almost-all", 'A'), ("directory", 'd'), ("recursive", 'R'),
    ("reverse", 'r')]
  let options := { flags "1aAdprFCxlhtSR" names with status := 2 }
  given options words fun name g ↦ do
    let operands := if g.operands.isEmpty then [Path.dot] else g.operands
    let p ← get
    let mut status := 0
    let mut files : List (Bytes × Entry) := []
    let mut directories : List (Bytes × Place) := []
    for a in operands do
      let isDirectory := match ← found (!g.has 'F') a with
        | .ok (place, .directory) => if g.has 'd' then none else some place
        | _ => none
      match isDirectory with
      | some place => directories := directories ++ [(a, place)]
      | none =>
        match ← found false a with
        | .ok (_, e) => files := files ++ [(a, e)]
        | .error e =>
          let _ ← fault name ("cannot access " ++ quoted a ++ ": " ++ describe e)
          status := 2
    let hasHeading := operands.length ≠ 1 || g.has 'R'
    let shown := (inOrder g directories).flatMap fun d ↦
      sections g p.host.files hasHeading ((p.host.files.below d.2).length + 1) d.1 d.2
    let first := (inOrder g files).flatMap (marked g)
    let blocks := (if files.isEmpty then [] else [first]) ++ shown
    return max status (← print name (List.intercalate "\n" blocks))

/-- Follow a path as far as there are links, and take it as it stands where there is nothing. -/
def reckon (t : FileTree) : Nat → Place → List Bytes → Place
  | 0, here, rest => rest.foldl (fun here piece ↦ here ++ [piece]) here
  | _, here, [] => here
  | fuel + 1, here, piece :: rest =>
    if piece = [] ∨ piece = Path.dot then reckon t fuel here rest
    else if piece = Path.dotDot then reckon t fuel here.dropLast rest
    else match t.entry? (here ++ [piece]) with
      | some (.link target) =>
        reckon t fuel (if Path.isAbsolute target then [] else here) (Path.pieces target ++ rest)
      | _ => reckon t fuel (here ++ [piece]) rest

def readLink (words : List Bytes) : Act Nat :=
  let names := [("canonicalize", 'f'), ("canonicalize-existing", 'e'),
    ("canonicalize-missing", 'm'), ("no-newline", 'n')]
  given (flags "femnqsvz" names) words fun name g ↦ do
    if g.operands.isEmpty then return ← misuse name 1 "missing operand"
    let ending : Bytes := if g.has 'n' && g.operands.length = 1 then []
      else if g.has 'z' then [0] else "\n"
    each g.operands fun a ↦ do
      let p ← get
      let result : Except HostError Path :=
        if g.has 'm' then
          if a.isEmpty then .error .noEntry
          else
            let start := if Path.isAbsolute a then [] else p.directory
            let fuel := a.length + FileTree.pathLimit
            .ok (Place.path (reckon p.host.files fuel start (Path.pieces a)))
        else if g.has 'f' || g.has 'e' then do
          let (place, entry) ← p.host.files.lookUp true p.directory (bare a)
          if g.has 'e' && entry.isNone then throw .noEntry
          if a.getLast? = some Path.slash && entry.any (· ≠ .directory) then throw .notDirectory
          return Place.path place
        else match p.host.files.find false p.directory a with
          | .ok (_, .link target) => .ok target
          | .ok _ => .error .invalidArgument
          | .error e => .error e
      match result with
      | .ok path => print name (path ++ ending)
      | .error e => if g.has 'v' then fault name (shown a ++ ": " ++ describe e) else return 1

end IngestCheck.Host.Toolbox
