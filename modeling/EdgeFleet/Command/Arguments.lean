import EdgeFleet.Config
/-!
# Command-line arguments

A command line is read level by level: the options of the program, then a subcommand with options
of its own. Options that take a value take it behind `=` or as the next word, which may not start
with a hyphen; a value is looked at when its option is read, before the words behind it. An option
stands once a level. Two options are common to all levels, and the deepest value of one counts.
Options of `serve` may also come from the environment of the process.
-/

namespace EdgeFleet

namespace Command

/-- Why a command line leads to no request. -/
inductive Stop where
  | usage
  | help
  | version
  | longVersion
deriving DecidableEq, Repr

/-- Reads a whole number of a range. -/
def readNumber (literal range : Decimal.Range) (s : String) : Except Stop Int :=
  match Decimal.read literal s.toList with
  | .ok n => if range.holds n then .ok n else .error .usage
  | .error _ => .error .usage

def readSeconds (s : String) : Except Stop Nat :=
  (readNumber Decimal.word64 Decimal.word64 s).map Int.toNat

/-- Reads a number of seconds of 32 bits. -/
def readShortSeconds (s : String) : Except Stop UInt32 :=
  (readNumber Decimal.signed64 Decimal.word32 s).map UInt32.ofInt

def readPorts (s : String) : Except Stop PortRange :=
  (PortRange.read s.toList).mapError (fun _ => Stop.usage)

/-- What the value of an option may be. -/
inductive ValueForm where
  | text
  | seconds
  | shortSeconds
  | ports
deriving DecidableEq, Repr

/-- Looks at a value. -/
def ValueForm.check (value : String) : ValueForm → Except Stop Unit
  | text => .ok ()
  | seconds => do
    let _ ← readSeconds value
    .ok ()
  | shortSeconds => do
    let _ ← readShortSeconds value
    .ok ()
  | ports => do
    let _ ← readPorts value
    .ok ()

/-- What an option does. -/
inductive OptionKind where
  | flag
  | value (form : ValueForm)
  | stop (reason : Stop)
deriving DecidableEq, Repr

/-- The options of a level, by their long names, and by their letters those that have one. -/
structure Level where
  long : List (String × OptionKind)
  short : List (Char × String)
  subcommands : List String

/-- The options common to all levels. -/
def commonOptions : List (String × OptionKind) :=
  [("verbose", .flag), ("database-url", .value .text), ("help", .stop .help)]

def topLevel : Level :=
  ⟨("version", .stop .longVersion) :: commonOptions, [('v', "verbose"), ('h', "help")],
    ["serve", "environments", "help"]⟩

def serveLevel : Level :=
  ⟨[("tunnel-secret", .value .text), ("keep-alive-secs", .value .shortSeconds),
      ("sweep-interval-secs", .value .seconds), ("tunnel-port-range", .value .ports),
      ("credential-ttl-secs", .value .seconds), ("api-url", .value .text),
      ("tunnel-addr", .value .text)] ++ commonOptions,
    [('v', "verbose"), ('h', "help")], []⟩

def environmentsLevel : Level :=
  ⟨commonOptions, [('v', "verbose"), ('h', "help")], ["list", "help"]⟩

def listLevel : Level := ⟨commonOptions, [('v', "verbose"), ('h', "help")], []⟩

/-- The options given at a level; a flag is given with an empty value. -/
abbrev Given : Type := List (String × String)

/-- Notes an option, which stands once a level. -/
def Given.note (given : Given) (name value : String) : Except Stop Given :=
  if (given.lookup name).isSome then .error .usage else .ok ((name, value) :: given)

/-- Reads a cluster of one-letter options. -/
def readLetters (level : Level) : List Char → Given → Except Stop Given
  | [], given => .ok given
  | c :: r, given =>
    if c = 'V' ∧ (level.long.lookup "version").isSome then .error .version
    else match level.short.lookup c with
      | none => .error .usage
      | some name =>
        match level.long.lookup name with
        | some (.stop reason) => .error reason
        | _ => do readLetters level r (← given.note name "")

/-- What stands at the front of the words of a level. -/
inductive Front where
  | nothing
  /-- The end of the options, with the words behind it. -/
  | endOfOptions (rest : List String)
  /-- A long option with the value behind its `=`. -/
  | long (name : String) (value : Option String) (rest : List String)
  | letters (letters : List Char) (rest : List String)
  | word (word : String) (rest : List String)

/-- Tells what stands at the front. -/
def front : List String → Front
  | [] => .nothing
  | w :: r =>
    match w.toList with
    | ['-', '-'] => .endOfOptions r
    | '-' :: '-' :: name =>
      match name.dropWhile (· ≠ '=') with
      | [] => .long (String.ofList name) none r
      | _ :: value => .long (String.ofList (name.takeWhile (· ≠ '='))) (some (String.ofList value)) r
    | '-' :: c :: letters => .letters (c :: letters) r
    | _ => .word w r

/-- Whether a word may be the value of the option before it. -/
def isValue (w : String) : Bool :=
  match w.toList with
  | '-' :: _ :: _ => false
  | _ => true

/-- The options given at a level and, where one follows, the subcommand with the words behind it. -/
abbrev LevelRead : Type := Given × Option (String × List String)

/-- Reads the words of a level behind options that were read before. -/
def readLevel (level : Level) : Nat → List String → Given → Except Stop LevelRead
  | 0, _, _ => .error .usage
  | n + 1, words, given =>
    match front words with
    | .nothing => .ok (given, none)
    | .endOfOptions rest => if rest.isEmpty then .ok (given, none) else .error .usage
    | .letters letters rest => do readLevel level n rest (← readLetters level letters given)
    | .word w rest => if level.subcommands.contains w then .ok (given, some (w, rest)) else .error .usage
    | .long name value? rest =>
      match level.long.lookup name, value?, rest with
      | none, _, _ => .error .usage
      | some (.stop reason), none, _ => .error reason
      | some .flag, none, rest => do readLevel level n rest (← given.note name "")
      | some (.value form), some value, rest => do
        form.check value
        readLevel level n rest (← given.note name value)
      | some (.value form), none, w :: rest =>
        if isValue w then do
          form.check w
          readLevel level n rest (← given.note name w)
        else .error .usage
      | some _, _, _ => .error .usage

/-- Reads the words of a level. Every step takes a word at least. -/
def Level.read (level : Level) (words : List String) : Except Stop LevelRead :=
  readLevel level (words.length + 1) words []

structure ServeOptions where
  secret : String
  keepAlive : Option UInt32
  config : Config
  apiUrl : String
  tunnelAddress : String

/-- What a command line asks for. -/
inductive Request where
  | serve (options : ServeOptions)
  | listEnvironments

/-- What is known of the environment of the process. -/
abbrev Variables : Type := String → Option String

/-- Reads the options of `serve`; those not given may come from the environment of the process. -/
def readServe (given : Given) (vars : Variables) : Except Stop ServeOptions := do
  let value (name fallback : String) : Option String := (given.lookup name).or (vars fallback)
  let keepAlive ← (value "keep-alive-secs" "EDGEWARD_KEEP_ALIVE_SECS").mapM readShortSeconds
  let sweepInterval ← (value "sweep-interval-secs" "EDGEWARD_SWEEP_INTERVAL_SECS").mapM readSeconds
  let ports ← (value "tunnel-port-range" "EDGEWARD_TUNNEL_PORT_RANGE").mapM readPorts
  let credentialValidity ←
    (value "credential-ttl-secs" "EDGEWARD_CREDENTIAL_TTL_SECS").mapM readSeconds
  match value "tunnel-secret" "EDGEWARD_TUNNEL_SECRET" with
  | none => .error .usage
  | some secret =>
    .ok
      { secret
        keepAlive
        config :=
          { keepAlive := (keepAlive.map UInt32.toNat).getD Config.standard.keepAlive
            sweepInterval := sweepInterval.getD Config.standard.sweepInterval
            ports := ports.getD Config.standard.ports
            credentialValidity := credentialValidity.getD Config.standard.credentialValidity }
        apiUrl := (value "api-url" "EDGEWARD_API_URL").getD Config.apiUrl
        tunnelAddress := (value "tunnel-addr" "EDGEWARD_TUNNEL_ADDR").getD Config.tunnelAddress }

/-- The chains of subcommands that help can be asked for. -/
def helpTopics : List (List String) :=
  [[], ["serve"], ["environments"], ["environments", "list"], ["environments", "help"], ["help"]]

/-- What comes of asking for help behind some subcommands. -/
def helpOn (topic : List String) : Stop := if helpTopics.contains topic then .help else .usage

/-- What a command line asks for, and the URL of the database, if one was given. -/
def read (words : List String) (vars : Variables) : Except Stop (Request × Option String) := do
  let url (levels : List Given) : Option String :=
    (levels.findSome? (·.lookup "database-url")).or (vars "EDGEWARD_DATABASE_URL")
  let (top, subcommand) ← topLevel.read words
  match subcommand with
  | some ("serve", words) =>
    let (given, _) ← serveLevel.read words
    .ok (.serve (← readServe given vars), url [given, top])
  | some ("environments", words) =>
    let (middle, subcommand) ← environmentsLevel.read words
    match subcommand with
    | some ("list", words) =>
      let (given, _) ← listLevel.read words
      .ok (.listEnvironments, url [given, middle, top])
    | some (_, words) => .error (helpOn ("environments" :: words))
    | none => .error .usage
  | some (_, words) => .error (helpOn words)
  | none => .error .usage

end Command

end EdgeFleet
