import Rs256Cose.Host

/-!
# Log lines

Every line is given to a `Logger`, which prints it if its severity is the logger's level or more. A
logger is set up once, by the name of a level: setting it up again changes nothing.
-/

namespace Rs256Cose.Log

/-! ### Set-up -/

/-- What was to be used as a level and is none: a text, or a value of another kind as it is
printed. -/
inductive UnknownLevel where
  | text (content : String)
  | value (printed : String)
  deriving DecidableEq, Repr

def UnknownLevel.message : UnknownLevel → String
  | text content => s!"Unknown level: '{content}'"
  | value printed => s!"Level not an integer or a valid string: {printed}"

/-- The layout of a bare line. -/
def bareLayout : String := "%(levelname)s:%(name)s:%(message)s"

/-- The styles in which layouts are written, each with the layout of a bare line in it. -/
def layoutStyles : String :=
  "\x7b'%': (<class 'logging.PercentStyle'>, '%(levelname)s:%(name)s:%(message)s'), " ++
  "'\x7b': (<class 'logging.StrFormatStyle'>, " ++
  "'\x7blevelname\x7d:\x7bname\x7d:\x7bmessage\x7d'), " ++
  "'$': (<class 'logging.StringTemplateStyle'>, " ++
  "'$\x7blevelname\x7d:$\x7bname\x7d:$\x7bmessage\x7d')\x7d"

/-- What goes by a name among those of the levels without being one. -/
def layoutNamed? : String → Option UnknownLevel
  | "BASIC_FORMAT" => some (.text bareLayout)
  | "_STYLES" => some (.value layoutStyles)
  | _ => none

/-- The level of a name: `info` for a name that stands for nothing. -/
def levelOfName (name : String) : Except UnknownLevel Severity :=
  match Severity.ofName? name, layoutNamed? name with
  | some s, _ => .ok s
  | none, some e => .error e
  | none, none => .ok .info

structure Logger where
  /-- How many times each line is printed. -/
  handlers : Nat
  level : Severity
  deriving DecidableEq, Repr

namespace Logger

/-- A logger that nobody has set up. -/
def fresh : Logger := ⟨0, .unset⟩

/-- Sets a logger up. The handler is there before the level is looked at, so it stays when the
name is refused, and from then on the logger counts as set up. -/
def setUp (name : String) (l : Logger) : Except UnknownLevel Unit × Logger :=
  if l.handlers ≠ 0 then (.ok (), l)
  else match levelOfName name with
  | .ok level => (.ok (), ⟨1, level⟩)
  | .error e => (.error e, { l with handlers := 1 })

/-- Sets a logger up a number of times, until a refusal. -/
def setUpTimes (name : String) : Nat → Logger → Except UnknownLevel Unit × Logger
  | 0, l => (.ok (), l)
  | times + 1, l =>
    match l.setUp name with
    | (.ok (), l) => setUpTimes name times l
    | refused => refused

/-- Whether lines of this severity are printed. -/
def admits (l : Logger) (s : Severity) : Bool :=
  (if l.level = .unset then Severity.warning else l.level) ≤ s

end Logger

/-! ### Printing -/

def line (stamp : String) (s : Severity) (message : String) : String :=
  s!"[{stamp}] {s.word} {message}"

variable {m : Type → Type} [Monad m] [Host m]

/-- Prints a line once for each handler. -/
def emit : Nat → String → m Unit
  | 0, _ => return
  | handlers + 1, line => do
    Host.print line
    emit handlers line

def log (l : Logger) (s : Severity) (message : String) : m Unit := do
  Host.note s message
  if l.admits s then
    let stamp : String ← Host.stamp
    emit l.handlers (line stamp s message)

end Rs256Cose.Log
