import TableSeed.CommandLine.Grammar

/-!
# Reading command lines

The words of a command line are read one after the other. A slot whose value stands in the next
word is open until something else follows, and is filled only then; so what is wrong with its value
is found after a switch that does not exist, and before everything else. A word of two hyphens ends
the switches.
-/

namespace TableSeed.CommandLine

/-- The words read so far. -/
structure Reading where
  flags : List Flag := []
  values : List (Slot × String) := []
  /-- A slot that is to be filled, with its value if that is read. -/
  opened : Option (Slot × Option String) := none
  /-- Whether two hyphens have ended the switches. -/
  switchesEnded : Bool := false

namespace Reading

/-- Fills a slot. -/
def fill (r : Reading) (slot : Slot) (value : String) : Except UsageError Reading := do
  if r.values.any (·.1 = slot) then throw (.repeated slot.name)
  slot.check value
  return { r with values := (slot, value) :: r.values }

/-- Fills the slot that is open. -/
def settle (r : Reading) : Except UsageError Reading :=
  match r.opened with
  | none => .ok r
  | some (slot, none) => .error (.noValue slot.name)
  | some (slot, some value) => { r with opened := none }.fill slot value

/-- Settles, or ends the reading. -/
def settled (r : Reading) : Except Interruption Reading := r.settle.mapError .wrong

/-- Takes account of a flag. -/
def setFlag (r : Reading) (f : Flag) : Except Interruption Reading := do
  let r ← r.settled
  match f with
  | .help => throw .help
  | .version => throw .version
  | _ =>
    if r.flags.contains f then throw (.wrong (.repeated f.name))
    return { r with flags := f :: r.flags }

/-- Takes account of a slot, whose value is given in the same word or may follow. -/
def setSlot (r : Reading) (slot : Slot) (value : Option String) : Except Interruption Reading := do
  let r ← r.settled
  match value with
  | some v => (r.fill slot v).mapError .wrong
  | none => return { r with opened := some (slot, none) }

/-- Reads a word behind its two hyphens. -/
def long (g : Grammar) (r : Reading) (cs : List Char) : Except Interruption Reading :=
  let name := String.ofList (cs.takeWhile (· ≠ '='))
  let value := match cs.dropWhile (· ≠ '=') with
    | _ :: rest => some (String.ofList rest)
    | [] => none
  match g.long.lookup name, value with
  | none, _ => throw (.wrong (.unknownArgument s!"--{name}"))
  | some (.slot slot), _ => r.setSlot slot value
  | some (.flag f), none => r.setFlag f
  | some (.flag f), some _ => throw (.wrong (.tooManyValues f.name))

/-- Reads a word behind its one hyphen: flags, of which the last may be a slot with its value. -/
def short (g : Grammar) (r : Reading) : List Char → Except Interruption Reading
  | [] => .ok r
  | c :: rest =>
    match g.short.lookup c with
    | none => throw (.wrong (.unknownArgument s!"-{c}"))
    | some (.flag f) => do short g (← r.setFlag f) rest
    | some (.slot slot) =>
      match rest with
      | [] => r.setSlot slot none
      | '=' :: value | value => r.setSlot slot (some (String.ofList value))

/-- Reads a word that is no switch: the value of a slot, or the document. -/
def plain (g : Grammar) (r : Reading) (word : String) : Except Interruption Reading :=
  let isDocumentOpen := r.opened.any (·.1 = .document) || r.values.any (·.1 = .document)
  match r.opened, r.switchesEnded with
  | some (slot, none), false => .ok { r with opened := some (slot, some word) }
  | _, _ =>
    if g.hasDocument && !isDocumentOpen then do
      let r ← r.settled
      return { r with opened := some (.document, some word) }
    else throw (.wrong (.unknownArgument word))

/-- Reads a word. -/
def word (g : Grammar) (r : Reading) (word : String) : Except Interruption Reading :=
  if r.switchesEnded then r.plain g word
  else
    match word.toList with
    | ['-', '-'] => .ok { r with switchesEnded := true }
    | '-' :: '-' :: cs => r.long g cs
    | '-' :: c :: cs => r.short g (c :: cs)
    | _ => r.plain g word

/-- Reads all words that follow the name of a command. -/
def words (g : Grammar) (ws : List String) : Except Interruption Reading := do
  (← ws.foldlM (fun r w => word g r w) {}).settled

/-- The value of a slot. -/
def value? (r : Reading) (slot : Slot) : Option String := r.values.lookup slot

/-- What `seed` is given. -/
def seedArguments (r : Reading) : Except Interruption SeedArguments :=
  match r.value? .document with
  | none => throw (.wrong .noDocument)
  | some document =>
    return {
      document
      config := r.value? .config
      noColor := r.flags.contains .noColor
      options := {
        databaseUrl := r.value? .database
        dropTables := r.flags.contains .dropTables
        schemaDir := r.value? .schemaDir
        dependencyDir := r.value? .dependencyDir
        maxConcurrentInserts := (r.value? .maxConcurrentInserts).bind Slot.count? } }

/-- What `tables` is given. -/
def tablesArguments (r : Reading) : TablesArguments where
  database := r.value? .database
  config := r.value? .config
  noColor := r.flags.contains .noColor

end Reading

namespace Invocation

/-- The names of commands, of which one shows the help of another one. -/
def commandNames : List String := ["seed", "tables", "help"]

/-- What the command for help shows. -/
def help : List String → Interruption
  | [] => .help
  | [name] => if commandNames.contains name then .help else .wrong (.unknownCommand name)
  | first :: second :: _ =>
    .wrong (.unknownCommand (if commandNames.contains first then second else first))

/-- The invocation of a command after switches of the program. -/
def ofCommand (before : Reading) (name : String) (ws : List String) :
    Except Interruption Invocation := do
  let verbose (r : Reading) : Bool := before.flags.contains .verbose || r.flags.contains .verbose
  match name with
  | "seed" =>
    let r ← Reading.words .seed ws
    return ⟨verbose r, .seed (← r.seedArguments)⟩
  | "tables" =>
    let r ← Reading.words .tables ws
    return ⟨verbose r, .tables r.tablesArguments⟩
  | "help" => throw (help ws)
  | _ => throw (.wrong (.unknownCommand name))

/-- Reads the words behind switches of the program. -/
def after (before : Reading) : List String → Except Interruption Invocation
  | [] => throw (.wrong (if before.flags.isEmpty then .nothing else .noCommand))
  | word :: rest =>
    if before.switchesEnded then
      throw (.wrong (if commandNames.contains word then .unknownArgument word else .unknownCommand word))
    else if word.startsWith "-" && word ≠ "-" then do after (← before.word .program word) rest
    else ofCommand before word rest

/-- Reads a command line, without the name of the program. -/
def ofWords (ws : List String) : Except Interruption Invocation := after {} ws

end Invocation

end TableSeed.CommandLine
