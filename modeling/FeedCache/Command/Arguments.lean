/-
This file reads the arguments of the command line.

Options may stand before the name of the command or after it, and between the words that follow
the name. Two hyphens alone end the options.
-/
namespace FeedCache

/-- What a user asks for. -/
inductive Command where
  /-- One run: the primary resource, then the secondary ones from the cache, then a cleanup. -/
  | grab (session primary : String) (secondary : List String) (fromInput : Bool)
      (outDirectory : Option String)
  /-- One resource through the cache of a session. -/
  | get (session url : String)
  /-- One resource without a cache. -/
  | fetch (url : String)
  /-- The entries of a session. -/
  | keys (session : String)
  /-- No entries for a session any more. -/
  | purge (session : String)
  deriving DecidableEq, Repr

namespace Command

/-- The names of the commands. -/
inductive Verb where
  | grab
  | get
  | fetch
  | keys
  | purge
  deriving DecidableEq, Repr

def Verb.ofName? (name : String) : Option Verb :=
  match name with
  | "grab" => some .grab
  | "get" => some .get
  | "fetch" => some .fetch
  | "keys" => some .keys
  | "purge" => some .purge
  | _ => none

/-- The number of words after a name that are not too many. -/
def Verb.allows (verb : Verb) (words : Nat) : Bool :=
  match verb with
  | .grab => true
  | .get => words ≤ 2
  | .fetch | .keys | .purge => words ≤ 1

/-- The options that a value follows. -/
inductive Valued where
  | basePath
  | outDirectory
  deriving DecidableEq, Repr

/-- The reasons why no command is run. -/
inductive Stop where
  | misuse
  | version
  | help
  deriving DecidableEq, Repr

structure Options where
  basePath : Option String := none
  outDirectory : Option String := none
  logsJson : Bool := false
  fromInput : Bool := false
  deriving DecidableEq, Repr

/-- A path is not empty, and an option is given once. -/
def Options.assign (options : Options) (option : Valued) (value : String) :
    Except Stop Options :=
  if value.isEmpty then .error .misuse
  else match option with
    | .basePath =>
        if options.basePath.isSome then .error .misuse
        else .ok { options with basePath := some value }
    | .outDirectory =>
        if options.outDirectory.isSome then .error .misuse
        else .ok { options with outDirectory := some value }

/-- The option that a value follows; some belong to one command only. -/
def Valued.ofName? (verb : Option Verb) (name : String) : Option Valued :=
  if name = "base-path" then some .basePath
  else if name = "out-dir" ∧ verb = some .grab then some .outDirectory
  else none

/-- An option without a value is given once. -/
def Options.raise (options : Options) (verb : Option Verb) (name : String) :
    Except Stop Options :=
  if name = "help" then .error .help
  else if name = "version" ∧ verb = none then .error .version
  else if name = "log-json" ∧ options.logsJson = false then .ok { options with logsJson := true }
  else if name = "stdin" ∧ verb = some .grab ∧ options.fromInput = false then
    .ok { options with fromInput := true }
  else .error .misuse

/-- One argument. -/
inductive Word where
  | plain (text : String)
  | short (letter : Char)
  | long (name : String) (value : Option String)
  | separator
  deriving DecidableEq, Repr

/-- A hyphen alone is a plain word. The value of a long option may follow an equals sign. -/
def Word.ofText (text : String) : Word :=
  match text.toList with
  | ['-', '-'] => .separator
  | '-' :: '-' :: rest =>
      .long (String.ofList (rest.takeWhile (· != '=')))
        (match rest.dropWhile (· != '=') with
        | [] => none
        | _ :: value => some (String.ofList value))
  | '-' :: letter :: _ => .short letter
  | _ => .plain text

/-- A long option is completed, or waits for its value. -/
def Options.readLong (options : Options) (verb : Option Verb) (name : String)
    (value : Option String) : Except Stop (Option Valued × Options) :=
  match Valued.ofName? verb name, value with
  | some option, some value => do return (none, ← options.assign option value)
  | some option, none => .ok (some option, options)
  | none, none => do return (none, ← options.raise verb name)
  | none, some _ => .error .misuse

def readShort (verb : Option Verb) (letter : Char) : Stop :=
  if letter = 'h' then .help else if letter = 'V' ∧ verb = none then .version else .misuse

/-- The arguments up to the name of the command, and those after it. An option may be waiting for
its value. -/
def readName (waiting : Option Valued) (options : Options) :
    List String → Except Stop (Verb × Options × List String)
  | [] => .error .misuse
  | text :: rest =>
      match waiting, Word.ofText text with
      | some option, .plain value => do readName none (← options.assign option value) rest
      | some _, _ => .error .misuse
      | none, .plain name =>
          match Verb.ofName? name with
          | some verb => .ok (verb, options, rest)
          | none => .error (if name = "help" then .help else .misuse)
      | none, .short letter => .error (readShort none letter)
      | none, .separator => .error .misuse
      | none, .long name value => do
          let (waiting, options) ← options.readLong none name value
          readName waiting options rest

/-- The words after the name of a command and its options. So many words have been read
before. -/
def readWords (verb : Verb) (waiting : Option Valued) (options : Options) (before : Nat) :
    List String → Except Stop (Options × List String)
  | [] => if waiting.isSome then .error .misuse else .ok (options, [])
  | text :: rest =>
      match waiting, Word.ofText text with
      | some option, .plain value => do
          readWords verb none (← options.assign option value) before rest
      | some _, _ => .error .misuse
      | none, .plain word =>
          if verb.allows (before + 1) then do
            let (options, words) ← readWords verb none options (before + 1) rest
            return (options, word :: words)
          else .error .misuse
      | none, .short letter => .error (readShort (some verb) letter)
      | none, .separator =>
          if verb.allows (before + rest.length) then .ok (options, rest) else .error .misuse
      | none, .long name value => do
          let (waiting, options) ← options.readLong (some verb) name value
          readWords verb waiting options before rest

/-- The command of a name with its words. -/
def ofWords (verb : Verb) (options : Options) (words : List String) : Except Stop Command :=
  match verb, words with
  | .grab, session :: primary :: secondary =>
      .ok (.grab session primary secondary options.fromInput options.outDirectory)
  | .get, [session, url] => .ok (.get session url)
  | .fetch, [url] => .ok (.fetch url)
  | .keys, [session] => .ok (.keys session)
  | .purge, [session] => .ok (.purge session)
  | _, _ => .error .misuse

/-- A command and the base directory that it is run with, if it names one. -/
structure Invocation where
  command : Command
  basePath : Option String
  deriving DecidableEq, Repr

/-- An option after the name counts more than one before it. -/
def Invocation.ofArguments (arguments : List String) : Except Stop Invocation := do
  let (verb, outer, rest) ← readName none {} arguments
  let (inner, words) ← readWords verb none {} 0 rest
  return ⟨← ofWords verb inner words, inner.basePath.or outer.basePath⟩

end Command

end FeedCache
