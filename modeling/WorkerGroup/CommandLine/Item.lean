/-
Items: what the words of a command line are.

A word is the manifest, an option with its value, a switch, or a request for help or the
version. An option's value is attached behind an equals sign or is the word after it,
unless that word starts with a hyphen and has more to it: such a word is an option
itself, and the option before it has no value. After a word of two hyphens all words are
taken as they are.

A word that is none of these is refused, but the line is still read item by item, since
what was refused is only one of the things that can be wrong with a line.
-/
set_option autoImplicit false

namespace WorkerGroup.CommandLine

/-! ## The options -/

/-- An option that takes a value. -/
inductive ValueOption where
  | endpoint
  | certificateAuthority
  | clusterVersion
  | dnsIp
  | offerings
  | timestamp
deriving DecidableEq, Repr

namespace ValueOption

/-- Every option that takes a value. -/
def all : List ValueOption :=
  [endpoint, certificateAuthority, clusterVersion, dnsIp, offerings, timestamp]

/-- The name of an option, behind its two hyphens. -/
def name : ValueOption → String
  | endpoint => "endpoint"
  | certificateAuthority => "ca"
  | clusterVersion => "cluster-version"
  | dnsIp => "dns-ip"
  | offerings => "offerings"
  | timestamp => "at"

/-- The option of a name. -/
def ofName? (s : String) : Option ValueOption :=
  all.find? fun o => o.name == s

end ValueOption

/-- A word that says something by being there. -/
inductive Switch where
  /-- The report is printed over several lines. -/
  | pretty
  /-- The state gauge is printed after the report. -/
  | metrics
  | help
  | version
deriving DecidableEq, Repr

namespace Switch

/-- Every switch. -/
def all : List Switch :=
  [pretty, metrics, help, version]

/-- The name of a switch, behind its two hyphens. -/
def name : Switch → String
  | pretty => "pretty"
  | metrics => "metrics"
  | help => "help"
  | version => "version"

/-- The switch of a name. -/
def ofName? (s : String) : Option Switch :=
  all.find? fun switch => switch.name == s

/-- The switch of a letter, behind one hyphen. -/
def ofLetter? (c : Char) : Option Switch :=
  if c = 'h' then some help
  else if c = 'V' then some version
  else none

end Switch

/-! ## Items -/

/-- What is wrong with a command line. -/
inductive UsageError where
  /-- Something that has to be there is not. -/
  | missingArgument
  /-- A word is no argument. -/
  | unknownArgument
  /-- An option or a switch stands twice. -/
  | repeatedArgument
  /-- An option has no value, or a path is empty. -/
  | missingValue
  /-- A value is not what its option takes. -/
  | invalidValue
  /-- A switch has a value. -/
  | unexpectedValue
deriving DecidableEq, Repr

/-- What a word, or a word and its value, is. -/
inductive Item where
  /-- A word without hyphens: the path of the manifest. -/
  | manifest (path : String)
  /-- An option whose value is attached to it. -/
  | attached (option : ValueOption) (value : String)
  /-- An option whose value is the next word, if that is a value. -/
  | detached (option : ValueOption) (value : Option String)
  | switch (switch : Switch)
  /-- A word that is no argument where it stands. -/
  | refused (error : UsageError)
deriving DecidableEq, Repr

namespace Item

/-! ## Words -/

/-- Whether a word is read as options: it starts with a hyphen and has more to it. -/
def startsOption (word : String) : Bool :=
  match word.toList with
  | '-' :: _ :: _ => true
  | _ => false

/-- A path, refused when it is not the first one. -/
def ofPath (seen : Bool) (path : String) : Item :=
  if seen then .refused .unknownArgument else .manifest path

/-- The item of a name, and of what stands behind the equals sign, if there is one. An
option without such a value has none yet. -/
def ofName (name : String) (value : Option String) : Item :=
  match ValueOption.ofName? name, Switch.ofName? name, value with
  | some option, _, some v => .attached option v
  | some option, _, none => .detached option none
  | none, some s, none => .switch s
  | none, some _, some _ => .refused .unexpectedValue
  | none, none, _ => .refused .unknownArgument

/-- A name, and what stands behind the first equals sign. -/
def splitValue (cs : List Char) : String × Option String :=
  let name := String.ofList (cs.takeWhile (· ≠ '='))
  match cs.dropWhile (· ≠ '=') with
  | _ :: value => (name, some (String.ofList value))
  | [] => (name, none)

/-- The item of a letter behind one hyphen. -/
def ofLetter (c : Char) : Item :=
  match Switch.ofLetter? c with
  | some s => .switch s
  | none => .refused .unknownArgument

/-- The items of a word that starts with a hyphen and has more to it. -/
def ofOptionWord (word : String) : List Item :=
  match word.toList with
  | '-' :: '-' :: cs => [ofName (splitValue cs).1 (splitValue cs).2]
  | _ :: letters => letters.map ofLetter
  | [] => []

/-- The items of the words behind a word of two hyphens. -/
def ofPaths : Bool → List String → List Item
  | _, [] => []
  | seen, path :: rest => ofPath seen path :: ofPaths true rest

/-- An option that was waiting for a value and got none. -/
def unanswered (waiting : Option ValueOption) : List Item :=
  waiting.toList.map fun option => .detached option none

/-- The items of words, given whether there was a path before them and which option waits
for its value. -/
def ofWordsAfter : Bool → Option ValueOption → List String → List Item
  | _, waiting, [] => unanswered waiting
  | seen, waiting, word :: rest =>
    if word = "--" then unanswered waiting ++ ofPaths seen rest
    else if startsOption word then
      unanswered waiting ++
        match ofOptionWord word with
        | [.detached option none] => ofWordsAfter seen (some option) rest
        | items => items ++ ofWordsAfter seen none rest
    else
      match waiting with
      | some option => .detached option (some word) :: ofWordsAfter seen none rest
      | none => ofPath seen word :: ofWordsAfter true none rest

/-- The items of a command line, in order. -/
def ofWords (words : List String) : List Item :=
  ofWordsAfter false none words

end Item

end WorkerGroup.CommandLine
