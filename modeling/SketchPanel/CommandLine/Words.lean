/-
The words of a command line, as `parse_args` takes them. A word may name an option, in full or by the start of a long
name, with its value joined by an equals sign or, after a short name, without one; short options without values may
share a word. After a divider every word is plain, and so are negative numbers and unknown words with a space in them.
-/
import SketchPanel.Number.Numeral

namespace SketchPanel.CommandLine

open Text Number

/-- what an option stands for, and whether a value goes with it -/
structure Choice (κ : Type) where
  which : κ
  takesValue : Bool

/-- options by all their names -/
abbrev Grammar (κ : Type) := List (List Char × Choice κ)

/-- what a word is; an option may have a text attached to it in the same word -/
inductive Word (κ : Type) where
  | plain
  | divider
  | option (choice : Choice κ) (short : Bool) (attached : Option (List Char))
  | unknown

variable {κ : Type}

/-- whether a name is a long one -/
def isLong (name : List Char) : Bool := ['-', '-'].isPrefixOf name

/-- a word parted at its first equals sign -/
def atEquals (word : List Char) : List Char × Option (List Char) :=
  match word.dropWhile (· ≠ '=') with
  | [] => (word, none)
  | _ :: value => (word.takeWhile (· ≠ '='), some value)

/-- whether a word is a number below nought, which is no option -/
def isNegativeNumber (word : List Char) : Bool :=
  let body := match word.reverse with
    | '\n' :: before => before.reverse
    | _ => word
  match body with
  | '-' :: number =>
    match number.dropWhile isDigit with
    | [] => number != []
    | '.' :: part => part != [] && part.all isDigit
    | _ => false
  | _ => false

/-- the options that a word without an exact name may mean -/
def meanings (g : Grammar κ) (word : List Char) : List (Word κ) :=
  if isLong word then
    let (start, attached) := atEquals word
    (g.filter fun (name, _) => start.isPrefixOf name).map fun (_, choice) => .option choice false attached
  else
    (g.filter fun (name, _) => name == word.take 2).map fun (_, choice) =>
      .option choice true (some (word.drop 2))

/-- what a word is, none if it may mean several options -/
def classify (g : Grammar κ) (word : List Char) : Option (Word κ) :=
  match word with
  | '-' :: _ :: _ =>
    let (start, attached) := atEquals word
    match g.lookup word, (attached.bind fun _ => g.lookup start) with
    | some choice, _ => some (.option choice (!isLong word) none)
    | none, some choice => some (.option choice (!isLong start) attached)
    | none, none =>
      match meanings g word with
      | [one] => some one
      | [] => some (if isNegativeNumber word || word.contains ' ' then .plain else .unknown)
      | _ => none
  | _ => some .plain

/-- what every word is, none if one may mean several options -/
def classifyAll (g : Grammar κ) : List String → Option (List (String × Word κ))
  | [] => some []
  | text :: rest =>
    if text = "--" then some ((text, .divider) :: rest.map (·, .plain))
    else do return (text, ← classify g text.toList) :: (← classifyAll g rest)

/-! ## What the words say -/

/-- one thing that a command line says -/
inductive Event (κ : Type) where
  | chosen (which : κ) (value : Option String)
  /-- a plain word, with all words after it -/
  | plain (text : String) (after : List String)
  | divider
  | unknown
  /-- something that makes no sense, after which nothing else counts -/
  | wrong

/-- what the options in one word come to -/
inductive Cluster (κ : Type) where
  | wrong
  | whole (events : List (Event κ))
  /-- the last option still wants a value -/
  | wanting (events : List (Event κ)) (which : κ)

/-- the cluster with another event before it -/
def Cluster.after (event : Event κ) : Cluster κ → Cluster κ
  | .wrong => .wrong
  | .whole events => .whole (event :: events)
  | .wanting events which => .wanting (event :: events) which

/-- an option without anything attached -/
def alone (choice : Choice κ) : Cluster κ :=
  if choice.takesValue then .wanting [] choice.which else .whole [.chosen choice.which none]

/-- a short option with a text attached: its value, or further short options, all of which must be known -/
def shortCluster (g : Grammar κ) (choice : Choice κ) (text : List Char) : Cluster κ :=
  if choice.takesValue then .whole [.chosen choice.which (some (.ofList text))]
  else match text with
    | [] => .wrong
    | c :: rest =>
      match g.lookup ['-', c] with
      | none => .wrong
      | some next =>
        Cluster.after (.chosen choice.which none) (if rest.isEmpty then alone next else shortCluster g next rest)
termination_by text.length

/-- what an option with what is attached to it comes to -/
def cluster (g : Grammar κ) (choice : Choice κ) (short : Bool) : Option (List Char) → Cluster κ
  | none => alone choice
  | some text =>
    if short then shortCluster g choice text
    else if choice.takesValue then .whole [.chosen choice.which (some (.ofList text))]
    else .wrong

/-- what words say, one after another; an option takes its value only from a plain word right after it -/
def events (g : Grammar κ) : List (String × Word κ) → List (Event κ)
  | [] => []
  | (text, .plain) :: rest => .plain text (rest.map (·.1)) :: events g rest
  | (_, .divider) :: rest => .divider :: events g rest
  | (_, .unknown) :: rest => .unknown :: events g rest
  | (_, .option choice short attached) :: rest =>
    match cluster g choice short attached with
    | .wrong => [.wrong]
    | .whole said => said ++ events g rest
    | .wanting said which =>
      match rest with
      | (value, .plain) :: rest => said ++ .chosen which (some value) :: events g rest
      | _ => [.wrong]

end SketchPanel.CommandLine
