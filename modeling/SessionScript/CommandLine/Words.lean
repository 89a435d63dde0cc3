import SessionScript.CommandLine.Usage
import SessionScript.Text.Similar

/-!
# Words of a command line

The words that a part of the program is called with, sorted into switches and operands. A switch
has a long form, whose value may stand behind an equals sign, and some have a letter; letters
stand together in one word, in which a value may follow the last of them.
-/

namespace SessionScript.CommandLine

/-- A switch as it was used, with its value if it takes one. -/
structure Use where
  switch : Switch
  value : String := ""
  deriving DecidableEq, Repr

/-- The switches and operands of a call, each in the order of the words. -/
structure Words where
  uses : List Use := []
  operands : List String := []
  deriving DecidableEq, Repr

namespace Words

/-- Whether a word is a switch: a dash with something behind it. -/
def isSwitch (word : String) : Bool := word.startsWith "-" && 1 < word.length

/-- A word cut at its first equals sign. -/
def splitValue (word : String) : String × Option String :=
  let cs := word.toList
  match cs.dropWhile (· != '=') with
  | _ :: value => (String.ofList (cs.takeWhile (· != '=')), some (String.ofList value))
  | [] => (word, none)

/-- What a word of switches holds: the switches that are complete, and the one, as it was written,
    that takes the next word as its value. -/
structure Cluster where
  uses : List Use := []
  awaiting : Option (Switch × String) := none
  deriving DecidableEq, Repr

/-- Reads switches by their letters. -/
def ofLetters (known : List Switch) : List Char → Except Misuse Cluster
  | [] => .ok {}
  | c :: cs =>
    let name := String.ofList ['-', c]
    match known.find? fun s => s.letter? == some c with
    | none => .error (.unknownSwitch name [])
    | some s =>
      if s.takesValue then
        if cs.isEmpty then .ok { awaiting := some (s, name) }
        else .ok { uses := [⟨s, String.ofList cs⟩] }
      else do
        let rest ← ofLetters known cs
        return { rest with uses := ⟨s, ""⟩ :: rest.uses }

/-- Reads a word of switches. A word that starts with two dashes is a long form. -/
def ofSwitchWord (known : List Switch) (word : String) : Except Misuse Cluster :=
  let (name, value) := splitValue word
  match known.find? fun s => s.long == name, value with
  | some s, some v =>
    if s.takesValue then .ok { uses := [⟨s, v⟩] } else .error (.valueUnwanted name)
  | some s, none =>
    if s.takesValue then .ok { awaiting := some (s, name) } else .ok { uses := [⟨s, ""⟩] }
  | none, _ =>
    if word.startsWith "--" then
      .error (.unknownSwitch name (Text.similarTo name (known.map Switch.long)))
    else ofLetters known (word.toList.drop 1)

/-- Adds the switches of a word before all others. -/
def addUses (us : List Use) (w : Words) : Words := { w with uses := us ++ w.uses }

/-- Adds an operand before all others. -/
def addOperand (word : String) (w : Words) : Words := { w with operands := word :: w.operands }

/-- Sorts the words for a part of the program. Behind two dashes every word is an operand. -/
def read (p : Part) : List String → Except Misuse Words
  | [] => .ok {}
  | word :: words =>
    if word == "--" then .ok { operands := words }
    else if isSwitch word then do
      let cluster ← ofSwitchWord p.switches word
      match cluster.awaiting with
      | none => return addUses cluster.uses (← read p words)
      | some (s, name) =>
        match words with
        | value :: words => return addUses (cluster.uses ++ [⟨s, value⟩]) (← read p words)
        | [] => throw (.valueMissing name)
    else if p.mixesOperands then do return addOperand word (← read p words)
    else .ok { operands := word :: words }

/-- The values of a switch. -/
def values (w : Words) (s : Switch) : List String :=
  (w.uses.filter fun u => u.switch == s).map Use.value

/-- The value of a switch that counts, which is the last. -/
def value? (w : Words) (s : Switch) : Option String := (w.values s).getLast?

/-- How often a switch was used. -/
def count (w : Words) (s : Switch) : Nat := (w.values s).length

/-- Whether a switch was used. -/
def has (w : Words) (s : Switch) : Bool := w.count s != 0

end Words

end SessionScript.CommandLine
