import SessionScript.Template.Resolve
import SessionScript.Value.Integer

/-!
# Random functions

The functions that every session can call: a random number and a random text. What is random comes
from the host, which is asked for numbers below a bound.
-/

namespace SessionScript.Functions

variable {σ : Type}

/-- A source of numbers below a bound that is not zero. -/
abbrev Draw (σ : Type) := Nat → σ → Nat × σ

/-- The characters of random texts. -/
def alphabet : List Char :=
  "abcdefghijklmnopqrstuvwxyzABCDEFGHIJKLMNOPQRSTUVWXYZ0123456789".toList

/-- The failure of a call with more arguments than a function takes. -/
def tooMany (name : String) (most given : Nat) : Failure :=
  .raise "TypeError"
    (name ++ "() takes from 0 to " ++ Text.ofNat most ++ " positional argument" ++
      (if most == 1 then "" else "s") ++ " but " ++ Text.ofNat given ++ " were given")

/-- A random integer between two bounds, which both count. -/
def randomNumber (draw : Draw σ) : Template.Function σ := fun args vars host =>
  let bounds : Except Failure (Int × Int) := do
    if 2 < args.length then throw (tooMany "random_number" 2 args.length)
    let low ← ((args[0]?).getD (Value.int 0)).toInteger
    let high ← ((args[1]?).getD (Value.int 10000)).toInteger
    if high < low then
      throw
        (.raise "ValueError"
          ("empty range in randrange(" ++ Text.ofInt low ++ ", " ++ Text.ofInt (high + 1) ++ ")"))
    return (low, high)
  match bounds with
  | .error f => (.error f, vars, host)
  | .ok (low, high) =>
    let (n, host) := draw (high - low + 1).toNat host
    (.ok (.int (low + n)), vars, host)

/-- Random characters. -/
def randomChars (draw : Draw σ) : Nat → σ → List Char × σ
  | 0, host => ([], host)
  | n + 1, host =>
    let (i, host) := draw alphabet.length host
    let (cs, host) := randomChars draw n host
    ((alphabet[i]?).getD 'a' :: cs, host)

/-- A random text of letters and digits of a length. -/
def randomString (draw : Draw σ) : Template.Function σ := fun args vars host =>
  let length : Except Failure Int := do
    if 1 < args.length then throw (tooMany "random_string" 1 args.length)
    (args.headD (Value.int 10)).toInteger
  match length with
  | .error f => (.error f, vars, host)
  | .ok n =>
    let (cs, host) := randomChars draw n.toNat host
    (.ok (.text (String.ofList cs)), vars, host)

/-- The functions that are bound in every session. -/
def builtin (draw : Draw σ) : Template.Functions σ :=
  [("randomNumber", randomNumber draw), ("randomString", randomString draw)]

end SessionScript.Functions
