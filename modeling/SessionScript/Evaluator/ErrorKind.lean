import SessionScript.Evaluator.Datum
import SessionScript.Failure

/-!
# Kinds of errors

The kinds of errors that code can raise and handle, and which kinds include others.
-/

namespace SessionScript.Evaluator.ErrorKind

/-- The kinds directly below a kind. -/
def below : List (String × List String) := [
  ("BaseException", ["Exception", "KeyboardInterrupt", "SystemExit", "GeneratorExit"]),
  ("Exception", ["ArithmeticError", "AssertionError", "AttributeError", "BufferError", "EOFError",
    "ImportError", "LookupError", "MemoryError", "NameError", "OSError", "ReferenceError",
    "RuntimeError", "StopAsyncIteration", "StopIteration", "SyntaxError", "SystemError",
    "TypeError", "ValueError", "Warning"]),
  ("ArithmeticError", ["FloatingPointError", "OverflowError", "ZeroDivisionError"]),
  ("ImportError", ["ModuleNotFoundError"]),
  ("LookupError", ["IndexError", "KeyError"]),
  ("NameError", ["UnboundLocalError"]),
  ("OSError", ["BlockingIOError", "ChildProcessError", "ConnectionError", "FileExistsError",
    "FileNotFoundError", "InterruptedError", "IsADirectoryError", "NotADirectoryError",
    "PermissionError", "ProcessLookupError", "TimeoutError"]),
  ("ConnectionError", ["BrokenPipeError", "ConnectionAbortedError", "ConnectionRefusedError",
    "ConnectionResetError"]),
  ("RuntimeError", ["NotImplementedError", "RecursionError"]),
  ("SyntaxError", ["IndentationError"]),
  ("IndentationError", ["TabError"]),
  ("ValueError", ["UnicodeError"]),
  ("UnicodeError", ["UnicodeDecodeError", "UnicodeEncodeError", "UnicodeTranslateError"]),
  ("Warning", ["BytesWarning", "DeprecationWarning", "EncodingWarning", "FutureWarning",
    "ImportWarning", "PendingDeprecationWarning", "ResourceWarning", "RuntimeWarning",
    "SyntaxWarning", "UnicodeWarning", "UserWarning"])]

/-- The kind directly above a kind. -/
def above? (kind : String) : Option String :=
  (below.find? fun p => p.2.contains kind).map (·.1)

/-- Whether a name is that of a kind of errors. -/
def exists? (kind : String) : Bool := kind == "BaseException" || (above? kind).isSome

/-- Whether a kind includes another one, within some steps. -/
def includesWithin (kind : String) : Nat → String → Bool
  | 0, _ => false
  | n + 1, other =>
    kind == other || (match above? other with
      | some k => includesWithin kind n k
      | none => false)

/-- Whether a kind includes another one. -/
def includes (kind other : String) : Bool := includesWithin kind 8 other

/-- Another name of a kind. -/
def alias? : String → Option String
  | "IOError" | "EnvironmentError" => some "OSError"
  | _ => none

/-- An error of a kind with some arguments. A system error takes the kind of its number. -/
def make (kind : String) (args : List Datum) : Raised :=
  match kind, args with
  | "OSError", [.int n, text] => ⟨HostError.kindOfNumber n, [.int n, text]⟩
  | _, _ => ⟨kind, args⟩

end SessionScript.Evaluator.ErrorKind
