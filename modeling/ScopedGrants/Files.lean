/-!
Files and environment variables as they are given to a run.
-/

namespace ScopedGrants

inductive File where
  | folder
  | bytes (content : ByteArray)

def File.ofText (text : String) : File := bytes text.toUTF8

def File.text? : File → Option String
  | folder => none
  | bytes content => String.fromUTF8? content

abbrev Environment := List (String × ByteArray)

/-- The value of a variable. One that is empty or no text counts as unset. -/
def Environment.get? (environment : Environment) (name : String) : Option String :=
  ((environment.lookup name).bind String.fromUTF8?).filter (· ≠ "")

end ScopedGrants
