/-
# Locales

The console speaks English and Brazilian Portuguese.  A requested locale such as `pt_BR.UTF-8` is
compared without its encoding and without regard to the case of ASCII letters: first as a whole,
then by its language alone.  English is the answer to everything else.  The setting of the system
may also name a variant, as `pt_BR@euro` does, which does not count.

Models `resolve_locale` and `init_locale`.
-/

namespace QueryConsole

/-- A language of the console. -/
inductive Locale where
  | english
  | portuguese
  deriving DecidableEq, Repr

namespace Locale

/-- The tag of a locale. -/
def tag : Locale → String
  | english => "en"
  | portuguese => "pt-BR"

/-- The characters before the first separator. -/
def before (separator : Char) (cs : List Char) : List Char := cs.takeWhile (· ≠ separator)

/-- Characters in lower case, ASCII letters only. -/
def lower (cs : List Char) : List Char := cs.map Char.toLower

/-- The requested text with dashes for underscores, without its encoding. -/
def normalize (requested : List Char) : List Char :=
  before '.' (requested.map fun c => if c = '_' then '-' else c)

/-- The available locales, in order of preference. -/
def available : List Locale := [english, portuguese]

/-- The locale for a requested one. -/
def resolve (requested : String) : Locale :=
  let name := normalize requested.toList
  if name = ['C'] ∨ name = "POSIX".toList then english
  else
    match available.find? fun l => lower l.tag.toList = lower name with
    | some l => l
    | none =>
      let language := before '-' name
      (available.find? fun l => lower (before '-' l.tag.toList) = lower language).getD english

/-- The locale of the system, given the setting that governs it. -/
def ofSystem (setting : Option String) : Locale :=
  match setting with
  | some name => resolve (String.ofList (before '@' name.toList))
  | none => english

end Locale
end QueryConsole
