import RequestBinding.Text.Blank

/-!
# Settings

What the environment says about reading sources and writing modules.
-/

namespace RequestBinding

/-- The variables of the environment with their values. -/
abbrev Environment := List (String × String)

structure Settings where
  /-- The name of the attribute that holds tags. -/
  tagAttribute : String
  /-- How the names of generated files end; such files are no sources. -/
  generatedEnding : String
deriving Repr, DecidableEq

namespace Settings

def default : Settings := ⟨"tag", "_bindings.rs"⟩

/-- The value of a variable, unless it is blank. -/
def given? (environment : Environment) (name : String) : Option String :=
  (environment.lookup name).filter fun value => !Text.isBlankText value.toList

/-- The settings of an environment. Blanks around the name of the attribute do not count; those in
the ending of files do. -/
def ofEnvironment (environment : Environment) : Settings :=
  ⟨((given? environment "TAGWRANGLER_TAG_ATTR").map Text.trimmed).getD default.tagAttribute,
    (given? environment "TAGWRANGLER_BINDINGS_SUFFIX").getD default.generatedEnding⟩

end Settings

end RequestBinding
