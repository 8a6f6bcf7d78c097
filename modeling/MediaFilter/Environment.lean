/-!
The variables of the environment that a program is started in.  One that is not there is unset,
which is not the same as empty.
-/

namespace MediaFilter

abbrev Environment := List (String × String)

namespace Environment

def get? (environment : Environment) (name : String) : Option String :=
  (environment.find? fun entry => entry.1 == name).map Prod.snd

def filled? (environment : Environment) (name : String) : Option String :=
  (environment.get? name).filter fun value => !value.isEmpty

end Environment

end MediaFilter
