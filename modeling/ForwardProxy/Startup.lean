import ForwardProxy.Config

/-!
# Starting up

The proxy does not start with a configuration that it refuses. The message names the refusal and what
caused it.
-/

namespace ForwardProxy.Startup

/-- The exit code of a program that did not start. -/
def failureCode : UInt32 := 1

/-- The wording of a refusal to start. -/
def refusal (problem : Config.Problem) : String :=
  "Error: invalid configuration\n\nCaused by:\n    " ++ problem.message ++ "\n"

/-- The refusal to start in an environment, if there is a reason for one. -/
def refusal? (env : Environment) : Option String :=
  (Config.ofEnvironment env).problem?.map refusal

end ForwardProxy.Startup
