/-
Module: WebHost.Logging
Purpose: Which log lines are shown.
Main exports:
  defaultDirective
-/

namespace WebHost

/-- The components whose log lines a level selects. -/
def loggedComponents : List String := ["websrv", "websrv_client", "tower_http"]

/-- The directive that shows lines from a level on, for every component. -/
def defaultDirective (level : String) : String :=
  ",".intercalate (loggedComponents.map fun component => component ++ "=" ++ level)

end WebHost
